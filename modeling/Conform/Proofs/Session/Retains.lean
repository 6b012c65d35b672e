import Conform.Proofs.Session.Builds
import Mathlib.Data.List.Nodup
/-!
What a session never loses. Whatever is derived or looked up changes it in few ways: specs are kept
under keys that were free, cells are made, and cells that were empty are filled, once and for all.
-/

namespace Conform

namespace Session

/-! ## Changes -/

/-- What a single step of a derivation does to the session. -/
inductive Change : Session → Session → Prop
  | newInstance (s : Session) : Change s { s with nextSerial := s.nextSerial + 1 }
  | newCell (s : Session) : Change s { s with nextCell := s.nextCell + 1 }
  | keep {s : Session} {key : MemoKey} (spec : Spec) : s.memo.lookup key = none →
    Change s { s with memo := s.memo ++ [(key, spec)] }

/-- What a single step of a check does: that of a derivation, or an empty cell is filled. -/
inductive Advance : Session → Session → Prop
  | change {s t : Session} : Change s t → Advance s t
  | fill {s : Session} {cell : Nat} (spec : Spec) : s.filled.lookup cell = none →
    Advance s { s with filled := s.filled ++ [(cell, spec)] }

abbrev Changes : Session → Session → Prop := Relation.ReflTransGen Change

abbrev Advances : Session → Session → Prop := Relation.ReflTransGen Advance

variable {s t u : Session}

theorem Changes.advances (h : s.Changes t) : s.Advances t :=
  h.lift id fun _ _ => .change

theorem Changes.filled_eq (h : s.Changes t) : t.filled = s.filled := by
  induction h with
  | refl => rfl
  | tail _ hchange ih =>
    cases hchange with
    | newInstance | newCell => exact ih
    | keep => exact ih

/-! ## What is never lost -/

/-- The later session has every cell that the earlier one has, and filled alike if it was filled. -/
structure Retains (t s : Session) : Prop where
  filled : ∀ {cell : Nat} {spec : Spec},
    s.filled.lookup cell = some spec → t.filled.lookup cell = some spec
  nextCell : s.nextCell ≤ t.nextCell

namespace Retains

theorem refl (s : Session) : s.Retains s := ⟨fun h => h, Nat.le_refl _⟩

theorem trans (h : t.Retains s) (h' : u.Retains t) : u.Retains s :=
  ⟨fun hcell => h'.filled (h.filled hcell), Nat.le_trans h.nextCell h'.nextCell⟩

end Retains

theorem Grows.retains (h : s.Grows t) : t.Retains s := ⟨h.filled, h.nextCell⟩

theorem Advance.grows (h : s.Advance t) : s.Grows t := by
  cases h with
  | change h =>
    cases h with
    | newInstance => exact ⟨rfl, rfl, rfl, fun h => h, fun h => h, Nat.le_refl _⟩
    | newCell => exact ⟨rfl, rfl, rfl, fun h => h, fun h => h, Nat.le_succ _⟩
    | keep spec _ =>
      refine ⟨rfl, rfl, rfl, fun hkey => ?_, fun h => h, Nat.le_refl _⟩
      rw [lookup_concat, hkey]
      rfl
  | fill spec _ =>
    refine ⟨rfl, rfl, rfl, fun h => h, fun hcell => ?_, Nat.le_refl _⟩
    rw [lookup_concat, hcell]
    rfl

theorem Advances.grows (h : s.Advances t) : s.Grows t := by
  induction h with
  | refl => exact .refl s
  | tail _ hadvance ih => exact ih.trans hadvance.grows

theorem Advances.retains (h : s.Advances t) : t.Retains s := h.grows.retains

/-- What a step adds to the memo goes behind all that is kept, under a key of its own. -/
theorem Advance.memo_cases (h : s.Advance t) :
    t.memo = s.memo ∨
      ∃ key spec, key ∉ s.memo.map Prod.fst ∧ t.memo = s.memo ++ [(key, spec)] := by
  cases h with
  | fill => exact .inl rfl
  | change h =>
    cases h with
    | newInstance | newCell => exact .inl rfl
    | @keep key spec hfree =>
      refine .inr ⟨key, spec, fun hmem => ?_, rfl⟩
      obtain ⟨entry, hentry, rfl⟩ := List.mem_map.mp hmem
      exact absurd rfl (bne_iff_ne.mp (List.lookup_eq_none_iff.mp hfree entry hentry))

/-- Entries of the memo are never removed or replaced. -/
theorem Advances.memo_prefix (h : s.Advances t) : s.memo <+: t.memo := by
  induction h with
  | refl => exact List.prefix_refl _
  | tail _ hadvance ih =>
    rcases hadvance.memo_cases with heq | ⟨key, spec, _, heq⟩
    · exact heq ▸ ih
    · exact heq ▸ ih.trans (List.prefix_append _ _)

theorem Advances.nodup_keys (h : s.Advances t) (hs : (s.memo.map Prod.fst).Nodup) :
    (t.memo.map Prod.fst).Nodup := by
  induction h with
  | refl => exact hs
  | tail _ hadvance ih =>
    rcases hadvance.memo_cases with heq | ⟨key, spec, hfree, heq⟩
    · exact heq ▸ ih
    · rw [heq, List.map_append, List.map_singleton, ← List.concat_eq_append]
      exact ih.concat hfree

end Session

/-! ## Derivations -/

namespace Build

/-- Wherever the step goes, with or without a result, the session changes as by a derivation. -/
def Changing {α : Type} (x : Build α) : Prop := ∀ s : Session, s.Changes (x.run s).2

theorem compositional_changing : Compositional Changing where
  pure _ _ := .refl
  throw _ _ := .refl
  bind {_ _ x f} hx hf s := by
    have h := hx s
    rw [run_bind]
    rcases hrun : x.run s with ⟨e | a, t⟩
    · rw [hrun] at h
      exact h
    · rw [hrun] at h
      exact h.trans (hf a t)
  newInstance s := .single (.newInstance s)
  newCell s := .single (.newCell s)
  remembered _ _ _ := .refl
  memoize key spec s := by
    rw [Session.run_memoize]
    cases hkept : s.memo.lookup key with
    | some kept => exact .refl
    | none => exact .single (.keep spec hkept)

theorem changing_get : Changing (get : Build Session) := fun _ => .refl

end Build

namespace Session

open Build (compositional_changing changing_get)

theorem specFor_changes (id : Nat) (k : Kind) (s : Session) : s.Changes ((specFor id k).run s).2 :=
  compositional_changing.specFor changing_get id k s

theorem find_changes (target : Target) (s : Session) : s.Changes ((find target).run s).2 :=
  compositional_changing.find changing_get target s

/-! ## Looks behind references -/

theorem resolve_advances (reference : Reference) (s : Session) :
    s.Advances ((resolve reference).run s).2 := by
  rw [run_resolve]
  cases hfilled : s.filled.lookup reference.cell with
  | some spec => exact .refl
  | none =>
    have hfind := find_changes reference.target s
    rcases hrun : (find reference.target).run s with ⟨e | spec, t⟩
    · rw [hrun] at hfind
      exact hfind.advances
    · rw [hrun] at hfind
      refine hfind.advances.tail (.fill spec ?_)
      rw [hfind.filled_eq, hfilled]

/-- A look loses nothing, and what it finds stays in the cell. -/
theorem resolve_retains {reference : Reference} {s t : Session} {found : Except SpecError Spec}
    (h : (resolve reference).run s = (found, t)) :
    t.Retains s ∧ ∀ spec, found = .ok spec → t.filled.lookup reference.cell = some spec := by
  refine ⟨?_, fun spec hspec => ?_⟩
  · have hadvances := resolve_advances reference s
    rw [h] at hadvances
    exact hadvances.retains
  · subst hspec
    rw [run_resolve] at h
    cases hfilled : s.filled.lookup reference.cell with
    | some spec' =>
      rw [hfilled] at h
      cases h
      exact hfilled
    | none =>
      rw [hfilled] at h
      have hfind := find_changes reference.target s
      rcases hrun : (find reference.target).run s with ⟨e | spec', u⟩
      · rw [hrun] at h
        cases h
      · rw [hrun] at h hfind
        cases h
        rw [lookup_concat, hfind.filled_eq, hfilled, if_pos rfl]
        rfl

end Session

end Conform
