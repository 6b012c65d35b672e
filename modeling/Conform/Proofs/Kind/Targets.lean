import Conform.Proofs.Check.Walk
import Conform.Proofs.Kind.Throughout
/-!
What a kind refers to, and what it comes to through that. The targets of a kind are the references at
its leaves, so a value that is held against the kind may come to what they refer to.
-/

namespace Conform

namespace Kind

section
variable {id : Nat} {r : Registry}

mutual

theorem shape_mem_targets {a : Applied} :
    ∀ k : Kind, .shape id a.1 a.2 ∈ k.targets id ↔ a ∈ k.records
  | leaf _ | nothing | placeholder _ => iff_of_false List.not_mem_nil List.not_mem_nil
  | forward _ _ => by simp [targets, records]
  | record name args => by simp [targets, records, Prod.ext_iff]
  | list item => shape_mem_targets item
  | union ks => shape_mem_targetsOfAll ks

theorem shape_mem_targetsOfAll {a : Applied} :
    ∀ ks : List Kind, .shape id a.1 a.2 ∈ targetsOfAll id ks ↔ a ∈ recordsOfAll ks
  | [] => iff_of_false List.not_mem_nil List.not_mem_nil
  | k :: ks => by
    rw [targetsOfAll, recordsOfAll, List.mem_append, List.mem_append, shape_mem_targets k,
      shape_mem_targetsOfAll ks]

end

end

end Kind

/-- `good` holds of the reference, and of all kinds within it. -/
def Target.Throughout (good : Kind → Prop) : Target → Prop
  | shape _ name args => (Kind.record name args).Throughout good
  | forward _ name args => (Kind.forward name args).Throughout good
  | bound _ => False

namespace Kind

section
variable {id : Nat} {r : Registry} {good : Kind → Prop}

mutual

theorem Throughout.targets :
    ∀ {k : Kind}, k.Throughout good → ∀ target ∈ k.targets id, target.Throughout good
  | leaf _, _ | nothing, _ | placeholder _, _ => fun _ hmem => absurd hmem List.not_mem_nil
  | record _ _, h | forward _ _, h => List.forall_mem_singleton.mpr h
  | list item, h => Throughout.targets (k := item) (throughout_list.mp h).2
  | union _, h => Throughout.targetsOfAll (throughout_union.mp h).2

theorem Throughout.targetsOfAll :
    ∀ {ks : List Kind}, (∀ k ∈ ks, k.Throughout good) →
      ∀ target ∈ Kind.targetsOfAll id ks, target.Throughout good
  | [], _ => fun _ hmem => absurd hmem List.not_mem_nil
  | k :: _, h => by
    intro target hmem
    rcases List.mem_append.mp hmem with hmem | hmem
    · exact Throughout.targets (h k List.mem_cons_self) target hmem
    · exact Throughout.targetsOfAll (fun j hj => h j (List.mem_cons_of_mem k hj)) target hmem

end

/-- The reference is what the kind is. -/
def IsReferenceTo (id : Nat) (target : Target) : Kind → Prop
  | record name args => target = .shape id name args
  | forward name args => target = .forward id name args
  | leaf _ | nothing | list _ | union _ | placeholder _ => False

mutual

theorem reaches_of_mem_targets {target : Target} :
    ∀ k : Kind, target ∈ k.targets id → ∃ part, r.Reaches k part ∧ part.IsReferenceTo id target
  | leaf _, hmem | nothing, hmem | placeholder _, hmem => absurd hmem List.not_mem_nil
  | record name args, hmem | forward name args, hmem =>
    ⟨_, .refl _, List.mem_singleton.mp hmem⟩
  | list item, hmem => by
    obtain ⟨part, hreach, hpart⟩ := reaches_of_mem_targets item hmem
    exact ⟨part, .item hreach, hpart⟩
  | union ks, hmem => by
    obtain ⟨k, hk, part, hreach, hpart⟩ := reaches_of_mem_targetsOfAll ks hmem
    exact ⟨part, .alternative hk hreach, hpart⟩

theorem reaches_of_mem_targetsOfAll {target : Target} :
    ∀ ks : List Kind, target ∈ targetsOfAll id ks →
      ∃ k ∈ ks, ∃ part, r.Reaches k part ∧ part.IsReferenceTo id target
  | [], hmem => absurd hmem List.not_mem_nil
  | k :: ks, hmem => by
    rcases List.mem_append.mp hmem with hfirst | hrest
    · exact ⟨k, List.mem_cons_self, reaches_of_mem_targets k hfirst⟩
    · obtain ⟨k', hk', hpart⟩ := reaches_of_mem_targetsOfAll ks hrest
      exact ⟨k', List.mem_cons_of_mem k hk', hpart⟩

end

end

end Kind

namespace Registry

variable {r : Registry}

theorem Reaches.trans {k part further : Kind} (h : r.Reaches k part) (h' : r.Reaches part further) :
    r.Reaches k further := by
  induction h with
  | refl => exact h'
  | item _ ih => exact .item (ih h')
  | alternative hk _ ih => exact .alternative hk (ih h')
  | field hfields hf _ ih => exact .field hfields hf (ih h')
  | behind _ ih => exact .behind (ih h')

theorem Reaches.record_of_mem_records {k : Kind} {a : Applied} (h : a ∈ k.records) :
    r.Reaches k (.record a.1 a.2) := by
  have hmem : .shape 0 a.1 a.2 ∈ k.targets 0 := (Kind.shape_mem_targets k).mpr h
  obtain ⟨part, hreach, hpart⟩ := Kind.reaches_of_mem_targets k hmem
  cases part with
  | record name args =>
    cases hpart
    exact hreach
  | forward name args => cases hpart
  | leaf | nothing | list | union | placeholder => exact hpart.elim

end Registry

/-! ## Shapes that are led to -/

/-- `p` holds of every shape, with its arguments, that a value held against the kind may come to. -/
def Kind.LeadsOnlyTo (r : Registry) (p : Applied → Prop) (k : Kind) : Prop :=
  ∀ a : Applied, r.Reaches k (.record a.1 a.2) → p a

/-- The same of what is behind a reference. -/
def Target.LeadsOnlyTo (r : Registry) (p : Applied → Prop) : Target → Prop
  | shape _ name args | forward _ name args => (Kind.record name args).LeadsOnlyTo r p
  | bound _ => True

section
variable {id : Nat} {r : Registry} {p q : Applied → Prop}

theorem Kind.leadsOnlyTo_of_forall (h : ∀ a, p a) (k : Kind) : k.LeadsOnlyTo r p := fun a _ => h a

theorem Target.LeadsOnlyTo.mono {target : Target} (h : target.LeadsOnlyTo r p)
    (himp : ∀ a, p a → q a) : target.LeadsOnlyTo r q := by
  cases target with
  | shape | forward => exact fun a ha => himp a (h a ha)
  | bound => trivial

theorem Kind.LeadsOnlyTo.of_reaches {k part : Kind} (h : k.LeadsOnlyTo r p)
    (hpart : r.Reaches k part) : part.LeadsOnlyTo r p :=
  fun a ha => h a (hpart.trans ha)

theorem Kind.LeadsOnlyTo.targets {k : Kind} (h : k.LeadsOnlyTo r p) :
    ∀ target ∈ k.targets id, target.LeadsOnlyTo r p := by
  intro target hmem
  obtain ⟨part, hreach, hpart⟩ := reaches_of_mem_targets k hmem
  cases part with
  | record name args =>
    cases hpart
    exact h.of_reaches hreach
  | forward name args =>
    cases hpart
    exact h.of_reaches (hreach.trans (.behind (.refl _)))
  | leaf | nothing | list | union | placeholder => exact hpart.elim

theorem inwards_leadsOnlyTo (id : Nat) (r : Registry) (p : Applied → Prop) :
    Inwards id r (Target.LeadsOnlyTo r p) := by
  intro a fields ha hfields f hf
  have hrecord : (Kind.record a.1 a.2).LeadsOnlyTo r p := ha
  have hfield : f.kind.LeadsOnlyTo r p := hrecord.of_reaches (.field hfields hf (.refl _))
  exact hfield.targets

end

end Conform
