import Conform.Proofs.Check.Ensures
import Conform.Proofs.Value.Rearrangement
/-!
One spec held against two values that differ in the order of keys. Specs ask for the members of an
object key by key, in an order of their own, so the two checks go abreast: they look behind the same
references in the same sessions, and what they make of the values differs in the order of keys only.
-/

namespace Conform

open Value (Paired)

/-! ## Checks that go abreast -/

namespace Check

variable {α β : Type} {I : Session → Prop}

/-- Both checks have an answer and leave the same session; the answers are related by `R`. -/
def Abreast (I : Session → Prop) (R : α → α → Prop) (x y : Check α) : Prop :=
  ∀ s, I s → ∃ a b t, x s = some (a, t) ∧ y s = some (b, t) ∧ R a b ∧ I t

theorem Abreast.pure {R : α → α → Prop} {a b : α} (h : R a b) : Abreast I R (pure a) (pure b) :=
  fun s hs => ⟨a, b, s, rfl, rfl, h, hs⟩

theorem Abreast.bind {R : α → α → Prop} {S : β → β → Prop} {x y : Check α} {f g : α → Check β}
    (hxy : Abreast I R x y) (hfg : ∀ a b, R a b → Abreast I S (f a) (g b)) :
    Abreast I S (x >>= f) (y >>= g) := by
  intro s hs
  obtain ⟨a, b, t, hx, hy, hab, ht⟩ := hxy s hs
  obtain ⟨a', b', u, hf, hg, hab', hu⟩ := hfg a b hab t ht
  refine ⟨a', b', u, ?_, ?_, hab', hu⟩
  · rw [bind_apply, hx]
    exact hf
  · rw [bind_apply, hy]
    exact hg

end Check

open Check (Abreast)

/-- Both are invalid, or both valid and what was made of the values is rearranged. -/
inductive Conformed.Rearranged : Conformed → Conformed → Prop
  | valid {v w : Value} : v.Rearranged w → Rearranged (.valid v) (.valid w)
  | invalid : Rearranged .invalid .invalid

namespace Spec

variable {I : Session → Prop} {d : Delegate} {v w : Value}

/-- The spec is held against both values abreast. -/
def HeldAbreast (I : Session → Prop) (d : Delegate) (s : Spec) (v w : Value) : Prop :=
  Abreast I Conformed.Rearranged (conformWith d s v) (conformWith d s w)

theorem heldAbreast_isInstance (i : Instance) (kind : ValueKind) (hvw : v.Rearranged w) :
    HeldAbreast I d (isInstance i kind) v w := by
  unfold HeldAbreast conformWith
  rw [hvw.kind_eq]
  refine .pure ?_
  cases decide (w.kind = kind) with
  | true => exact .valid hvw
  | false => exact .invalid

theorem heldAbreast_unbound (i : Instance) (p : String) (hvw : v.Rearranged w) :
    HeldAbreast I d (unbound i p) v w := by
  unfold HeldAbreast conformWith
  exact .pure (.valid hvw)

/-- Members of a group are compared by kind, and the kinds are the same. -/
theorem heldAbreast_consistency (i : Instance) (groups : List PlaceholderGroup)
    (hvw : v.Rearranged w) : HeldAbreast I d (consistency i groups) v w := by
  unfold HeldAbreast conformWith
  refine .pure ?_
  have hvalid : (conformConsistency groups v).isValid = (conformConsistency groups w).isValid := by
    cases v with
    | object ps =>
      have hsame := hvw.map_kind_get?
      obtain ⟨qs, rfl, _⟩ := hvw.exists_object
      rw [Bool.eq_iff_iff]
      simp only [conformConsistency_isValid, dissenters_eq_nil, sameKind_congr (hsame _) (hsame _)]
    | list vs =>
      obtain ⟨ws, rfl, _⟩ := hvw.exists_list
      rfl
    | tuple vs =>
      obtain ⟨ws, rfl, _⟩ := hvw.exists_tuple
      rfl
    | null | bool | int | float | string | bytes => rw [hvw.eq_of_depth rfl]
  cases hv : conformConsistency groups v with
  | valid v' =>
    cases hw : conformConsistency groups w with
    | valid w' =>
      rw [conformConsistency_eq_valid hv, conformConsistency_eq_valid hw]
      exact .valid hvw
    | invalid =>
      rw [hv, hw] at hvalid
      cases hvalid
  | invalid =>
    cases hw : conformConsistency groups w with
    | valid w' =>
      rw [hv, hw] at hvalid
      cases hvalid
    | invalid => exact .invalid

theorem HeldAbreast.decorated {s : Spec} (h : HeldAbreast I d s v w) (i : Instance)
    (label : Option String) : HeldAbreast I d (decorated i s label) v w := by
  unfold HeldAbreast
  rw [conformWith_decorated, conformWith_decorated]
  exact h

/-! ### Alternatives and stages -/

theorem heldAbreast_oneOf {ss : List Spec} (h : ∀ s ∈ ss, HeldAbreast I d s v w) (i : Instance) :
    HeldAbreast I d (oneOf i ss) v w := by
  unfold HeldAbreast conformWith
  induction ss with
  | nil =>
    unfold conformFirst
    exact .pure .invalid
  | cons s ss ih =>
    unfold conformFirst
    refine Abreast.bind (h s List.mem_cons_self) fun c c' hc => ?_
    cases hc with
    | valid hvw => exact .pure (.valid hvw)
    | invalid => exact ih fun s hs => h s (List.mem_cons_of_mem _ hs)

/-- The second stage takes whatever the first makes of the values. -/
theorem heldAbreast_allOf_pair {s t : Spec} (hs : HeldAbreast I d s v w)
    (ht : ∀ v w, v.Rearranged w → HeldAbreast I d t v w) (i : Instance) :
    HeldAbreast I d (allOf i [s, t]) v w := by
  unfold HeldAbreast conformWith conformThrough
  refine Abreast.bind hs fun c c' hc => ?_
  cases hc with
  | invalid => exact .pure .invalid
  | valid hvw =>
    unfold conformThrough
    refine Abreast.bind (ht _ _ hvw) fun c c' hc => ?_
    cases hc with
    | invalid => exact .pure .invalid
    | valid hvw =>
      unfold conformThrough
      exact .pure (.valid hvw)

/-! ### Collections -/

theorem conformItems_abreast {item : Spec} {vs ws : List Value}
    (h : ∀ v ∈ vs, ∀ w, v.Rearranged w → HeldAbreast I d item v w)
    (hitems : List.Forall₂ Value.Rearranged vs ws) :
    Abreast I (Option.Rel (List.Forall₂ Value.Rearranged)) (conformItems (conformWith d item) vs)
      (conformItems (conformWith d item) ws) := by
  induction hitems with
  | nil => exact .pure (.some .nil)
  | @cons v w vs ws hvw _ ih =>
    unfold conformItems
    refine Abreast.bind (h v List.mem_cons_self w hvw) fun c c' hc => ?_
    cases hc with
    | invalid => exact .pure .none
    | valid hmade =>
      refine Abreast.bind (ih fun v hv => h v (List.mem_cons_of_mem _ hv)) fun o o' ho => ?_
      cases ho with
      | none => exact .pure .none
      | some hrest => exact .pure (.some (.cons hmade hrest))

theorem heldAbreast_collOf {item : Spec} (hvw : v.Rearranged w)
    (h : ∀ items, v.items? = some items → ∀ u ∈ items, ∀ u', u.Rearranged u' →
      HeldAbreast I d item u u') (i : Instance) : HeldAbreast I d (collOf i item) v w := by
  unfold HeldAbreast conformWith
  cases v with
  | list vs =>
    obtain ⟨ws, rfl, hitems⟩ := hvw.exists_list
    refine Abreast.bind (conformItems_abreast (h vs rfl) hitems) fun o o' ho => ?_
    cases ho with
    | none => exact .pure .invalid
    | some hmade => exact .pure (.valid (.list hmade))
  | tuple vs =>
    obtain ⟨ws, rfl, hitems⟩ := hvw.exists_tuple
    refine Abreast.bind (conformItems_abreast (h vs rfl) hitems) fun o o' ho => ?_
    cases ho with
    | none => exact .pure .invalid
    | some hmade => exact .pure (.valid (.tuple hmade))
  | object ps =>
    obtain ⟨qs, rfl, _⟩ := hvw.exists_object
    exact .pure .invalid
  | null | bool | int | float | string | bytes =>
    rw [← hvw.eq_of_depth rfl]
    exact .pure .invalid

/-! ### Dictionaries -/

section
variable {keys : List (String × Spec)}

/-- Pairs under the declared keys, in the order they are declared. -/
def DeclaredAbreast (keys : List (String × Spec)) (ps qs : List (String × Value)) : Prop :=
  qs.map (·.1) = keys.map (·.1) ∧ List.Forall₂ Paired ps qs

theorem conformKeys_abreast (hvw : v.Rearranged w)
    (h : ∀ key ∈ keys, ∀ u, v.get? key.1 = some u → ∀ u', u.Rearranged u' →
      HeldAbreast I d key.2 u u') :
    Abreast I (Option.Rel (DeclaredAbreast keys)) (conformKeys d keys v) (conformKeys d keys w) := by
  induction keys with
  | nil =>
    unfold conformKeys
    exact .pure (.some ⟨rfl, .nil⟩)
  | cons key keys ih =>
    obtain ⟨name, s⟩ := key
    have hpresent := h (name, s) List.mem_cons_self
    have hget := hvw.get? name
    unfold conformKeys
    revert hpresent hget
    generalize v.get? name = o
    generalize w.get? name = o'
    intro hpresent hget
    cases hget with
    | none => exact .pure .none
    | some hmember =>
      refine Abreast.bind (hpresent _ rfl _ hmember) fun c c' hc => ?_
      cases hc with
      | invalid => exact .pure .none
      | valid hmade =>
        refine Abreast.bind (ih fun key hkey => h key (List.mem_cons_of_mem _ hkey)) fun o o' ho => ?_
        cases ho with
        | none => exact .pure .none
        | some hrest =>
          obtain ⟨hnames, hrest⟩ := hrest
          refine .pure (.some ⟨?_, .cons ⟨rfl, hmade⟩ hrest⟩)
          rw [List.map_cons, List.map_cons, hnames]

/-- The pairs that are not declared are rearranged as the object is. -/
theorem undeclared_abreast {ps rs qs : List (String × Value)} (h : List.Forall₂ Paired ps rs)
    (hmoved : Value.Moved rs qs) :
    List.Forall₂ Paired (undeclared keys ps) (undeclared keys rs) ∧
      Value.Moved (undeclared keys rs) (undeclared keys qs) := by
  refine ⟨List.rel_filter (fun p q hpq => ?_) h, hmoved.filter _⟩
  simp only [hpq.1]

theorem key_of_undeclared {ps : List (String × Value)} {p : String × Value}
    (hp : p ∈ undeclared keys ps) : p.1 ∉ keys.map (·.1) := by
  intro hname
  obtain ⟨key, hkey, heq⟩ := List.mem_map.mp hname
  have hdeclared : isDeclared keys p.1 = true :=
    List.any_eq_true.mpr ⟨key, hkey, decide_eq_true heq⟩
  have hnot := (List.mem_filter.mp hp).2
  rw [hdeclared] at hnot
  cases hnot

theorem conformExtra_abreast {ps rs qs : List (String × Value)} (extra : ExtraFields)
    (h : List.Forall₂ Paired ps rs) (hmoved : Value.Moved rs qs) :
    (conformExtra extra ps = none ∧ conformExtra extra qs = none) ∨
      ∃ os ts us, conformExtra extra ps = some os ∧ conformExtra extra qs = some us ∧ ts ⊆ rs ∧
        List.Forall₂ Paired os ts ∧ Value.Moved ts us := by
  cases extra with
  | ignore => exact .inr ⟨[], [], [], rfl, rfl, List.nil_subset _, .nil, .refl []⟩
  | allow => exact .inr ⟨ps, rs, qs, rfl, rfl, List.Subset.refl _, h, hmoved⟩
  | forbid =>
    have hlength : ps.length = qs.length := by
      rw [h.length_eq]
      rcases hmoved with rfl | ⟨_, hperm⟩
      · rfl
      · exact hperm.length_eq
    cases ps with
    | nil =>
      rw [List.eq_nil_of_length_eq_zero hlength.symm]
      exact .inr ⟨[], [], [], rfl, rfl, List.nil_subset _, .nil, .refl []⟩
    | cons p ps =>
      cases qs with
      | nil => cases hlength
      | cons q qs => exact .inl ⟨rfl, rfl⟩

theorem heldAbreast_dict (hnames : (keys.map (·.1)).Nodup) (hvw : v.Rearranged w)
    (h : ∀ key ∈ keys, ∀ u, v.get? key.1 = some u → ∀ u', u.Rearranged u' →
      HeldAbreast I d key.2 u u') (i : Instance) (extra : ExtraFields) :
    HeldAbreast I d (dict i keys extra) v w := by
  unfold HeldAbreast conformWith
  cases v with
  | object ps =>
    have hkeys := conformKeys_abreast hvw h
    obtain ⟨qs, rfl, rs, hpairs, hmoved⟩ := hvw.exists_object
    refine hkeys.bind fun o o' ho => ?_
    cases ho with
    | none => exact .pure .invalid
    | @some declared declared' hdeclared =>
      obtain ⟨hdeclaredNames, hdeclared⟩ := hdeclared
      obtain ⟨hleft, hleftMoved⟩ := @undeclared_abreast keys _ _ _ hpairs hmoved
      rcases conformExtra_abreast extra hleft hleftMoved with
        ⟨hps, hqs⟩ | ⟨os, ts, us, hos, hus, hsubset, hothers, hothersMoved⟩
      · simp only [hps, hqs]
        exact .pure .invalid
      · simp only [hos, hus]
        refine .pure (.valid (.object (List.rel_append hdeclared hothers) ?_))
        -- What is not declared stands under other keys than what is.
        refine hothersMoved.append_left (hdeclaredNames ▸ hnames) fun pair hpair => ?_
        rw [hdeclaredNames]
        exact key_of_undeclared (hsubset hpair)
  | list vs =>
    obtain ⟨ws, rfl, _⟩ := hvw.exists_list
    exact .pure .invalid
  | tuple vs =>
    obtain ⟨ws, rfl, _⟩ := hvw.exists_tuple
    exact .pure .invalid
  | null | bool | int | float | string | bytes =>
    rw [← hvw.eq_of_depth rfl]
    exact .pure .invalid

end

end Spec

end Conform
