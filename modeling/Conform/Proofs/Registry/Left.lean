import Conform.Proofs.Registry.Extends
import Mathlib.Data.List.Nodup
import Mathlib.Logic.Relation
/-!
What derivations leave to lazy references. A shape that is mentioned below one of its own name is not
gone into, whatever its arguments, so a derivation that succeeds says nothing about it. If all that
derivations leave can be derived by itself, then everything can that is mentioned, however far in; and
the other way round.
-/

namespace Conform.Registry

variable {r r' : Registry}

/-- A field of the one shape mentions the other. -/
def Mentions (r : Registry) (a b : Applied) : Prop :=
  ∃ fields, r.fieldsOf a = .ok fields ∧ b ∈ Field.recordsOfAll fields

/-- The mentions that the derivation of a shape below a stack leaves to lazy references. -/
def leftBelow (r : Registry) : Nat → List String → Applied → List Applied
  | steps, stack, a =>
    if a.1 ∈ stack then [a]
    else
      match steps with
      | 0 => [a]
      | steps + 1 =>
        match r.fieldsOf a with
        | .ok fields => (Field.recordsOfAll fields).flatMap (leftBelow r steps (a.1 :: stack))
        | .error _ => []

def left (r : Registry) (a : Applied) : List Applied := r.leftBelow r.shapes.length [] a

/-- If the shape can be derived by itself, so can all that its derivation leaves. -/
def LeavesAlone (r : Registry) (a : Applied) : Prop := r.Alone a → ∀ c ∈ r.left a, r.Alone c

section
variable {steps : Nat} {stack : List String} {a b c root : Applied} {done : List Applied}

theorem mem_leftBelow_of_mem (hstack : a.1 ∈ stack) : a ∈ r.leftBelow steps stack a := by
  unfold leftBelow
  rw [if_pos hstack]
  exact List.mem_singleton_self a

theorem mem_leftBelow_zero : a ∈ r.leftBelow 0 stack a := by
  unfold leftBelow
  split <;> exact List.mem_singleton_self a

theorem leftBelow_succ (hstack : a.1 ∉ stack) {fields : List Field}
    (hfields : r.fieldsOf a = .ok fields) :
    r.leftBelow (steps + 1) stack a =
      (Field.recordsOfAll fields).flatMap (r.leftBelow steps (a.1 :: stack)) := by
  conv => lhs; unfold leftBelow
  rw [if_neg hstack, hfields]

/-- What is left is mentioned somewhere below. -/
theorem mentions_of_mem_leftBelow (h : c ∈ r.leftBelow steps stack a) :
    Relation.ReflTransGen r.Mentions a c := by
  induction steps generalizing stack a with
  | zero =>
    unfold leftBelow at h
    simp only [ite_self, List.mem_singleton] at h
    rw [h]
  | succ steps ih =>
    by_cases hstack : a.1 ∈ stack
    · unfold leftBelow at h
      rw [if_pos hstack, List.mem_singleton] at h
      rw [h]
    · cases hfields : r.fieldsOf a with
      | error e =>
        unfold leftBelow at h
        rw [if_neg hstack, hfields] at h
        cases h
      | ok fields =>
        rw [leftBelow_succ hstack hfields] at h
        obtain ⟨b, hb, hc⟩ := List.mem_flatMap.mp h
        exact .head ⟨fields, hfields, hb⟩ (ih hc)

/-! ## Attempts that go in -/

/-- An attempt that is not left to a lazy reference goes into the fields of the shape, and succeeds
only if it does so at each of their mentions. -/
theorem fields_of_attempt_ok (hstack : a.1 ∉ stack)
    (h : (r.attempt false (steps + 1) stack a done).1 = .ok ()) :
    ∃ fields, r.fieldsOf a = .ok fields ∧ ∀ b ∈ Field.recordsOfAll fields,
      (r.attempt false steps (a.1 :: stack) b []).1 = .ok () := by
  rcases hrun : r.attempt false (steps + 1) stack a done with ⟨o, done'⟩
  obtain rfl : o = .ok () := by rwa [hrun] at h
  cases attempt_cases hrun with
  | kept hmemoize => cases hmemoize
  | lazily _ hmem => exact absurd hmem hstack
  | finished _ _ happlied hfields hall =>
    refine ⟨_, bind_eq_ok.mpr ⟨_, happlied, hfields⟩, fun b hb => ?_⟩
    obtain ⟨mid, mid', hb, _, _⟩ := attemptAll_ok attempt_subset hall b hb
    exact attempt_ok_of_le hb (Nat.le_refl _) (List.Subset.refl _)

/-- It does succeed if it succeeds at all of them. -/
theorem attempt_ok_of_records {memoize : Bool} {fields : List Field}
    (hfields : r.fieldsOf a = .ok fields)
    (hall : ∀ b ∈ Field.recordsOfAll fields, ∀ done,
      (r.attempt memoize steps (a.1 :: stack) b done).1 = .ok ()) :
    (r.attempt memoize (steps + 1) stack a done).1 = .ok () := by
  obtain ⟨shape, happlied, heffective⟩ := bind_eq_ok.mp hfields
  rcases hrun : r.attempt memoize (steps + 1) stack a done with ⟨o, done'⟩
  cases attempt_cases hrun with
  | kept | lazily | finished => rfl
  | unfit _ _ hunfit => cases happlied.symm.trans hunfit
  | fieldless _ _ happlied' hfieldless =>
    cases happlied.symm.trans happlied'
    cases heffective.symm.trans hfieldless
  | stopped _ _ happlied' hfields' hstopped =>
    cases happlied.symm.trans happlied'
    cases heffective.symm.trans hfields'
    obtain ⟨b, hb, mid, herror⟩ := attemptAll_error hstopped
    have hok := hall b hb mid
    rw [herror] at hok
    cases hok

/-- Where there are always fields, nothing stops an attempt. -/
theorem attempt_ok_of_fields
    (h : ∀ b, Relation.ReflTransGen r.Mentions a b → ∃ fields, r.fieldsOf b = .ok fields)
    (memoize : Bool) : (r.attempt memoize steps stack a done).1 = .ok () := by
  induction steps generalizing stack a done with
  | zero =>
    obtain ⟨fields, hfields⟩ := h a .refl
    obtain ⟨shape, happlied, _⟩ := bind_eq_ok.mp hfields
    rw [attempt_spent happlied]
  | succ steps ih =>
    obtain ⟨fields, hfields⟩ := h a .refl
    refine attempt_ok_of_records hfields fun b hb done => ?_
    exact ih fun c hc => h c (.head ⟨fields, hfields, hb⟩ hc)

theorem alone_of_fields
    (h : ∀ b, Relation.ReflTransGen r.Mentions a b → ∃ fields, r.fieldsOf b = .ok fields) :
    r.Alone a :=
  attempt_ok_of_fields h false

theorem Alone.exists_steps (h : r.Alone a) : ∃ steps, r.shapes.length = steps + 1 := by
  refine Nat.exists_eq_succ_of_ne_zero fun hnil => ?_
  unfold Alone start at h
  rw [hnil] at h
  rcases hrun : r.attempt false 0 [] a [] with ⟨o, done⟩
  rw [hrun] at h
  cases attempt_cases hrun with
  | kept hmemoize => cases hmemoize
  | lazily _ hstack => cases hstack
  | unfit => cases h
  | spent _ _ happlied => exact shapes_ne_nil happlied hnil

/-! ## Derivations in which a shape is met -/

/-- The derivation of `root` by itself comes to the shape below the stack, and succeeds there. -/
structure Meets (r : Registry) (root : Applied) (steps : Nat) (stack : List String) (a : Applied) :
    Prop where
  alone : r.Alone root
  mentions : Relation.ReflTransGen r.Mentions root a
  attempt : (r.attempt false steps stack a []).1 = .ok ()
  left : r.leftBelow steps stack a ⊆ r.left root

theorem Alone.meets (h : r.Alone a) : r.Meets a r.shapes.length [] a :=
  ⟨h, .refl, h, List.Subset.refl _⟩

/-- The derivation goes on to what the shape mentions. -/
theorem Meets.mention (h : r.Meets root (steps + 1) stack a) (hstack : a.1 ∉ stack)
    (hb : r.Mentions a b) : r.Meets root steps (a.1 :: stack) b := by
  obtain ⟨fields, hfields, hmem⟩ := hb
  obtain ⟨fields', hfields', hall⟩ := fields_of_attempt_ok hstack h.attempt
  obtain rfl : fields = fields' := Except.ok.inj (hfields.symm.trans hfields')
  refine ⟨h.alone, h.mentions.tail ⟨fields, hfields, hmem⟩, hall b hmem, ?_⟩
  refine List.Subset.trans (fun c hc => ?_) h.left
  rw [leftBelow_succ hstack hfields]
  exact List.mem_flatMap.mpr ⟨b, hmem, hc⟩

/-- A shape that is met can be derived by itself, or the derivation goes into it. -/
theorem Meets.alone_or (h : r.Meets root steps stack a) (hroot : r.LeavesAlone root) :
    r.Alone a ∨ a.1 ∉ stack ∧ ∃ n, steps = n + 1 := by
  by_cases hstack : a.1 ∈ stack
  · exact .inl (hroot h.alone a (h.left (mem_leftBelow_of_mem hstack)))
  · cases steps with
    | zero => exact .inl (hroot h.alone a (h.left mem_leftBelow_zero))
    | succ n => exact .inr ⟨hstack, n, rfl⟩

theorem Meets.exists_fields (h : r.Meets root steps stack a) (hroot : r.LeavesAlone root) :
    ∃ fields, r.fieldsOf a = .ok fields := by
  have hinto : ∀ {root n stack}, r.Meets root (n + 1) stack a → a.1 ∉ stack →
      ∃ fields, r.fieldsOf a = .ok fields := by
    intro root n stack hmeets hstack
    obtain ⟨fields, hfields, _⟩ := fields_of_attempt_ok hstack hmeets.attempt
    exact ⟨fields, hfields⟩
  rcases h.alone_or hroot with halone | ⟨hstack, n, rfl⟩
  · obtain ⟨n, hn⟩ := halone.exists_steps
    exact hinto (hn ▸ halone.meets) List.not_mem_nil
  · exact hinto h hstack

/-- What is mentioned by a shape that is met is met as well, in the same derivation or in the one of
the shape by itself. -/
theorem Meets.next (h : r.Meets root steps stack a) (hroot : r.LeavesAlone root)
    (hb : r.Mentions a b) :
    ∃ root' steps' stack', r.Meets root' steps' stack' b ∧ (root' = root ∨ root' = a) := by
  rcases h.alone_or hroot with halone | ⟨hstack, n, rfl⟩
  · obtain ⟨n, hn⟩ := halone.exists_steps
    exact ⟨a, n, [a.1], (hn ▸ halone.meets : r.Meets a (n + 1) [] a).mention List.not_mem_nil hb,
      .inr rfl⟩
  · exact ⟨root, n, a.1 :: stack, h.mention hstack hb, .inl rfl⟩

/-! ## However far in -/

/-- If derivations leave nothing but what can be derived by itself, every shape that is mentioned
below one that can be derived by itself has fields. The induction is along the mentions. -/
theorem Alone.exists_fields_of_mentions (ha : r.Alone a)
    (hleft : ∀ b, Relation.ReflTransGen r.Mentions a b → r.LeavesAlone b)
    (hb : Relation.ReflTransGen r.Mentions a b) : ∃ fields, r.fieldsOf b = .ok fields := by
  have hmet : ∃ root steps stack, Relation.ReflTransGen r.Mentions a root ∧
      r.Meets root steps stack b := by
    induction hb with
    | refl => exact ⟨a, r.shapes.length, [], .refl, ha.meets⟩
    | tail hab hbc ih =>
      obtain ⟨root, steps, stack, hroot, hmeets⟩ := ih
      obtain ⟨root', steps', stack', hmeets', hsame | hanew⟩ := hmeets.next (hleft root hroot) hbc
      · exact ⟨root', steps', stack', hsame ▸ hroot, hmeets'⟩
      · exact ⟨root', steps', stack', hanew ▸ hab, hmeets'⟩
  obtain ⟨root, steps, stack, hroot, hmeets⟩ := hmet
  exact hmeets.exists_fields (hleft root hroot)

theorem Alone.alone_of_mentions (ha : r.Alone a)
    (hleft : ∀ b, Relation.ReflTransGen r.Mentions a b → r.LeavesAlone b)
    (hb : Relation.ReflTransGen r.Mentions a b) : r.Alone b :=
  alone_of_fields fun _ hc => ha.exists_fields_of_mentions hleft (hb.trans hc)

/-- All that is mentioned below a shape that can be derived by itself has fields if and only if
derivations leave nothing there but what can be derived by itself. -/
theorem Alone.exists_fields_iff (ha : r.Alone a) :
    (∀ b, Relation.ReflTransGen r.Mentions a b → ∃ fields, r.fieldsOf b = .ok fields) ↔
      ∀ b, Relation.ReflTransGen r.Mentions a b → r.LeavesAlone b := by
  constructor
  · intro h b hb _ c hc
    exact alone_of_fields fun d hd => h d (hb.trans ((mentions_of_mem_leftBelow hc).trans hd))
  · intro h b hb
    exact ha.exists_fields_of_mentions h hb

end

/-! ## Registries that grow -/

/-- A stack of registered names, none of which stands there twice. -/
structure Stacked (r : Registry) (stack : List String) : Prop where
  nodup : stack.Nodup
  registered : stack ⊆ r.shapes.map (·.name)

section
variable {steps steps' : Nat} {stack : List String} {a : Applied} {done done' : List Applied}

theorem stacked_nil (r : Registry) : r.Stacked [] := ⟨List.nodup_nil, List.nil_subset _⟩

theorem name_mem_of_applied {shape : Shape} (happlied : r.applied a = .ok shape) :
    shape.name ∈ r.shapes.map (·.name) := by
  have hshape := lookup_eq_ok.mp (applied_eq_ok.mp happlied).1
  exact List.mem_map_of_mem (List.mem_of_find?_eq_some hshape)

theorem Stacked.push (h : r.Stacked stack) {name : String} (hname : name ∈ r.shapes.map (·.name))
    (hstack : name ∉ stack) : r.Stacked (name :: stack) :=
  ⟨List.nodup_cons.mpr ⟨hstack, h.nodup⟩, List.cons_subset.mpr ⟨hname, h.registered⟩⟩

theorem Stacked.cons (h : r.Stacked stack) (hstack : a.1 ∉ stack) {shape : Shape}
    (happlied : r.applied a = .ok shape) : r.Stacked (a.1 :: stack) := by
  obtain ⟨found, hfound, hname⟩ := exists_mem_shapes happlied
  exact h.push (hname ▸ List.mem_map_of_mem hfound) hstack

theorem Stacked.tail (h : r.Stacked stack) : r.Stacked stack.tail :=
  ⟨h.nodup.tail, fun _ hname => h.registered (List.mem_of_mem_tail hname)⟩

theorem Stacked.length_le (h : r.Stacked stack) : stack.length ≤ r.shapes.length := by
  have hle := h.nodup.length_le_of_subset h.registered
  rwa [List.length_map] at hle

theorem Stacked.length_lt (h : r.Stacked stack) {name : String} (hname : name ∈ r.shapes.map (·.name))
    (hstack : name ∉ stack) : stack.length < r.shapes.length :=
  (h.push hname hstack).length_le

/-- The steps outlast the stack, so an attempt is never left to a lazy reference for want of them. -/
theorem Stacked.goes_in (h : r.Stacked stack) (hsteps : steps + stack.length = r.shapes.length)
    (hok : (r.attempt false steps stack a done).1 = .ok ()) (hnot : a.1 ∉ stack) :
    (∃ n, steps = n + 1) ∧ r.Stacked (a.1 :: stack) := by
  have hcons : ∀ {shape}, r.applied a = .ok shape →
      r.Stacked (a.1 :: stack) ∧ stack.length < r.shapes.length := fun happlied =>
    ⟨h.cons hnot happlied, (h.cons hnot happlied).length_le⟩
  rcases hrun : r.attempt false steps stack a done with ⟨o, done'⟩
  rw [hrun] at hok
  cases attempt_cases hrun with
  | kept hmemoize => cases hmemoize
  | lazily _ hmem => exact absurd hmem hnot
  | unfit | fieldless | stopped => cases hok
  | spent _ _ happlied =>
    have hlt := (hcons happlied).2
    omega
  | finished _ _ happlied => exact ⟨⟨_, rfl⟩, (hcons happlied).1⟩

/-- An attempt that succeeds does so as well when there are more shapes. -/
theorem Extends.attempt (h : r.Extends r') (hstack : r.Stacked stack)
    (hsteps : steps + stack.length = r.shapes.length)
    (hok : (r.attempt false steps stack a done).1 = .ok ()) :
    (r'.attempt false steps' stack a done').1 = .ok () := by
  by_cases hmem : a.1 ∈ stack
  · rw [attempt_lazily hmem]
  induction steps' generalizing steps stack a done done' with
  | zero =>
    obtain ⟨⟨n, rfl⟩, _⟩ := hstack.goes_in hsteps hok hmem
    obtain ⟨fields, hfields, _⟩ := fields_of_attempt_ok hmem hok
    obtain ⟨shape, happlied, _⟩ := bind_eq_ok.mp (h.fieldsOf hfields)
    rw [attempt_spent happlied]
  | succ steps' ih =>
    obtain ⟨⟨n, rfl⟩, hstack'⟩ := hstack.goes_in hsteps hok hmem
    obtain ⟨fields, hfields, hall⟩ := fields_of_attempt_ok hmem hok
    have hsteps' : n + (a.1 :: stack).length = r.shapes.length := by
      rw [List.length_cons]
      omega
    refine attempt_ok_of_records (h.fieldsOf hfields) fun b hb mid => ?_
    by_cases hb' : b.1 ∈ a.1 :: stack
    · rw [attempt_lazily hb']
    · exact ih hstack' hsteps' (hall b hb) hb'

theorem Extends.alone (h : r.Extends r') (ha : r.Alone a) : r'.Alone a :=
  h.attempt (stacked_nil r) rfl ha

end

end Conform.Registry
