import Conform.Proofs.Session.Sure
import Conform.Spec.Build
/-!
Specs that callers put together. A spec is put together around a new instance, of parts that were made before, and
nothing else is done to the session; so what each such step carries along, whatever is put together carries along.
The session stays as sound as it was, and a spec is as sure as the specs that went into it.
-/

namespace Conform

/-! ## Parts -/

namespace Spec

/-- The specs directly in a spec, but for what lies behind references. -/
def inner : Spec → List Spec
  | decorated _ spec _ | coerce _ _ spec _ | collOf _ spec => [spec]
  | oneOf _ specs | allOf _ specs => specs
  | dict _ keys _ => keys.map (·.2)
  | anything _ | never _ | predicate _ _ | equalTo _ _ | isInstance _ _ | isIn _ _ | deferred _ _
  | unbound _ _ | consistency _ _ => []

/-- Neither a lazy reference nor a union of nothing. -/
def Outright : Spec → Prop
  | deferred _ _ => False
  | oneOf _ alternatives => alternatives ≠ []
  | anything _ | never _ | predicate _ _ | equalTo _ _ | isInstance _ _ | isIn _ _ | decorated _ _ _
  | coerce _ _ _ _ | allOf _ _ | collOf _ _ | dict _ _ _ | unbound _ _ | consistency _ _ => True

section
variable {known : Reference → Prop} {s : Spec}

theorem sure_leaf (halternatives : s.HasAlternatives) (hreferences : s.references = []) :
    s.Sure known := by
  refine ⟨halternatives, fun reference hmem => ?_⟩
  rw [hreferences] at hmem
  exact absurd hmem List.not_mem_nil

theorem Sure.coerce (h : s.Sure known) (i : Instance) (coercer : Coercer)
    (failureReason : Option (Value → String → String)) :
    (coerce i coercer s failureReason).Sure known := by
  refine ⟨?_, refers_coerce.mpr h.refers⟩
  rw [HasAlternatives]
  exact h.alternatives

/-- A spec of sure parts is sure. -/
theorem sure_of_inner (houtright : s.Outright) (hinner : ∀ part ∈ s.inner, part.Sure known) :
    s.Sure known := by
  have hcomposes := composes_sure known
  cases s with
  | anything | never | predicate | equalTo | isInstance | isIn | unbound | consistency =>
    exact sure_leaf trivial rfl
  | decorated i s description =>
    exact hcomposes.decorated i description (List.forall_mem_singleton.mp hinner)
  | coerce i coercer s failureReason =>
    exact (List.forall_mem_singleton.mp hinner).coerce i coercer failureReason
  | oneOf i ss => exact hcomposes.oneOf i houtright hinner
  | allOf i ss => exact hcomposes.allOf i hinner
  | collOf i item => exact hcomposes.collOf i (List.forall_mem_singleton.mp hinner)
  | dict i keys extra => exact hcomposes.dict i extra (List.forall_mem_map.mp hinner)
  | deferred => exact houtright.elim

end

end Spec

/-! ## What builds carry along -/

namespace Build

open Session (newInstance)

/-- The stages that a session goes through while specs are made, and what holds of it at each. -/
structure Stages (ι : Type) where
  Upto : ι → ι → Prop
  Holds : ι → Session → Prop
  refl (w : ι) : Upto w w
  trans {u v w : ι} : Upto u v → Upto v w → Upto u w

section
variable {ι α β : Type} {I : Stages ι} {w : ι} {R : ι → α → Prop} {S : ι → β → Prop}

/-- From any session at this stage or a later one the build goes on to a session at a stage later still, and what it
makes, if anything, is as it should be by then. -/
def Carries (I : Stages ι) (w : ι) (x : Build α) (R : ι → α → Prop) : Prop :=
  ∀ v s, I.Upto w v → I.Holds v s →
    ∃ u, I.Upto v u ∧ I.Holds u (x.run s).2 ∧ ∀ a, (x.run s).1 = .ok a → R u a

theorem carries_pure {a : α} (h : ∀ v, I.Upto w v → R v a) : Carries I w (pure a) R := by
  intro v s hv hs
  refine ⟨v, I.refl v, hs, fun b hb => ?_⟩
  cases hb
  exact h v hv

theorem carries_throw (e : SpecError) : Carries I w (throw e : Build α) R := by
  intro v s _ hs
  refine ⟨v, I.refl v, hs, fun b hb => ?_⟩
  cases hb

theorem Carries.bind {x : Build α} {f : α → Build β} (hx : Carries I w x R)
    (hf : ∀ v a, I.Upto w v → R v a → Carries I v (f a) S) : Carries I w (x >>= f) S := by
  intro v s hv hs
  obtain ⟨u, hu, hs', ha⟩ := hx v s hv hs
  rw [run_bind]
  rcases hrun : x.run s with ⟨e | a, t⟩
  · rw [hrun] at hs'
    refine ⟨u, hu, hs', fun b hb => ?_⟩
    cases hb
  · rw [hrun] at hs' ha
    obtain ⟨u', hu', hs'', hb⟩ := hf u a (I.trans hv hu) (ha a rfl) u t (I.refl u) hs'
    exact ⟨u', I.trans hu hu', hs'', hb⟩

theorem Carries.mono {v : ι} {x : Build α} (hx : Carries I w x R) (hv : I.Upto w v) :
    Carries I v x R :=
  fun u s hu hs => hx u s (I.trans hv hu) hs

theorem carries_lift (x : Except SpecError α) : Carries I w (liftM x : Build α) fun _ _ => True := by
  cases x with
  | ok a => exact carries_pure fun _ _ => trivial
  | error e => exact carries_throw e

theorem carries_get : Carries I w (get : Build Session) I.Holds := by
  intro v s _ hs
  refine ⟨v, I.refl v, hs, fun t ht => ?_⟩
  cases ht
  exact hs

theorem carries_mapM {f : α → Build β} {as : List α} (hmono : ∀ {u v b}, I.Upto u v → S u b → S v b)
    (hf : ∀ a ∈ as, Carries I w (f a) S) :
    Carries I w (as.mapM f) fun v bs => bs.length = as.length ∧ ∀ b ∈ bs, S v b := by
  induction as with
  | nil => exact carries_pure fun _ _ => ⟨rfl, List.forall_mem_nil _⟩
  | cons a as ih =>
    rw [List.mapM_cons]
    refine (hf a List.mem_cons_self).bind fun v b hv hb => ?_
    refine ((ih fun a' ha' => hf a' (List.mem_cons_of_mem _ ha')).mono hv).bind fun u bs hu hbs => ?_
    exact carries_pure fun u' hu' => ⟨congrArg (· + 1) hbs.1,
      List.forall_mem_cons.mpr ⟨hmono (I.trans hu hu') hb, fun b' hb' => hmono hu' (hbs.2 b' hb')⟩⟩

/-- A property of specs that lasts, and that a spec has around each new instance if its parts have it. -/
structure Carried (I : Stages ι) (P : ι → Spec → Prop) : Prop where
  mono {v w : ι} {s : Spec} : I.Upto v w → P v s → P w s
  made {w : ι} {make : Instance → Spec} : (∀ i, (make i).id = i) → (∀ i, (make i).Outright) →
    (∀ i, ∀ part ∈ (make i).inner, P w part) → Carries I w (do return make (← newInstance)) P

end

end Build

open Build (Stages Carries Carried carries_pure carries_throw carries_mapM)

/-- Of specs, only those at hand. -/
def Speccable.AtHand (specs : List Spec) : Speccable → Prop
  | spec s => s ∈ specs
  | kind _ | set _ | predicate _ _ | value _ => True

section
variable {ι : Type} {I : Stages ι} {P : ι → Spec → Prop} {w : ι} {specs : List Spec}

theorem Build.Carried.leaf (hP : Carried I P) {make : Instance → Spec} (hid : ∀ i, (make i).id = i)
    (houtright : ∀ i, (make i).Outright) (hinner : ∀ i, (make i).inner = []) :
    Carries I w (do return make (← Session.newInstance)) P :=
  hP.made hid houtright fun i part hpart => by
    rw [hinner] at hpart
    cases hpart

namespace Speccable

mutual

theorem ofValue_carries (hP : Carried I P) : ∀ v : Value, Carries I w (ofValue v) P
  | .object pairs => by
    unfold ofValue
    refine (ofPairs_carries hP pairs).bind fun v keys _ hkeys => ?_
    exact hP.made (fun _ => rfl) (fun _ => trivial) fun _ => List.forall_mem_map.mpr hkeys
  | .null | .bool _ | .int _ | .float _ | .string _ | .bytes _ | .list _ | .tuple _ => by
    unfold ofValue
    exact carries_throw _

theorem ofPairs_carries (hP : Carried I P) : ∀ pairs : List (String × Value),
    Carries I w (ofPairs pairs) fun v keys => ∀ key ∈ keys, P v key.2
  | [] => carries_pure fun _ _ => List.forall_mem_nil _
  | (key, v) :: pairs => by
    unfold ofPairs
    refine (ofValue_carries hP v).bind fun u s hu hs => ?_
    refine ((ofPairs_carries hP pairs).mono hu).bind fun v keys hv hkeys => ?_
    exact carries_pure fun v' hv' => List.forall_mem_cons.mpr
      ⟨hP.mono (I.trans hv hv') hs, fun key hkey => hP.mono hv' (hkeys key hkey)⟩

end

theorem specize_carries (hP : Carried I P) (hspecs : ∀ s ∈ specs, P w s) {of : Speccable}
    (h : of.AtHand specs) : Carries I w of.specize P := by
  cases of with
  | spec s => exact carries_pure fun v hv => hP.mono hv (hspecs s h)
  | kind k | set members | predicate name check =>
    exact hP.leaf (fun _ => rfl) (fun _ => trivial) fun _ => rfl
  | value v => exact ofValue_carries hP v

theorem specize_all_carries (hP : Carried I P) (hspecs : ∀ s ∈ specs, P w s) {of : List Speccable}
    (h : ∀ part ∈ of, part.AtHand specs) :
    Carries I w (of.mapM specize) fun v ss => ss.length = of.length ∧ ∀ s ∈ ss, P v s :=
  carries_mapM hP.mono fun part hpart => specize_carries hP hspecs (h part hpart)

end Speccable

namespace Build

mutual

theorem ofExample_carries (hP : Carried I P) : ∀ v : Value, Carries I w (ofExample v) P
  | .object pairs => by
    unfold ofExample
    refine (ofExamplePairs_carries hP pairs).bind fun v keys _ hkeys => ?_
    exact hP.made (fun _ => rfl) (fun _ => trivial) fun _ => List.forall_mem_map.mpr hkeys
  | .null | .bool _ | .int _ | .float _ | .string _ | .bytes _ | .list _ | .tuple _ => by
    unfold ofExample
    exact hP.leaf (fun _ => rfl) (fun _ => trivial) fun _ => rfl

theorem ofExamplePairs_carries (hP : Carried I P) : ∀ pairs : List (String × Value),
    Carries I w (ofExamplePairs pairs) fun v keys => ∀ key ∈ keys, P v key.2
  | [] => carries_pure fun _ _ => List.forall_mem_nil _
  | (key, v) :: pairs => by
    unfold ofExamplePairs
    refine (ofExample_carries hP v).bind fun u s hu hs => ?_
    refine ((ofExamplePairs_carries hP pairs).mono hu).bind fun v keys hv hkeys => ?_
    exact carries_pure fun v' hv' => List.forall_mem_cons.mpr
      ⟨hP.mono (I.trans hv hv') hs, fun key hkey => hP.mono hv' (hkeys key hkey)⟩

end

/-! ## Constructions -/

/-- The ways to put a spec together of the specs at hand, a union of at least one. -/
inductive Constructs (specs : List Spec) : Build Spec → Prop
  | anything : Constructs specs anything
  | never : Constructs specs never
  | equalTo (expected : Value) : Constructs specs (equalTo expected)
  | isInstance (kind : ValueKind) : Constructs specs (isInstance kind)
  | isIn (members : List Value) : Constructs specs (isIn members)
  | predicate (p : Predicate) : Constructs specs (predicate p)
  | coerce (coercer : Coercer) {of : Speccable}
    (failureReason : Option (Value → String → String)) : of.AtHand specs →
      Constructs specs (coerce coercer of failureReason)
  | decorated {of : Speccable} (description : Option String) : of.AtHand specs →
    Constructs specs (decorated of description)
  | collOf {of : Speccable} : of.AtHand specs → Constructs specs (collOf of)
  | dict {keys : List (String × Speccable)} (extra : ExtraFields) :
    (∀ key ∈ keys, key.2.AtHand specs) → Constructs specs (dict keys extra)
  | dictExample (pairs : List (String × Value)) : Constructs specs (dictExample pairs)
  | oneOf {of : List Speccable} : of ≠ [] → (∀ part ∈ of, part.AtHand specs) →
    Constructs specs (oneOf of)
  | allOf {of : List Speccable} : (∀ part ∈ of, part.AtHand specs) → Constructs specs (allOf of)

theorem Constructs.carries (hP : Carried I P) (hspecs : ∀ s ∈ specs, P w s) {x : Build Spec}
    (h : Constructs specs x) : Carries I w x P := by
  have hpart : ∀ {of : Speccable}, of.AtHand specs → Carries I w of.specize P :=
    Speccable.specize_carries hP hspecs
  cases h with
  | anything | never | equalTo _ | isInstance _ | isIn _ | predicate _ =>
    exact hP.leaf (fun _ => rfl) (fun _ => trivial) fun _ => rfl
  | coerce _ _ hof | decorated _ hof | collOf hof =>
    refine (hpart hof).bind fun v s _ hs => ?_
    exact hP.made (fun _ => rfl) (fun _ => trivial) fun _ => List.forall_mem_singleton.mpr hs
  | dict extra hkeys =>
    refine (carries_mapM (S := fun v key => P v key.2) hP.mono fun key hkey => ?_).bind
      fun v keys _ hmade => ?_
    · exact (hpart (hkeys key hkey)).bind fun v s _ hs => carries_pure fun u hu => hP.mono hu hs
    · exact hP.made (fun _ => rfl) (fun _ => trivial) fun _ => List.forall_mem_map.mpr hmade.2
  | dictExample pairs => exact ofExample_carries hP (.object pairs)
  | oneOf hne hof =>
    refine (Speccable.specize_all_carries hP hspecs hof).bind fun v ss _ hss => ?_
    refine hP.made (fun _ => rfl) (fun _ hnil => hne ?_) fun _ => hss.2
    rw [← List.length_eq_zero_iff, ← hss.1, hnil]
    rfl
  | allOf hof =>
    refine (Speccable.specize_all_carries hP hspecs hof).bind fun v ss _ hss => ?_
    exact hP.made (fun _ => rfl) (fun _ => trivial) fun _ => hss.2

end Build

end

/-! ## Sound sessions -/

namespace Build

variable {id : Nat} {r : Registry} {Q : Target → Prop} {cells : List Target}
  {known : Reference → Prop}

/-- The session stays sound by the table that it was sound by, and what is made, if anything is, is as
it should be. -/
def Keeps {α : Type} (id : Nat) (r : Registry) (Q : Target → Prop) (cells : List Target) (x : Build α)
    (R : α → Prop) : Prop :=
  ∀ s, Session.Sound id r Q cells s →
    Session.Sound id r Q cells (x.run s).2 ∧ ∀ a, (x.run s).1 = .ok a → R a

/-- A single stage, at which the session is sound by the table. -/
def soundly (id : Nat) (r : Registry) (Q : Target → Prop) (cells : List Target) : Stages Unit where
  Upto _ _ := True
  Holds _ s := Session.Sound id r Q cells s
  refl _ := trivial
  trans _ _ := trivial

theorem carried_sure : Carried (soundly id r Q cells) fun _ => Spec.Sure known where
  mono _ hs := hs
  made _ houtright hinner _ _ _ hs := by
    refine ⟨(), trivial, hs.extend (List.prefix_refl _) hs.count rfl rfl rfl rfl, fun spec hspec => ?_⟩
    cases hspec
    exact Spec.sure_of_inner (houtright _) (hinner _)

/-- A spec that is put together of sure specs is sure. -/
theorem Constructs.keeps {specs : List Spec} (hspecs : ∀ s ∈ specs, s.Sure known) {x : Build Spec}
    (h : Constructs specs x) : Keeps id r Q cells x (Spec.Sure known) := by
  intro s hs
  obtain ⟨_, _, hmade⟩ := h.carries (w := ()) carried_sure hspecs () s trivial hs
  exact hmade

end Build

end Conform
