import Conform.Proofs.Registry.Renaming
/-!
Substitutions one after the other. Two of them come to a single one, and what a kind mentions after a
substitution is what is put in the place of the placeholders that it mentions before. If all of those
are parameters, and each of the parameters gets an argument, another substitution may as well be made
in the arguments.
-/

namespace Conform.Kind

/-- All placeholders in the kind are among those named. -/
def ClosedBy (params : List String) (k : Kind) : Prop := ∀ p, k.Mentions p → p ∈ params

/-- The kind is none of the placeholders that are not named. -/
def IsNamed (params : List String) : Kind → Prop
  | placeholder p => p ∈ params
  | leaf _ | nothing | list _ | union _ | record _ _ | forward _ _ => True

instance (params : List String) : DecidablePred (IsNamed params)
  | placeholder p => inferInstanceAs (Decidable (p ∈ params))
  | leaf _ | nothing | list _ | union _ | record _ _ | forward _ _ =>
    inferInstanceAs (Decidable True)

theorem throughout_isNamed {params : List String} {k : Kind} :
    k.Throughout (IsNamed params) ↔ k.ClosedBy params := by
  refine ⟨fun h p hp => h _ hp, fun h part hpart => ?_⟩
  cases part with
  | placeholder p => exact h p hpart
  | leaf | nothing | list | union | record | forward => trivial

instance (params : List String) : DecidablePred (ClosedBy params) :=
  fun _ => decidable_of_iff _ throughout_isNamed

/-- The bindings of one substitution after another. -/
def compose (inner outer : Bindings) : Bindings :=
  inner.map (fun b => (b.1, b.2.substitute outer)) ++ outer

section
variable {inner outer bindings bindings' : Bindings} {p q : String}

theorem lookup_compose (inner outer : Bindings) (p : String) :
    (compose inner outer).lookup p =
      ((inner.lookup p).map (substitute outer)).or (outer.lookup p) := by
  unfold compose
  induction inner with
  | nil => rfl
  | cons b inner ih =>
    rw [List.map_cons, List.cons_append, List.lookup_cons, List.lookup_cons, ih]
    cases p == b.1 <;> rfl

mutual

theorem substitute_compose (inner outer : Bindings) :
    ∀ k : Kind, k.substitute (compose inner outer) = (k.substitute inner).substitute outer
  | leaf _ | nothing => rfl
  | placeholder p => by
    rw [substitute, substitute, lookup_compose]
    cases inner.lookup p <;> rfl
  | record name args | forward name args => by
    simp only [substitute, substituteAll_compose inner outer args]
  | list item => by simp only [substitute, substitute_compose inner outer item]
  | union ks => by simp only [substitute, substituteAll_compose inner outer ks]

theorem substituteAll_compose (inner outer : Bindings) : ∀ ks : List Kind,
    substituteAll (compose inner outer) ks = substituteAll outer (substituteAll inner ks)
  | [] => rfl
  | k :: ks => by
    simp only [substituteAll, substitute_compose inner outer k, substituteAll_compose inner outer ks]

end

/-! ## What is mentioned -/

mutual

/-- A substitution depends on what is bound to the placeholders in the kind, and on nothing else. -/
theorem substitute_congr : ∀ {k : Kind}, (∀ p, k.Mentions p → bindings.lookup p = bindings'.lookup p) →
    k.substitute bindings = k.substitute bindings'
  | leaf _, _ | nothing, _ => rfl
  | placeholder p, h => by
    unfold substitute
    rw [h p (List.mem_singleton_self _)]
  | record name args, h | forward name args, h => by
    have hargs := @substituteAll_congr args fun p hp => h p (List.mem_cons_of_mem _ hp)
    simp only [substitute, hargs]
  | list item, h => by
    have hitem := @substitute_congr item fun p hp => h p (List.mem_cons_of_mem _ hp)
    simp only [substitute, hitem]
  | union ks, h => by
    have hks := @substituteAll_congr ks fun p hp => h p (List.mem_cons_of_mem _ hp)
    simp only [substitute, hks]

theorem substituteAll_congr : ∀ {ks : List Kind},
    (∀ p, placeholder p ∈ partsOfAll ks → bindings.lookup p = bindings'.lookup p) →
      substituteAll bindings ks = substituteAll bindings' ks
  | [], _ => rfl
  | k :: ks, h => by
    have hk := @substitute_congr k fun p hp => h p (List.mem_append_left _ hp)
    have hks := @substituteAll_congr ks fun p hp => h p (List.mem_append_right _ hp)
    simp only [substituteAll, hk, hks]

end

mutual

theorem mentions_substitute : ∀ {k : Kind}, (k.substitute bindings).Mentions q ↔
    ∃ p, k.Mentions p ∧ ((placeholder p).substitute bindings).Mentions q
  | leaf _ | nothing => by simp [substitute, Mentions, parts]
  | placeholder p => by simp [Mentions, parts]
  | record name args | forward name args => by
    simpa [substitute, Mentions, parts] using @mem_partsOfAll_substituteAll args
  | list item => by simpa [substitute, Mentions, parts] using @mentions_substitute item
  | union ks => by
    simpa [substitute, Mentions, parts] using @mem_partsOfAll_substituteAll ks

theorem mem_partsOfAll_substituteAll : ∀ {ks : List Kind},
    placeholder q ∈ partsOfAll (substituteAll bindings ks) ↔
      ∃ p, placeholder p ∈ partsOfAll ks ∧ ((placeholder p).substitute bindings).Mentions q
  | [] => by simp [substituteAll, partsOfAll]
  | k :: ks => by
    have hk := @mentions_substitute k
    have hks := @mem_partsOfAll_substituteAll ks
    unfold Mentions at hk hks ⊢
    simp only [substituteAll, partsOfAll, List.mem_append, hk, hks, or_and_right, exists_or]

end

end

/-! ## Parameters -/

section
variable {params outer : List String} {args : List Kind} {k : Kind}

theorem lookup_bind_map (f : Kind → Kind) (p : String) :
    (Registry.bind params (args.map f)).lookup p = ((Registry.bind params args).lookup p).map f := by
  simpa [renamed_self] using @lookup_bind_renamed p p p params f (by simp [renamed_self]) args

theorem substitute_bind_map (hk : k.ClosedBy params) (hlength : args.length = params.length)
    (bindings : Bindings) :
    k.substitute (Registry.bind params (args.map (substitute bindings))) =
      (k.substitute (Registry.bind params args)).substitute bindings := by
  rw [← substitute_compose]
  refine substitute_congr fun p hp => ?_
  rw [lookup_bind_map, lookup_compose]
  cases hlookup : (Registry.bind params args).lookup p with
  | none => exact absurd (hk p hp) (not_mem_params_of_lookup hlength hlookup)
  | some arg => rfl

/-- What is closed by the parameters of a shape is afterwards closed by what closes the arguments. -/
theorem ClosedBy.substitute (hk : k.ClosedBy params) (hlength : args.length = params.length)
    (hargs : ∀ a ∈ args, a.ClosedBy outer) :
    (k.substitute (Registry.bind params args)).ClosedBy outer := by
  intro q hq
  obtain ⟨p, hp, hpq⟩ := mentions_substitute.mp hq
  unfold Kind.substitute at hpq
  cases hlookup : (Registry.bind params args).lookup p with
  | none => exact absurd (hk p hp) (not_mem_params_of_lookup hlength hlookup)
  | some arg =>
    rw [hlookup] at hpq
    obtain ⟨before, after, hbind, _⟩ := List.lookup_eq_some_iff.mp hlookup
    have hmem : (p, arg) ∈ Registry.bind params args :=
      hbind ▸ List.mem_append_right _ List.mem_cons_self
    exact hargs arg (List.of_mem_zip hmem).2 q hpq

end

end Conform.Kind
