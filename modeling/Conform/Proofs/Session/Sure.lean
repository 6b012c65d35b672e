import Conform.Proofs.Kind.Composes
import Conform.Proofs.Kind.Resolves
import Conform.Proofs.Spec.References
/-!
Specs whose outcomes are settled. If a session knows every lazy reference in a spec, if all of them
resolve and no union is empty, then the walks of the spec do what it means in every session that goes
on from there, and what it means is lawful. The specs derived from kinds that resolve are such.
-/

namespace Conform

/-- The table knows the reference, which resolves and leads to no empty union. -/
structure Reference.Sure (id : Nat) (r : Registry) (cells : List Target) (reference : Reference) :
    Prop where
  cell : cells[reference.cell]? = some reference.target
  target : reference.target.IsOf id
  resolves : reference.target.Resolves id r
  alternatives : reference.target.HasAlternatives r

/-- No union in the spec is empty, and of all lazy references in it something is known. -/
structure Spec.Sure (known : Reference → Prop) (s : Spec) : Prop where
  alternatives : s.HasAlternatives
  refers : s.Refers known

/-! ## Derived specs -/

namespace Spec

/-- A property of specs that passes from the parts of derived specs to the whole. -/
structure Composes (known : Reference → Prop) (P : Spec → Prop) : Prop where
  isInstance (i : Instance) (k : ValueKind) : P (.isInstance i k)
  unbound (i : Instance) (p : String) : P (.unbound i p)
  consistency (i : Instance) (groups : List PlaceholderGroup) : P (.consistency i groups)
  deferred (i : Instance) {reference : Reference} : known reference → P (.deferred i reference)
  decorated (i : Instance) {s : Spec} (label : Option String) : P s → P (.decorated i s label)
  collOf (i : Instance) {s : Spec} : P s → P (.collOf i s)
  oneOf (i : Instance) {ss : List Spec} : ss ≠ [] → (∀ s ∈ ss, P s) → P (.oneOf i ss)
  allOf (i : Instance) {ss : List Spec} : (∀ s ∈ ss, P s) → P (.allOf i ss)
  dict (i : Instance) {keys : List (String × Spec)} (extra : ExtraFields) :
    (∀ key ∈ keys, P key.2) → P (.dict i keys extra)

theorem composes_sure (known : Reference → Prop) : Composes known (Sure known) where
  isInstance _ _ := ⟨trivial, fun _ h => absurd h List.not_mem_nil⟩
  unbound _ _ := ⟨trivial, fun _ h => absurd h List.not_mem_nil⟩
  consistency _ _ := ⟨trivial, fun _ h => absurd h List.not_mem_nil⟩
  deferred _ _ h := ⟨trivial, refers_deferred.mpr h⟩
  decorated _ _ _ h := ⟨by simpa only [HasAlternatives] using h.alternatives,
    refers_decorated.mpr h.refers⟩
  collOf _ _ h := ⟨by simpa only [HasAlternatives] using h.alternatives, refers_collOf.mpr h.refers⟩
  oneOf _ _ hne h := by
    refine ⟨?_, refers_oneOf.mpr fun s hs => (h s hs).refers⟩
    rw [HasAlternatives]
    exact ⟨hne, allHaveAlternatives_iff.mpr fun s hs => (h s hs).alternatives⟩
  allOf _ _ h := by
    refine ⟨?_, refers_allOf.mpr fun s hs => (h s hs).refers⟩
    rw [HasAlternatives]
    exact allHaveAlternatives_iff.mpr fun s hs => (h s hs).alternatives
  dict _ _ _ h := by
    refine ⟨?_, refers_dict.mpr fun key hkey => (h key hkey).refers⟩
    rw [HasAlternatives]
    exact keysHaveAlternatives_iff.mpr fun key hkey => (h key hkey).alternatives

/-- No coercion stands in derived specs, and what is found behind references is derived. -/
theorem composes_risesTo (known : Reference → Prop) : Composes known fun s => ∀ n, s.RisesTo n where
  isInstance _ _ _ := trivial
  unbound _ _ _ := trivial
  consistency _ _ _ := trivial
  deferred _ _ _ _ := trivial
  decorated _ _ _ h n := by
    rw [RisesTo]
    exact h n
  collOf _ _ h n := by
    rw [RisesTo]
    exact h (n - 1)
  oneOf _ _ _ h n := by
    rw [RisesTo]
    exact allRiseTo_iff.mpr fun s hs => h s hs n
  allOf _ _ h n := by
    rw [RisesTo]
    exact allRiseTo_iff.mpr fun s hs => h s hs n
  dict _ _ _ h n := by
    rw [RisesTo]
    exact keysRiseTo_iff.mpr fun key hkey => h key hkey (n - 1)

end Spec

section
variable {id : Nat} {r : Registry} {Q : Target → Prop} {cells : List Target} {P : Spec → Prop}

theorem RecordForm.composes {known : Reference → Prop} (hP : Spec.Composes known P)
    {config : DeriveConfig} {groups : List PlaceholderGroup} {keys : List (String × Spec)} {s : Spec}
    (h : RecordForm config groups keys s) (hkeys : ∀ key ∈ keys, P key.2) : P s := by
  cases h with
  | plain i j label _ => exact hP.decorated i label (hP.dict j config.extra hkeys)
  | grouped i j k l label _ =>
    refine hP.decorated i label (hP.allOf j (List.forall_mem_cons.mpr ⟨?_, ?_⟩))
    · exact hP.dict k config.extra hkeys
    · exact List.forall_mem_singleton.mpr (hP.consistency l groups)

mutual

/-- Derived specs have every property that passes from parts to wholes, if nothing dangles in their
kinds. -/
theorem Stands.composes (hP : Spec.Composes (Reference.Sure id r cells) P) :
    ∀ {k : Kind} {s : Spec}, Stands id r Q cells k s → k.Resolves id r → k.HasAlternatives r → P s
  | _, _, .leaf i k, _, _ => hP.isInstance i k
  | _, _, .nothing i, _, _ => hP.isInstance i .null
  | _, _, .record h, hk, ha => h.composes hP (hk _ List.mem_cons_self) ha
  | _, _, .lazyRecord i _ hcell, hk, ha => hP.deferred i ⟨hcell, rfl, hk _ List.mem_cons_self, ha⟩
  | _, _, .forward i _ hcell, hk, ha =>
    hP.deferred i ⟨hcell, rfl, hk _ List.mem_cons_self, ha.behind⟩
  | _, _, .list i h, hk, ha => hP.collOf i (h.composes hP hk ha.item)
  | _, _, .union i h, hk, ha => by
    refine hP.oneOf i (fun hnil => ?_) (h.composes hP hk ha.alternative)
    subst hnil
    cases h
    exact ha _ (.refl _) rfl
  | _, _, .placeholder i p, _, _ => hP.unbound i p

theorem StandAll.composes (hP : Spec.Composes (Reference.Sure id r cells) P) :
    ∀ {ks : List Kind} {ss : List Spec}, StandAll id r Q cells ks ss →
      (∀ target ∈ Kind.targetsOfAll id ks, target.Resolves id r) →
      (∀ k ∈ ks, k.HasAlternatives r) → ∀ s ∈ ss, P s
  | _, _, .nil, _, _ => fun _ hs => absurd hs List.not_mem_nil
  | _, _, .cons h hs, hks, ha =>
    List.forall_mem_cons.mpr ⟨
      h.composes hP (fun target hmem => hks target (List.mem_append_left _ hmem))
        (ha _ List.mem_cons_self),
      hs.composes hP (fun target hmem => hks target (List.mem_append_right _ hmem))
        fun k hk => ha k (List.mem_cons_of_mem _ hk)⟩

theorem StandFields.composes (hP : Spec.Composes (Reference.Sure id r cells) P) :
    ∀ {fields : List Field} {keys : List (String × Spec)}, StandFields id r Q cells fields keys →
      (∀ f ∈ fields, f.kind.Resolves id r) → (∀ f ∈ fields, f.kind.HasAlternatives r) →
      ∀ key ∈ keys, P key.2
  | _, _, .nil, _, _ => fun _ hkey => absurd hkey List.not_mem_nil
  | _, _, .cons h hs, hks, ha =>
    List.forall_mem_cons.mpr ⟨
      h.composes hP (hks _ List.mem_cons_self) (ha _ List.mem_cons_self),
      hs.composes hP (fun f hf => hks f (List.mem_cons_of_mem _ hf))
        fun f hf => ha f (List.mem_cons_of_mem _ hf)⟩

theorem StandsRecord.composes (hP : Spec.Composes (Reference.Sure id r cells) P) :
    ∀ {a : Applied} {s : Spec}, StandsRecord id r Q cells a s →
      (Target.shape id a.1 a.2).Resolves id r → (Kind.record a.1 a.2).HasAlternatives r → P s
  | _, _, .mk _ hfields hkeys hform, ha, hb =>
    hform.composes hP (hkeys.composes hP
      (fun f hf _ hmem => ha.leads ⟨_, _, f, rfl, hfields, hf, hmem⟩) (hb.field hfields))

end

end

/-! ## Kinds that resolve -/

namespace Kind.Resolves

variable {id : Nat} {r : Registry} {k : Kind}

/-- All shapes in a kind that resolves are found, whatever is kept. -/
theorem attemptAll_ok (h : k.Resolves id r) (memoize : Bool) (done : List Applied) :
    (Registry.attemptAll (r.start memoize) k.records done).1 = .ok () :=
  Registry.attemptAll_ok_of_alone (fun _ ha => (h _ ((shape_mem_targets k).mpr ha)).alone) memoize done

/-- A spec is made of the kind, and there is no doubt what it does. -/
theorem specFor_ok (h : k.Resolves id r) (halternatives : k.HasAlternatives r)
    {cells : List Target} {s : Session} (hsound : Session.Sound id r r.BuiltinUnregistered cells s) :
    ∃ spec t cells', (Session.specFor id k).run s = (.ok spec, t) ∧ cells <+: cells' ∧
      Session.Sound id r r.BuiltinUnregistered cells' t ∧ spec.Sure (Reference.Sure id r cells') ∧
      ∀ n, spec.RisesTo n := by
  obtain ⟨cells', hmade⟩ := Session.specFor_follows k cells s cells (s.kept id) (List.prefix_refl _)
    hsound (Session.tallies_kept s) fun _ _ => trivial
  have houtcome := hmade.outcome
  rw [h.attemptAll_ok] at houtcome
  rcases hrun : (Session.specFor id k).run s with ⟨e | spec, t⟩
  · rw [hrun] at houtcome
    cases houtcome
  · rw [hrun] at hmade
    have hstands := hmade.result spec rfl
    exact ⟨spec, t, cells', rfl, hmade.cells, hmade.sound,
      hstands.composes (Spec.composes_sure _) h halternatives,
      hstands.composes (Spec.composes_risesTo _) h halternatives⟩

end Kind.Resolves

/-! ## What sure specs mean -/

namespace Registry

/-- What a target means for each value, however deep it is. -/
def behind (r : Registry) (id : Nat) (target : Target) : Meaning where
  conform v := (r.refs id (v.depth + 1) target).conform v
  explain path v := (r.refs id (v.depth + 1) target).explain path v

open Classical in
/-- What references mean, where only those to targets without empty unions matter. -/
noncomputable def sureRefs (r : Registry) (id : Nat) (_ : Instance) (reference : Reference) :
    Meaning :=
  if reference.target.HasAlternatives r then r.behind id reference.target else .anything

variable (r : Registry) (id : Nat) (i : Instance) (reference : Reference)

theorem lawful_sureRefs : (r.sureRefs id i reference).Lawful := by
  unfold sureRefs
  split
  · next h => exact fun path v => Kind.composes_lawful.refs _ h path v
  · exact Meaning.lawful_anything

theorem rises_sureRefs : (r.sureRefs id i reference).Rises 0 := by
  unfold sureRefs
  split
  · next h => exact fun v => Kind.composes_rises.refs _ h v
  · exact Meaning.rises_anything

end Registry

section
variable {id : Nat} {r : Registry} {cells : List Target} {stuck : Prop}

theorem Reference.Sure.implements {reference : Reference} (h : reference.Sure id r cells) {n m : Nat}
    (hm : n ≤ m ∨ stuck) (i : Instance) {v : Value} (hv : v.depth < n) :
    Spec.Implements stuck (Session.SoundOver id r r.BuiltinUnregistered cells) (.within m)
      Problem.report (.deferred i reference) (r.sureRefs id i reference) v := by
  have hwalk := deferred_implements (settled_resolves id r) hm cells (v.depth + 1) i reference v
    h.cell h.target h.resolves hv (Nat.lt_succ_self _)
  unfold Registry.sureRefs
  rw [if_pos h.alternatives]
  exact ⟨hwalk.conform, hwalk.explain⟩

/-- The walks of a sure spec answer what it means; they may only be stuck if some coercion makes
values deeper than is allowed for. -/
theorem Spec.Sure.implements {spec : Spec} (h : spec.Sure (Reference.Sure id r cells)) (v : Value)
    (hstuck : ¬ spec.RisesTo Check.coercionAllowance → stuck) (s : Session) :
    Implements stuck (Session.SoundOver id r r.BuiltinUnregistered cells) (.within (Check.reach v s))
      Problem.report spec (spec.meaning (r.sureRefs id)) v := by
  have hrefers : HandsOn (r.sureRefs id) fun s _ => s.Refers (Reference.Sure id r cells) :=
    handsOn_refers _
  by_cases hrises : spec.RisesTo Check.coercionAllowance
  · -- No value on the way is deeper than the value itself or what coercions may make of it.
    let depth := max v.depth Check.coercionAllowance
    have hreach : depth + 1 ≤ Check.reach v s := by
      have hmul : (v.depth + 1) * 1 ≤ (v.depth + 1) * (s.nextCell + 1) :=
        Nat.mul_le_mul_left _ (Nat.le_add_left 1 _)
      simp only [depth, Check.reach]
      omega
    refine implements_fitting (hrefers.and (handsOn_risesTo (r.rises_sureRefs id) depth)) ?_ spec v
      ⟨h.refers, Nat.le_max_left _ _, _, Nat.le_max_right _ _, hrises⟩
    rintro i reference w ⟨hknown, hdepth, _⟩
    exact (refers_deferred.mp hknown).implements (.inl hreach) i (Nat.lt_succ_of_le hdepth)
  · refine implements_fitting hrefers ?_ spec v h.refers
    intro i reference w hknown
    exact (refers_deferred.mp hknown).implements (.inr (hstuck hrises)) i (Nat.lt_succ_self _)

theorem Spec.Sure.lawful {known : Reference → Prop} {spec : Spec} (h : spec.Sure known) (r : Registry)
    (id : Nat) : (spec.meaning (r.sureRefs id)).Lawful :=
  lawful_meaning (r.lawful_sureRefs id) spec h.alternatives

theorem Reference.Sure.mono {cells' : List Target} (hcells : cells <+: cells') (reference : Reference)
    (h : reference.Sure id r cells) : reference.Sure id r cells' :=
  ⟨cell_mono hcells h.cell, h.target, h.resolves, h.alternatives⟩

theorem Spec.Sure.mono {cells' : List Target} (hcells : cells <+: cells') {spec : Spec}
    (h : spec.Sure (Reference.Sure id r cells)) : spec.Sure (Reference.Sure id r cells') :=
  ⟨h.alternatives, h.refers.imp (Reference.Sure.mono hcells)⟩

end

end Conform
