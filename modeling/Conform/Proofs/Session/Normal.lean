import Conform.Proofs.Kind.Groups
import Conform.Proofs.Registry.Distinct
import Conform.Proofs.Session.Since
import Conform.Proofs.Spec.Normal
/-!
Derived specs leave alone what they have made. Every form that a derived spec takes normalizes if the
references in it do; and so it does by whatever a session holds behind them. A later session foretells
the answers of both checks, so of a value that a first check has made a second one makes the same.
-/

namespace Conform

open Session (Intact Since KeptByItself)

/-! ## Derived specs -/

theorem Spec.names_keyMeanings (refs : Instance → Reference → Meaning)
    (keys : List (String × Spec)) : (keyMeanings refs keys).map (·.1) = keys.map (·.1) := by
  induction keys with
  | nil => rfl
  | cons key keys ih => exact congrArg (key.1 :: ·) ih

theorem Spec.undeclared_eq_besides (keys : List (String × Spec)) :
    undeclared keys = Meaning.besides (keys.map (·.1)) := by
  funext pairs
  refine List.filter_congr fun pair _ => ?_
  simp [isDeclared, List.any_eq, eq_comm]

section
variable {id : Nat} {r : Registry} {Q : Target → Prop} {cells : List Target}
  {refs : Instance → Reference → Meaning} {extra : ExtraFields}

theorem StandFields.names_eq {fields : List Field} {keys : List (String × Spec)}
    (h : StandFields id r Q cells fields keys) : keys.map (·.1) = fields.map (·.name) := by
  induction fields generalizing keys with
  | nil =>
    cases h
    rfl
  | cons f fields ih =>
    cases h with
    | cons _ hs => exact congrArg (f.name :: ·) (ih hs)

/-- The fields that have to agree are declared, so they are there in what the record makes. -/
theorem normalizes_record {config : DeriveConfig} {fields : List Field}
    {keys : List (String × Spec)} {spec : Spec}
    (hform : RecordForm config (Session.placeholderGroups fields) keys spec)
    (hnames : keys.map (·.1) = fields.map (·.name)) (hfields : Field.Distinct fields)
    (hkeys : ∀ key ∈ Spec.keyMeanings refs keys, key.2.Normalizes config.extra) :
    (spec.meaning refs).Normalizes config.extra := by
  have hnodup : ((Spec.keyMeanings refs keys).map (·.1)).Nodup := by
    rw [Spec.names_keyMeanings, hnames]
    exact hfields
  have hdict : ∀ i, ((Spec.dict i keys config.extra).meaning refs).Normalizes config.extra := by
    intro i
    unfold Spec.meaning
    rw [Spec.undeclared_eq_besides, ← Spec.names_keyMeanings refs keys]
    exact Meaning.normalizes_dict _ hkeys hnodup
  cases hform with
  | plain i j label _ => exact hdict j
  | grouped i j k l label _ =>
    refine (hdict k).agreeing _ fun group hgroup name hname => ?_
    obtain ⟨f, hf, _, rfl⟩ := ((Session.groupsOf_placeholderGroups fields).has _ _).mp
      ⟨group, hgroup, rfl, hname⟩
    refine fun h => Meaning.dict_declares h ?_
    rw [Spec.names_keyMeanings, hnames]
    exact List.mem_map_of_mem hf

mutual

theorem Stands.normalizes (hrefs : ∀ i reference, (refs i reference).Normalizes r.config.extra) :
    ∀ {k : Kind} {spec : Spec}, Stands id r Q cells k spec →
      (spec.meaning refs).Normalizes r.config.extra
  | _, _, .leaf _ k => Meaning.normalizes_ofKind _ k _
  | _, _, .nothing _ => Meaning.normalizes_ofKind _ .null _
  | _, _, .record h => h.normalizes hrefs
  | _, _, .lazyRecord i _ _ => hrefs i _
  | _, _, .forward i _ _ => hrefs i _
  | _, _, .list _ h => (h.normalizes hrefs).collOf _
  | _, _, .union _ h => Meaning.normalizes_oneOf (h.normalizes hrefs)
  | _, _, .placeholder _ _ => Meaning.normalizes_anything

theorem StandAll.normalizes (hrefs : ∀ i reference, (refs i reference).Normalizes r.config.extra) :
    ∀ {ks : List Kind} {specs : List Spec}, StandAll id r Q cells ks specs →
      ∀ m ∈ Spec.meanings refs specs, m.Normalizes r.config.extra
  | _, _, .nil => fun _ hm => absurd hm List.not_mem_nil
  | _, _, .cons h hs => List.forall_mem_cons.mpr ⟨h.normalizes hrefs, hs.normalizes hrefs⟩

theorem StandFields.normalizes (hrefs : ∀ i reference, (refs i reference).Normalizes r.config.extra) :
    ∀ {fields : List Field} {keys : List (String × Spec)}, StandFields id r Q cells fields keys →
      ∀ key ∈ Spec.keyMeanings refs keys, key.2.Normalizes r.config.extra
  | _, _, .nil => fun _ hkey => absurd hkey List.not_mem_nil
  | _, _, .cons h hs => List.forall_mem_cons.mpr ⟨h.normalizes hrefs, hs.normalizes hrefs⟩

theorem StandsRecord.normalizes (hrefs : ∀ i reference, (refs i reference).Normalizes r.config.extra) :
    ∀ {a : Applied} {spec : Spec}, StandsRecord id r Q cells a spec →
      (spec.meaning refs).Normalizes r.config.extra
  | _, _, .mk _ hfields hkeys hform =>
    normalizes_record hform hkeys.names_eq (Registry.distinct_fieldsOf hfields)
      (hkeys.normalizes hrefs)

end

theorem Answers.normalizes (hrefs : ∀ i reference, (refs i reference).Normalizes r.config.extra)
    {target : Target} {spec : Spec} (h : Answers id r Q cells target spec) :
    (spec.meaning refs).Normalizes r.config.extra := by
  cases h with
  | shape h | forward _ h => exact h.normalizes hrefs
  | builtin i _ _ => exact Meaning.normalizes_ofKind _ _ _

/-- Whatever the session holds behind references normalizes. The induction is on how many references
are left to go through. -/
theorem Session.Intact.normalizes_refs {e : Session} (he : Intact id r cells e) (m : Nat) :
    ∀ i reference, (e.forecast.refs m i reference).Normalizes r.config.extra := by
  induction m with
  | zero => exact fun _ _ => Meaning.normalizes_of_invalid fun _ => rfl
  | succ m ih =>
    intro i reference
    unfold Forecast.refs
    cases hfound : e.forecast reference with
    | error error => exact Meaning.normalizes_of_invalid fun _ => rfl
    | ok spec =>
      have hfilled : e.filled.lookup reference.cell = some spec := by
        unfold Session.forecast at hfound
        cases hcell : e.filled.lookup reference.cell with
        | none =>
          rw [hcell] at hfound
          cases hfound
        | some spec' =>
          rw [hcell] at hfound
          cases hfound
          rfl
      obtain ⟨target, _, hanswers⟩ := he.filled hfilled
      exact hanswers.normalizes ih

/-! ## Checks of what a check has made -/

/-- What a check has made of a value, a later check makes of itself, if what the session was put
through in between only made it grow, and what was kept from the first check on could be derived by
itself. -/
theorem Stands.conform_again {k : Kind} {spec : Spec} {s t u e : Session} {v w : Value}
    {c : Conformed} (h : Stands id r (fun _ => True) cells k spec) (hs : Intact id r cells s)
    (hfirst : Check.conform spec v s = some (.valid w, t))
    (hbetween : ∀ cells₁, cells <+: cells₁ → Since id r s cells₁ t →
      ∃ cells₂, cells₁ <+: cells₂ ∧ Since id r s cells₂ u ∧ t.Grows u)
    (hsecond : Check.conform spec w u = some (c, e))
    (hk : k.LeadsOnlyTo r (KeptByItself id r s e)) : c = .valid w := by
  obtain ⟨_, _, cells₁, hrun₁, hcells₁, ht, _, hforetold₁⟩ :=
    h.conform_foretold hk (Check.depth_lt_reach v s) (List.prefix_refl _) hs.since
  cases hfirst.symm.trans hrun₁
  obtain ⟨cells₂, hcells₂, hu, hgrows⟩ := hbetween cells₁ hcells₁ ht
  have hcells := hcells₁.trans hcells₂
  obtain ⟨_, _, cells₃, hrun₂, hcells₃, he, hgrows', hforetold₂⟩ :=
    h.conform_foretold hk (Check.depth_lt_reach w u) hcells hu
  cases hsecond.symm.trans hrun₂
  -- Both answers are what the spec means by the last session, which normalizes.
  let m := max (Check.reach v s) (Check.reach w u) + 1
  have hmeans : Conformed.valid w = (spec.meaning (e.forecast.refs m)).conform v :=
    hforetold₁ cells₃ (hcells₂.trans hcells₃) he (hgrows.trans hgrows') m (by omega)
  have hagain : c = (spec.meaning (e.forecast.refs m)).conform w :=
    hforetold₂ cells₃ (List.prefix_refl _) he (.refl e) m (by omega)
  rw [hagain]
  exact (h.normalizes (he.toIntact.normalizes_refs m)).leaves hmeans.symm

end

end Conform
