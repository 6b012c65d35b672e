import Conform.Proofs.Check.Walk
/-!
What kinds mean in a registry where looks behind lazy references are settled: where they end in the
same way whenever they are made. The specs derived from a kind then all do what the kind means,
wherever they refer to a shape lazily and wherever they have it built in.
-/

namespace Conform

/-- What a problem tells its reader. The spec that it blames is left out: two specs derived from one
kind are not the same. -/
structure Report where
  path : Path
  value : Value
  reason : String
  deriving DecidableEq

def Problem.report (p : Problem) : Report := ⟨p.path, p.value, p.reason⟩

namespace Kind

/-- Problems of kinds blame no spec in particular. -/
def owner : Spec := .never (.implied .null)

theorem alike_owner (s : Spec) : Spec.Alike Problem.report s owner := fun _ _ _ => rfl

section
variable (id : Nat) (refs : Target → Meaning)

def leafMeaning (k : ValueKind) : Meaning :=
  .ofCheck owner (fun v => v.kind = k) (Spec.isInstanceReason k)

mutual

/-- The meaning of a kind, where `refs` answers for the shapes and names in it. -/
def meaning : Kind → Meaning
  | leaf k => leafMeaning k
  | nothing => leafMeaning .null
  | record name args => refs (.shape id name args)
  | forward name args => refs (.forward id name args)
  | list item => .collOf owner (meaning item)
  | union ks => .oneOf (meanings ks)
  | placeholder _ => .anything

def meanings : List Kind → List Meaning
  | [] => []
  | k :: ks => meaning k :: meanings ks

end

end

end Kind

namespace Registry

/-- The pairs that no field declares. -/
def undeclared (fields : List Field) (pairs : List (String × Value)) : List (String × Value) :=
  pairs.filter fun pair => !fields.any (·.name = pair.1)

/-- The meaning of a record whose fields have given meanings. -/
def formMeaning (config : DeriveConfig) (fields : List Field) (keys : List (String × Meaning)) :
    Meaning :=
  let dict := Meaning.dict Kind.owner (undeclared fields) config.extra keys
  let groups := Session.placeholderGroups fields
  if config.checkPlaceholders && !groups.isEmpty then
    .allOf [dict, .consistency Kind.owner groups]
  else dict

def fieldMeanings (id : Nat) (refs : Target → Meaning) (fields : List Field) :
    List (String × Meaning) :=
  fields.map fun f => (f.name, f.kind.meaning id refs)

/-- The meaning of a shape, if it can be derived by itself. -/
def recordMeaning (r : Registry) (id : Nat) (refs : Target → Meaning) (a : Applied) : Meaning :=
  match (r.start false a []).1, r.fieldsOf a with
  | .ok (), .ok fields => formMeaning r.config fields (fieldMeanings id refs fields)
  | .ok (), .error e | .error e, _ => .unresolved Kind.owner e

/-- The meaning of what is behind a lazy reference, for values less than so deep. -/
def refs (r : Registry) (id : Nat) : Nat → Target → Meaning
  | 0, _ => .anything
  | b + 1, .shape _ name args => r.recordMeaning id (refs r id b) (name, args)
  | b + 1, .forward _ name args =>
    if r.contains name then r.recordMeaning id (refs r id b) (name, args)
    else
      match r.builtin? name args with
      | some k => Kind.leafMeaning k
      | none => .unresolved Kind.owner (r.unresolved name)
  | _ + 1, .bound name => .unresolved Kind.owner (.unknownShape name)

end Registry

/-! ## What the meanings of kinds have in common -/

namespace Kind

/-- A property of meanings that passes from the parts of what kinds mean to the whole. -/
structure Spreads (P : Meaning → Prop) : Prop where
  anything : P .anything
  unresolved (e : SpecError) : P (.unresolved owner e)
  leaf (k : ValueKind) : P (leafMeaning k)
  collOf {m : Meaning} : P m → P (.collOf owner m)
  oneOf {ms : List Meaning} : (∀ m ∈ ms, P m) → P (.oneOf ms)

section
variable {P : Meaning → Prop} {id : Nat}

mutual

theorem Spreads.meaning (hP : Spreads P) {refs : Target → Meaning} (hrefs : ∀ target, P (refs target)) :
    ∀ k : Kind, P (k.meaning id refs)
  | .leaf k => hP.leaf k
  | .nothing => hP.leaf .null
  | .record _ _ | .forward _ _ => hrefs _
  | .list item => by
    unfold Kind.meaning
    exact hP.collOf (hP.meaning hrefs item)
  | .union ks => by
    unfold Kind.meaning
    exact hP.oneOf (hP.meanings hrefs ks)
  | .placeholder _ => hP.anything

theorem Spreads.meanings (hP : Spreads P) {refs : Target → Meaning} (hrefs : ∀ target, P (refs target)) :
    ∀ (ks : List Kind), ∀ m ∈ Kind.meanings id refs ks, P m
  | [] => fun _ hm => absurd hm List.not_mem_nil
  | k :: ks => List.forall_mem_cons.mpr ⟨hP.meaning hrefs k, hP.meanings hrefs ks⟩

end

/-- What has the property in records of the registry has it behind references. The induction is on how
deep the values are that the meaning is for. -/
theorem Spreads.refs (hP : Spreads P) {r : Registry}
    (hform : ∀ {a : Applied} {fields : List Field} (refs : Target → Meaning),
      r.fieldsOf a = .ok fields → (∀ f ∈ fields, P (f.kind.meaning id refs)) →
        P (Registry.formMeaning r.config fields (Registry.fieldMeanings id refs fields)))
    (b : Nat) (target : Target) : P (r.refs id b target) := by
  have hrecord : ∀ {refs : Target → Meaning}, (∀ target, P (refs target)) → ∀ a,
      P (r.recordMeaning id refs a) := by
    intro refs hrefs a
    unfold Registry.recordMeaning
    split
    · next fields _ hfields => exact hform refs hfields fun f _ => hP.meaning hrefs f.kind
    · exact hP.unresolved _
    · exact hP.unresolved _
  induction b generalizing target with
  | zero => exact hP.anything
  | succ b ih =>
    cases target with
    | bound name => exact hP.unresolved _
    | shape registry name args => exact hrecord ih (name, args)
    | forward registry name args =>
      unfold Registry.refs
      split
      · exact hrecord ih (name, args)
      · split
        · exact hP.leaf _
        · exact hP.unresolved _

end

end Kind

/-! ## Settled references -/

/-- Looks behind the references that matter end as they do where nothing is kept, and what is built
in can be derived by itself. `F` tells which targets matter. -/
structure Settled (id : Nat) (r : Registry) (Q F : Target → Prop) : Prop extends Closed id r Q where
  seek_eq : ∀ target done, F target → target.IsOf id → (∀ a ∈ done, Q (.shape id a.1 a.2)) →
    (r.seek r.config.memoize target done).1 = (r.seek false target []).1
  alone : ∀ a : Applied, F (.shape id a.1 a.2) → Q (.shape id a.1 a.2) → r.Alone a
  notBuiltin : ∀ name args, Q (.forward id name args) → r.contains name = false
  fields : ∀ {a : Applied} {fields : List Field}, F (.shape id a.1 a.2) → r.fieldsOf a = .ok fields →
    ∀ f ∈ fields, ∀ target ∈ f.kind.targets id, F target
  forward : ∀ {name args}, F (.forward id name args) → r.contains name = true →
    F (.shape id name args)

section
variable {id : Nat} {r : Registry} {Q F : Target → Prop} {cells : List Target} {d : Delegate}
  {I : Session → Prop} {n : Nat} {stuck : Prop}

theorem StandFields.any_eq {fields : List Field} {keys : List (String × Spec)}
    (h : StandFields id r Q cells fields keys) (name : String) :
    keys.any (·.1 = name) = fields.any (·.name = name) := by
  induction fields generalizing keys with
  | nil =>
    cases h
    rfl
  | cons f fields ih =>
    cases h with
    | cons _ hs => rw [List.any_cons, List.any_cons, ih hs]

theorem StandFields.undeclared_eq {fields : List Field} {keys : List (String × Spec)}
    (h : StandFields id r Q cells fields keys) :
    Spec.undeclared keys = Registry.undeclared fields := by
  funext pairs
  simp only [Spec.undeclared, Spec.isDeclared, Registry.undeclared, h.any_eq]

/-- A record does what its form means, if the specs of its fields do what their kinds mean. -/
theorem implements_form {fields : List Field} {keys : List (String × Spec)}
    {ms : List (String × Meaning)} {s : Spec} {v : Value}
    (hform : RecordForm r.config (Session.placeholderGroups fields) keys s)
    (hkeys : StandFields id r Q cells fields keys)
    (h : List.Forall₂ (Spec.KeyImplements stuck I d Problem.report v) keys ms) :
    Spec.Implements stuck I d Problem.report s (Registry.formMeaning r.config fields ms) v := by
  have hdict : ∀ i, Spec.Implements stuck I d Problem.report (.dict i keys r.config.extra)
      (.dict Kind.owner (Registry.undeclared fields) r.config.extra ms) v := by
    intro i
    rw [← hkeys.undeclared_eq]
    exact Spec.implements_dict (Kind.alike_owner _) h
  unfold Registry.formMeaning
  cases hform with
  | plain i j label hplain =>
    simp only [hplain, Bool.false_eq_true, if_false]
    exact (hdict j).decorated label
  | grouped i j k l label hgrouped =>
    simp only [hgrouped, if_true]
    refine Spec.Implements.decorated (Spec.implements_allOf (.cons (hdict k) fun w _ => ?_)) label
    exact .cons (Spec.implements_consistency (Kind.alike_owner _)) fun w _ => .nil w

theorem Registry.recordMeaning_eq {a : Applied} {fields : List Field} (halone : r.Alone a)
    (hfields : r.fieldsOf a = .ok fields) (refs : Target → Meaning) :
    r.recordMeaning id refs a = formMeaning r.config fields (fieldMeanings id refs fields) := by
  unfold recordMeaning
  rw [show (r.start false a []).1 = .ok () from halone, hfields]

/-- The lazy references that the table knows do what is meant by their targets, for values less than
`n` deep. Whether they may have no answer is what `stuck` says. -/
def LazyImplements (stuck : Prop) (id : Nat) (r : Registry) (F : Target → Prop) (cells : List Target)
    (I : Session → Prop) (d : Delegate) (n : Nat) : Prop :=
  ∀ b i reference w, cells[reference.cell]? = some reference.target → reference.target.IsOf id →
    F reference.target → w.depth < n → w.depth < b →
      Spec.Implements stuck I d Problem.report (.deferred i reference)
        (r.refs id b reference.target) w

mutual

/-- Derived specs do what their kinds mean if the lazy references in them do. -/
theorem Stands.implements (hS : Settled id r Q F)
    (hlazy : LazyImplements stuck id r F cells I d n) :
    ∀ {k : Kind} {s : Spec}, Stands id r Q cells k s → (∀ target ∈ k.targets id, F target) →
      ∀ (b : Nat) (v : Value), v.depth < n → v.depth < b →
        Spec.Implements stuck I d Problem.report s (k.meaning id (r.refs id b)) v
  | _, _, .leaf i k, _, b, v, _, _ => by
    unfold Kind.meaning
    exact Spec.implements_isInstance (Kind.alike_owner _)
  | _, _, .nothing i, _, b, v, _, _ => by
    unfold Kind.meaning
    exact Spec.implements_isInstance (Kind.alike_owner _)
  | _, _, .record h, hF, 0, v, _, hb => absurd hb (Nat.not_lt_zero _)
  | _, _, .record h, hF, b + 1, v, hn, hb =>
    h.implements hS hlazy (hF _ List.mem_cons_self) b v (Nat.le_of_lt hn) (Nat.le_of_lt_succ hb)
  | _, _, .lazyRecord i _ hcell, hF, b, v, hn, hb =>
    hlazy b i _ v hcell rfl (hF _ List.mem_cons_self) hn hb
  | _, _, .forward i _ hcell, hF, b, v, hn, hb =>
    hlazy b i _ v hcell rfl (hF _ List.mem_cons_self) hn hb
  | _, _, .list i h, hF, b, v, hn, hb => by
    unfold Kind.meaning
    refine Spec.implements_collOf (Kind.alike_owner _) fun items hitems w hw => ?_
    have hdepth := Value.depth_lt_of_mem_items hitems hw
    exact h.implements hS hlazy hF b w (Nat.lt_trans hdepth hn) (Nat.lt_trans hdepth hb)
  | _, _, .union i h, hF, b, v, hn, hb => by
    unfold Kind.meaning
    exact Spec.implements_oneOf (h.implements hS hlazy hF b v hn hb)
  | _, _, .placeholder i p, _, b, v, _, _ => by
    unfold Kind.meaning
    exact Spec.implements_unbound

theorem StandAll.implements (hS : Settled id r Q F)
    (hlazy : LazyImplements stuck id r F cells I d n) :
    ∀ {ks : List Kind} {ss : List Spec}, StandAll id r Q cells ks ss →
      (∀ target ∈ Kind.targetsOfAll id ks, F target) →
      ∀ (b : Nat) (v : Value), v.depth < n → v.depth < b →
        List.Forall₂ (fun s m => Spec.Implements stuck I d Problem.report s m v) ss
          (Kind.meanings id (r.refs id b) ks)
  | _, _, .nil, _, _, _, _, _ => .nil
  | _, _, .cons h hs, hF, b, v, hn, hb =>
    .cons (h.implements hS hlazy (fun target hmem => hF target (List.mem_append_left _ hmem)) b v hn hb)
      (hs.implements hS hlazy (fun target hmem => hF target (List.mem_append_right _ hmem)) b v hn hb)

theorem StandFields.implements (hS : Settled id r Q F)
    (hlazy : LazyImplements stuck id r F cells I d n) :
    ∀ {fields : List Field} {keys : List (String × Spec)}, StandFields id r Q cells fields keys →
      (∀ f ∈ fields, ∀ target ∈ f.kind.targets id, F target) →
      ∀ (b : Nat) (v : Value), v.depth ≤ n → v.depth ≤ b →
        List.Forall₂ (Spec.KeyImplements stuck I d Problem.report v) keys
          (Registry.fieldMeanings id (r.refs id b) fields)
  | _, _, .nil, _, _, _, _, _ => .nil
  | _, _, .cons h hs, hF, b, v, hn, hb =>
    .cons ⟨rfl, fun w hw =>
        h.implements hS hlazy (hF _ List.mem_cons_self) b w
          (Nat.lt_of_lt_of_le (Value.depth_lt_of_get? hw) hn)
          (Nat.lt_of_lt_of_le (Value.depth_lt_of_get? hw) hb)⟩
      (hs.implements hS hlazy (fun f hf => hF f (List.mem_cons_of_mem _ hf)) b v hn hb)

theorem StandsRecord.implements (hS : Settled id r Q F)
    (hlazy : LazyImplements stuck id r F cells I d n) :
    ∀ {a : Applied} {s : Spec}, StandsRecord id r Q cells a s → F (.shape id a.1 a.2) →
      ∀ (b : Nat) (v : Value), v.depth ≤ n → v.depth ≤ b →
        Spec.Implements stuck I d Problem.report s (r.recordMeaning id (r.refs id b) a) v
  | a, _, .mk hq hfields hkeys hform, hF, b, v, hn, hb => by
    rw [Registry.recordMeaning_eq (hS.alone a hF hq) hfields]
    exact implements_form hform hkeys
      (hkeys.implements hS hlazy (hS.fields hF hfields) b v hn hb)

end

theorem Answers.implements (hS : Settled id r Q F)
    (hlazy : LazyImplements stuck id r F cells I d n) {target : Target} {s : Spec}
    (h : Answers id r Q cells target s) (hF : F target) (b : Nat)
    (v : Value) (hn : v.depth ≤ n) (hb : v.depth ≤ b) :
    Spec.Implements stuck I d Problem.report s (r.refs id (b + 1) target) v := by
  cases h with
  | shape h => exact h.implements hS hlazy hF b v hn hb
  | forward hname h =>
    unfold Registry.refs
    rw [if_pos hname]
    exact h.implements hS hlazy (hS.forward hF hname) b v hn hb
  | builtin i hq hkind =>
    unfold Registry.refs
    rw [if_neg (by rw [hS.notBuiltin _ _ hq]; exact Bool.false_ne_true), hkind]
    exact Spec.implements_isInstance (Kind.alike_owner _)

theorem Registry.recordMeaning_of_error {a : Applied} {e : SpecError}
    (h : (r.start false a []).1 = .error e) (refs : Target → Meaning) :
    r.recordMeaning id refs a = .unresolved Kind.owner e := by
  unfold recordMeaning
  rw [h]

theorem Registry.refs_of_error {target : Target} {e : SpecError}
    (h : (r.seek false target []).1 = .error e) (b : Nat) :
    r.refs id (b + 1) target = .unresolved Kind.owner e := by
  cases target with
  | shape registry name args => exact recordMeaning_of_error h _
  | bound name =>
    cases h
    rfl
  | forward registry name args =>
    unfold refs
    simp only [seek] at h
    by_cases hname : r.contains name = true
    · rw [if_pos hname] at h ⊢
      exact recordMeaning_of_error h _
    · rw [if_neg hname] at h ⊢
      cases hkind : r.builtin? name args with
      | some k =>
        rw [hkind] at h
        cases h
      | none =>
        rw [hkind] at h
        cases h
        rfl

/-- A lazy reference does what its target means, if whatever is found behind it does. -/
theorem implements_behind (hS : Settled id r Q F) (hd : d.resolve = Session.resolveInCheck)
    {i : Instance} {reference : Reference} {b : Nat} {v : Value}
    (hcell : cells[reference.cell]? = some reference.target) (htarget : reference.target.IsOf id)
    (hF : F reference.target)
    (hwalk : ∀ {cells' spec}, Answers id r Q cells' reference.target spec →
      Check.Ensures stuck (Session.SoundOver id r Q cells') (d.conform spec v)
        (· = (r.refs id (b + 1) reference.target).conform v) ∧
      ∀ path, Check.Ensures stuck (Session.SoundOver id r Q cells') (d.explain spec path v) fun ps =>
        ps.map Problem.report =
          ((r.refs id (b + 1) reference.target).explain path v).map Problem.report) :
    Spec.Implements stuck (Session.SoundOver id r Q cells) d Problem.report (.deferred i reference)
      (r.refs id (b + 1) reference.target) v := by
  have hmissing : ∀ {more : List Target} {s : Session} {e : SpecError},
      Session.Sound id r Q more s →
      (r.seek r.config.memoize reference.target (s.kept id)).1 = .error e →
      r.refs id (b + 1) reference.target = .unresolved Kind.owner e := by
    intro more s e hsound he
    refine Registry.refs_of_error ?_ b
    rw [← hS.seek_eq _ _ hF htarget fun _ ha => hsound.kept ha]
    exact he
  constructor
  · rintro s ⟨more, hmore, hsound⟩
    rw [Spec.conformWith_resolve hd]
    rcases hS.toClosed.look hsound (cell_mono hmore hcell) htarget with
      ⟨spec, t, cells', hrun, hcells, hsound', hanswers⟩ | ⟨e, t, cells', hrun, hcells, hsound', he⟩
    · rw [hrun]
      exact (hwalk hanswers).1.widen (hmore.trans hcells) (List.prefix_refl _) hsound'
    · rw [hrun, hmissing hsound he]
      exact ⟨rfl, _, hmore.trans hcells, hsound'⟩
  · rintro path s ⟨more, hmore, hsound⟩
    rw [Spec.explainWith_resolve hd]
    rcases hS.toClosed.look hsound (cell_mono hmore hcell) htarget with
      ⟨spec, t, cells', hrun, hcells, hsound', hanswers⟩ | ⟨e, t, cells', hrun, hcells, hsound', he⟩
    · rw [hrun]
      exact ((hwalk hanswers).2 path).widen (hmore.trans hcells) (List.prefix_refl _) hsound'
    · rw [hrun, hmissing hsound he]
      exact ⟨rfl, _, hmore.trans hcells, hsound'⟩

/-- So many references may be gone through as values are deep, or else a walk may be stuck. -/
theorem deferred_implements (hS : Settled id r Q F) {n m : Nat} (hm : n ≤ m ∨ stuck)
    (cells : List Target) :
    LazyImplements stuck id r F cells (Session.SoundOver id r Q cells) (.within m) n := by
  induction m generalizing n cells with
  | zero =>
    intro b i reference v hcell htarget hF hn hb
    obtain ⟨b, rfl⟩ : ∃ c, b = c + 1 := ⟨b - 1, by omega⟩
    have hstuck : stuck := hm.resolve_left (by omega)
    refine implements_behind hS rfl hcell htarget hF fun _ => ⟨?_, fun path => ?_⟩
    · exact Check.Ensures.of_none hstuck fun _ => rfl
    · exact Check.Ensures.of_none hstuck fun _ => rfl
  | succ m ih =>
    intro b i reference v hcell htarget hF hn hb
    obtain ⟨b, rfl⟩ : ∃ c, b = c + 1 := ⟨b - 1, by omega⟩
    have hdepth : v.depth ≤ m ∨ stuck := hm.imp_left fun hm => by omega
    refine implements_behind hS rfl hcell htarget hF fun hanswers => ?_
    have hwalk := hanswers.implements hS (ih hdepth _) hF b v (Nat.le_refl _) (Nat.le_of_lt_succ hb)
    exact ⟨hwalk.conform, hwalk.explain⟩

/-- Where references are settled, the walks of a derived spec do what its kind means. -/
theorem Stands.implements_meaning (hS : Settled id r Q F) {k : Kind} {s : Spec}
    (h : Stands id r Q cells k s) (hF : ∀ target ∈ k.targets id, F target) {v : Value} {b n : Nat}
    (hn : v.depth < n) (hb : v.depth < b) :
    Spec.Implements False (Session.SoundOver id r Q cells) (.within n) Problem.report s
      (k.meaning id (r.refs id b)) v :=
  h.implements hS (deferred_implements hS (.inl (Nat.le_refl n)) cells) hF b v hn hb

end

end Conform
