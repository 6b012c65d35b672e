import Conform.Proofs.Session.Lookup
import Conform.Proofs.Session.Steps
/-!
Derivations come to an end, and at the end have made what `derive` and `specFor` make. The steps that
bound the recursion of those are never used up: as many are left as there are registered shapes that do
not stand on the stack, or in the lineage.
-/

namespace Conform

namespace Session

namespace Moment

/-! ## Runs -/

/-- Some steps lead from the one moment to the other. -/
def Reaches (id : Nat) (r : Registry) (m m' : Moment) : Prop := ∃ n, m.after id r n = m'

section
variable {id : Nat} {r : Registry} {m m' m'' : Moment}

theorem Reaches.refl (m : Moment) : m.Reaches id r m := ⟨0, rfl⟩

theorem Reaches.trans (h : m.Reaches id r m') (h' : m'.Reaches id r m'') : m.Reaches id r m'' := by
  obtain ⟨n, rfl⟩ := h
  obtain ⟨n', rfl⟩ := h'
  exact ⟨n' + n, Function.iterate_add_apply _ _ _ _⟩

theorem Reaches.of_step (h : m.step id r = m') : m.Reaches id r m' := ⟨1, h⟩

theorem Reaches.head (hstep : m.step id r = m') (h : m'.Reaches id r m'') : m.Reaches id r m'' :=
  (Reaches.of_step hstep).trans h

end

/-- The moment at which steps that make a spec are done, outside of all lineages. -/
def settled (s : Session) (stack : List String) (frames : List Frame) (x : Build Spec) : Moment :=
  ⟨(x.run s).2, stack, [], frames, .spec (x.run s).1⟩

section
variable {id : Nat} {r : Registry} {stack stack' : List String} {task : Task} {x : Build Spec}

/-- The task ends as the steps `x` do, whatever is left to do after it. -/
def Computes (id : Nat) (r : Registry) (stack : List String) (task : Task) (x : Build Spec) : Prop :=
  ∀ s frames, Reaches id r ⟨s, stack, [], frames, task⟩ (settled s stack frames x)

/-- Below a frame the spec of the task is gone on with, and an error passes through. -/
theorem Computes.below (hx : Computes id r stack task x) {frame : Frame} {k : Spec → Build Spec}
    (hok : ∀ spec s frames, Reaches id r ⟨s, stack, [], frame :: frames, .spec (.ok spec)⟩
      (settled s stack' frames (k spec)))
    (herror : ∀ e s frames, step id r ⟨s, stack, [], frame :: frames, .spec (.error e)⟩ =
      ⟨s, stack', [], frames, .spec (.error e)⟩) (s : Session) (frames : List Frame) :
    Reaches id r ⟨s, stack, [], frame :: frames, task⟩ (settled s stack' frames (x >>= k)) := by
  refine (hx s (frame :: frames)).trans ?_
  unfold settled
  rw [Build.run_bind]
  rcases x.run s with ⟨e | spec, t⟩
  · exact .of_step (herror e t frames)
  · exact hok spec t frames

/-! ## Kinds and fields -/

section
variable {deriveRecord : String → List Kind → Build Spec}

mutual

theorem computes_kind
    (hrecord : ∀ name args, Computes id r stack (.shape name args) (deriveRecord name args)) :
    ∀ k : Kind, Computes id r stack (.kind k) (deriveKind id deriveRecord k)
  | .leaf _ | .nothing | .forward _ _ | .placeholder _ => by
    intro s frames
    unfold deriveKind
    exact .of_step rfl
  | .record name args => by
    intro s frames
    unfold deriveKind
    exact .head rfl (hrecord name args s frames)
  | .list item => by
    intro s frames
    unfold deriveKind
    refine .head rfl ((computes_kind hrecord item).below (fun spec t frames => ?_) (fun _ _ _ => rfl) s
      frames)
    exact .of_step rfl
  | .union ks => by
    intro s frames
    unfold deriveKind
    exact .head rfl (computes_alternatives hrecord ks [] s frames)

theorem computes_alternatives
    (hrecord : ∀ name args, Computes id r stack (.shape name args) (deriveRecord name args)) :
    ∀ (ks : List Kind) (done : List Spec), Computes id r stack (.alternatives done ks) do
      let specs ← deriveKinds id deriveRecord ks
      return .oneOf (← newInstance) (done ++ specs)
  | [], done => by
    intro s frames
    unfold deriveKinds
    rw [pure_bind, List.append_nil]
    exact .of_step rfl
  | k :: ks, done => by
    intro s frames
    unfold deriveKinds
    simp only [bind_assoc, pure_bind]
    refine .head rfl ((computes_kind hrecord k).below (fun spec t frames => ?_) (fun _ _ _ => rfl) s
      frames)
    have hrest := computes_alternatives hrecord ks (done ++ [spec]) t frames
    simp only [List.append_assoc, List.singleton_append] at hrest
    exact .head rfl hrest

end

/-- What is left of a record once the specs of its fields are there. -/
def finishRecord (id : Nat) (r : Registry) (record : Applied) (fields : List Field)
    (keys : List (String × Spec)) : Build Spec := do
  let spec ← recordSpec r.config (Kind.record record.1 record.2).shown (placeholderGroups fields) keys
  if r.config.memoize then memoize ⟨id, record.1, record.2⟩ spec else return spec

/-- The keys of a record are made inside of it, and then the record leaves the stack. -/
theorem reaches_keys {name : String}
    (hrecord : ∀ name' args, Computes id r (name :: stack) (.shape name' args)
      (deriveRecord name' args))
    (record : Applied) (fields : List Field) (rest : List Field) (done : List (String × Spec))
    (s : Session) (frames : List Frame) :
    Reaches id r ⟨s, name :: stack, [], frames, .keys record fields done rest⟩
      (settled s stack frames do
        let keys ← deriveFields id deriveRecord rest
        finishRecord id r record fields (done ++ keys)) := by
  induction rest generalizing done s frames with
  | nil =>
    unfold deriveFields
    rw [pure_bind, List.append_nil]
    exact .of_step rfl
  | cons f rest ih =>
    unfold deriveFields
    simp only [bind_assoc, pure_bind]
    refine .head rfl ((computes_kind hrecord f.kind).below (fun spec t frames => ?_)
      (fun _ _ _ => rfl) s frames)
    have hrest := ih (done ++ [(f.name, spec)]) t frames
    simp only [List.append_assoc, List.singleton_append] at hrest
    exact .head rfl hrest

end

end

/-! ## Gathering fields -/

section
variable {id : Nat} {r : Registry} {s : Session} {stack lineage : List String}

/-- The task ends with the fields, or the error. If there are fields the lineage is left as told. -/
def Gathers (id : Nat) (r : Registry) (s : Session) (stack lineage lineage' : List String)
    (task : Task) (gathered : Except SpecError (List Field)) : Prop :=
  ∀ frames, ∃ left, (∀ fields, gathered = .ok fields → left = lineage') ∧
    Reaches id r ⟨s, stack, lineage, frames, task⟩ ⟨s, stack, left, frames, .fields gathered⟩

theorem inheritAll_cons (fieldsOf : Shape → Bindings → Except SpecError (List Field))
    (bindings : Bindings) (fields : List Field) (parent : Parent) (rest : List Parent) :
    r.inheritAll fieldsOf bindings fields (parent :: rest) = (do
      let shape ← r.applied (parent.shape, parent.args)
      let inherited ← fieldsOf shape
        (Registry.bind shape.params (parent.args.map (Kind.substitute bindings)))
      r.inheritAll fieldsOf bindings (Registry.inherit fields inherited) rest) := by
  unfold Registry.applied
  conv => lhs; unfold Registry.inheritAll
  cases r.lookup parent.shape with
  | error e => rfl
  | ok shape =>
    change (Registry.checkArity shape parent.args.length >>= _) =
      (Registry.checkArity shape parent.args.length >>= fun _ => Except.ok shape) >>= _
    cases Registry.checkArity shape parent.args.length <;> rfl

/-- Parents hand down their fields in turn, and then the shape declares its own. -/
theorem gathers_inherit {name : String} {fieldsOf : Shape → Bindings → Except SpecError (List Field)}
    (hparent : ∀ found bindings, found.name ∈ r.shapes.map (·.name) →
      Gathers id r s stack (name :: lineage) (name :: lineage) (.collect found bindings)
        (fieldsOf found bindings))
    (shape : Shape) (bindings : Bindings) (parents : List Parent) (fields : List Field) :
    Gathers id r s stack (name :: lineage) lineage (.inherit shape bindings fields parents) (do
      let inherited ← r.inheritAll fieldsOf bindings fields parents
      return Registry.declareOwn bindings inherited shape.fields) := by
  intro frames
  induction parents generalizing fields with
  | nil => exact ⟨lineage, fun _ _ => rfl, .of_step rfl⟩
  | cons parent rest ih =>
    rw [inheritAll_cons]
    cases happlied : r.applied (parent.shape, parent.args) with
    | error e =>
      have hstep : step id r ⟨s, stack, name :: lineage, frames,
          .inherit shape bindings fields (parent :: rest)⟩ =
          ⟨s, stack, name :: lineage, frames, .fields (.error e)⟩ := by
        simp only [step, atInherit, happlied]
      exact ⟨name :: lineage, fun _ h => (by cases h), .of_step hstep⟩
    | ok found =>
      let bindings' := Registry.bind found.params (parent.args.map (Kind.substitute bindings))
      have hstep : step id r ⟨s, stack, name :: lineage, frames,
          .inherit shape bindings fields (parent :: rest)⟩ =
          ⟨s, stack, name :: lineage, .parent shape bindings fields rest :: frames,
            .collect found bindings'⟩ := by
        simp only [step, atInherit, happlied, bindings']
      obtain ⟨left, hleft, hreaches⟩ := hparent found bindings' (Registry.name_mem_of_applied happlied)
        (.parent shape bindings fields rest :: frames)
      change ∃ left, (∀ all, (fieldsOf found bindings' >>= fun inherited =>
          r.inheritAll fieldsOf bindings (Registry.inherit fields inherited) rest) >>= _ = .ok all →
            left = lineage) ∧
        Reaches id r _ ⟨s, stack, left, frames, .fields ((fieldsOf found bindings' >>= fun inherited =>
          r.inheritAll fieldsOf bindings (Registry.inherit fields inherited) rest) >>= _)⟩
      cases hgathered : fieldsOf found bindings' with
      | error e =>
        rw [hgathered] at hreaches
        refine ⟨left, fun _ h => (by cases h), .head hstep (hreaches.trans (.of_step rfl))⟩
      | ok inherited =>
        rw [hgathered, hleft _ hgathered] at hreaches
        obtain ⟨left', hleft', hrest⟩ := ih (Registry.inherit fields inherited)
        exact ⟨left', hleft', .head hstep (hreaches.trans (.head rfl hrest))⟩

/-- The names that are registered and not in the lineage are at least as many as the steps that are
left, so a lineage is cut off by the name that comes back and never by the steps. -/
theorem gathers_collect {steps : Nat} (hlineage : r.Stacked lineage)
    (hsteps : steps + lineage.length = r.shapes.length) {shape : Shape}
    (hshape : shape.name ∈ r.shapes.map (·.name)) (bindings : Bindings) :
    Gathers id r s stack lineage lineage (.collect shape bindings)
      (r.collectFields steps lineage shape bindings) := by
  induction steps generalizing lineage shape bindings with
  | zero =>
    have hmem : shape.name ∈ lineage := by
      by_contra hnew
      have hlt := hlineage.length_lt hshape hnew
      omega
    intro frames
    refine ⟨lineage, fun _ h => (by cases h), .of_step ?_⟩
    simp [step, atCollect, Registry.collectFields, hmem]
  | succ steps ih =>
    unfold Registry.collectFields
    intro frames
    by_cases hmem : shape.name ∈ lineage
    · refine ⟨lineage, fun _ _ => rfl, .of_step ?_⟩
      simp [step, atCollect, hmem]
    · have hparent : ∀ found bindings', found.name ∈ r.shapes.map (·.name) →
          Gathers id r s stack (shape.name :: lineage) (shape.name :: lineage)
            (.collect found bindings')
            (r.collectFields steps (shape.name :: lineage) found bindings') :=
        fun found bindings' hfound =>
          ih (hlineage.push hshape hmem) (by rw [List.length_cons]; omega) hfound bindings'
      obtain ⟨left, hleft, hreaches⟩ := gathers_inherit hparent shape bindings shape.parents [] frames
      have hstep : step id r ⟨s, stack, lineage, frames, .collect shape bindings⟩ =
          ⟨s, stack, shape.name :: lineage, frames, .inherit shape bindings [] shape.parents⟩ := by
        simp [step, atCollect, hmem]
      have hcontains : lineage.contains shape.name = false := by simpa using hmem
      rw [hcontains, if_neg Bool.false_ne_true]
      exact ⟨left, hleft, .head hstep hreaches⟩

end

/-! ## Shapes -/

section
variable {id : Nat} {r : Registry} {stack : List String}

/-- A shape that is neither kept nor on the stack is gone into. -/
theorem computes_shape_of {name : String} {args : List Kind} {build : Shape → Build Spec}
    (hbuild : ∀ shape, name ∉ stack → r.applied (name, args) = .ok shape → ∀ s frames,
      Reaches id r
        ⟨s, name :: stack, [], .record (name, args) :: frames,
          .collect shape (Registry.bind shape.params args)⟩
        (settled s stack frames (build shape))) :
    Computes id r stack (.shape name args) (do
      let s ← get
      match if r.config.memoize then s.memo.lookup ⟨id, name, args⟩ else none with
      | some kept => return kept
      | none =>
        if stack.contains name then
          refer (Kind.record name args).shown (.shape id name args)
        else
          let shape ← r.lookup name
          Registry.checkArity shape args.length
          build shape) := by
  intro s frames
  unfold settled
  rw [Build.run_bind, Build.run_get]
  simp only
  cases hkept : if r.config.memoize = true then s.memo.lookup ⟨id, name, args⟩ else none with
  | some kept =>
    refine .of_step ?_
    simp only [step, atShape, hkept]
    rfl
  | none =>
    by_cases hmem : name ∈ stack
    · have hcontains : stack.contains name = true := by simpa using hmem
      rw [hcontains, if_pos rfl]
      refine .of_step ?_
      simp only [step, atShape, hkept, hcontains]
      rfl
    · have hcontains : stack.contains name = false := by simpa using hmem
      rw [hcontains, if_neg Bool.false_ne_true, bind_applied]
      cases happlied : r.applied (name, args) with
      | error e =>
        refine .of_step ?_
        simp only [step, atShape, hkept, hcontains, happlied]
        rfl
      | ok shape =>
        refine .head ?_ (hbuild shape hmem happlied s frames)
        simp only [step, atShape, hkept, hcontains, happlied]
        rfl

/-- The names that are registered and not on the stack are at least as many as the steps that are left,
so a shape is referred to lazily because it is on the stack and never for want of steps. -/
theorem computes_shape {steps : Nat} (hstack : r.Stacked stack)
    (hsteps : steps + stack.length = r.shapes.length) (name : String) (args : List Kind) :
    Computes id r stack (.shape name args) (deriveShape id r steps stack name args) := by
  induction steps generalizing stack name args with
  | zero =>
    unfold deriveShape
    refine computes_shape_of fun shape hnew happlied => ?_
    have hlt := (hstack.cons hnew happlied).length_le
    rw [List.length_cons] at hlt
    omega
  | succ steps ih =>
    unfold deriveShape
    refine computes_shape_of fun shape hnew happlied s frames => ?_
    let bindings := Registry.bind shape.params args
    have hrecord : ∀ name' args', Computes id r (name :: stack) (.shape name' args')
        (deriveShape id r steps (name :: stack) name' args') :=
      ih (hstack.cons hnew happlied) (by rw [List.length_cons]; omega)
    obtain ⟨left, _, hgather⟩ : ∃ left, (∀ fields, r.effectiveFields shape bindings = .ok fields →
          left = []) ∧
        Reaches id r
          ⟨s, name :: stack, [], .record (name, args) :: frames, .collect shape bindings⟩
          ⟨s, name :: stack, left, .record (name, args) :: frames,
            .fields (r.effectiveFields shape bindings)⟩ :=
      gathers_collect (Registry.stacked_nil r) rfl (Registry.name_mem_of_applied happlied) bindings _
    refine hgather.trans ?_
    cases r.effectiveFields shape bindings with
    | error e => exact .of_step rfl
    | ok fields => exact .head rfl (reaches_keys hrecord (name, args) fields fields [] s frames)

end

/-! ## Derivations -/

/-- A derivation begins with a task, inside of nothing. -/
def start (s : Session) (task : Task) : Moment := ⟨s, [], [], [], task⟩

section
variable {id : Nat} {r : Registry} {m : Moment} {s : Session} {task : Task} {x : Build Spec}

theorem after_settled (x : Build Spec) (n : Nat) :
    (settled s [] [] x).after id r n = settled s [] [] x := by
  induction n with
  | zero => rfl
  | succ n ih => exact ih

/-- After some steps a derivation is over and stays so, with what `x` makes. At every moment there are
registered names on the stack and in the lineage, none twice and so no more than there are shapes. -/
structure Finishes (id : Nat) (r : Registry) (s : Session) (task : Task) (x : Build Spec) : Prop where
  ends : ∃ n, ∀ i, n ≤ i → (start s task).after id r i = settled s [] [] x
  stack : ∀ i, r.Stacked ((start s task).after id r i).stack
  lineage : ∀ i, r.Stacked ((start s task).after id r i).lineage
  stack_length : ∀ i, ((start s task).after id r i).stack.length ≤ r.shapes.length
  lineage_length : ∀ i, ((start s task).after id r i).lineage.length ≤ r.shapes.length

theorem Computes.finishes (hx : Computes id r [] task x) (htask : task.Known r) :
    Finishes id r s task x := by
  have hproper : ∀ i, ((start s task).after id r i).Proper r := fun i =>
    Proper.after ⟨Registry.stacked_nil r, Registry.stacked_nil r, htask⟩ i
  refine ⟨?_, fun i => (hproper i).stack, fun i => (hproper i).lineage,
    fun i => (hproper i).stack.length_le, fun i => (hproper i).lineage.length_le⟩
  obtain ⟨n, hn⟩ := hx s []
  refine ⟨n, fun i hi => ?_⟩
  obtain ⟨j, rfl⟩ := Nat.exists_eq_add_of_le' hi
  have hsplit : (start s task).after id r (j + n) = ((start s task).after id r n).after id r j :=
    Function.iterate_add_apply _ _ _ _
  rw [hsplit, show (start s task).after id r n = settled s [] [] x from hn, after_settled]

end

end Moment

open Moment (Finishes)

/-- Whatever is registered, kept and asked for, a derivation comes to an end, and is inside of no shape
twice on the way. -/
theorem derivation_finishes {id : Nat} {r : Registry} {s : Session} (hr : s.registryAt? id = some r)
    (halive : s.isAlive id = true) :
    (∀ name args, Finishes id r s (.shape name args) (derive id name args)) ∧
      ∀ k, Finishes id r s (.kind k) (specFor id k) := by
  have hlive : ∀ {task} {f : Registry → Build Spec}, Finishes id r s task (f r) →
      Finishes id r s task (liveRegistry id >>= f) := by
    intro task f h
    have hrun : (liveRegistry id >>= f).run s = (f r).run s := by
      rw [Build.run_bind, run_liveRegistry hr halive]
    have hends := h.ends
    unfold Moment.settled at hends
    rw [← hrun] at hends
    exact ⟨hends, h.stack, h.lineage, h.stack_length, h.lineage_length⟩
  have hshape : ∀ name args, Moment.Computes id r [] (.shape name args)
      (deriveShape id r r.shapes.length [] name args) :=
    Moment.computes_shape (Registry.stacked_nil r) rfl
  constructor
  · intro name args
    exact hlive ((hshape name args).finishes trivial)
  · intro k
    exact hlive ((Moment.computes_kind hshape k).finishes trivial)

end Session

/-- Shapes whose arguments grow each time they are mentioned, and shapes that inherit from each other. -/
def Registry.endless : Registry :=
  ⟨"shapes", .default,
    [⟨"Tree", ["T"], [⟨"value", .placeholder "T"⟩,
        ⟨"below", .record "Tree" [.list (.placeholder "T")]⟩], []⟩,
      ⟨"Hen", [], [⟨"egg", .record "Egg" []⟩], [⟨"Egg", []⟩]⟩,
      ⟨"Egg", [], [⟨"hen", .record "Hen" []⟩, ⟨"lost", .record "Nest" []⟩], [⟨"Hen", []⟩]⟩]⟩

open Session Session.Moment in
theorem Session.derivation_finishes_endless :
    let s : Session := ⟨[], [("shapes", 0)], [.endless], [], [], 0, 0⟩
    s.registryAt? 0 = some .endless ∧ s.isAlive 0 = true ∧
      (∀ name args, Finishes 0 .endless s (.shape name args) (derive 0 name args)) ∧
      ∀ k, Finishes 0 .endless s (.kind k) (specFor 0 k) :=
  ⟨rfl, rfl, derivation_finishes rfl rfl⟩

end Conform
