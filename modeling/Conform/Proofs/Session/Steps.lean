import Conform.Proofs.Registry.Left
import Conform.Proofs.Session.Follows
import Mathlib.Logic.Function.Iterate
/-!
Derivations step by step. At every moment a derivation has a task, a stack of the shapes that it is
inside of, the lineage of the shape whose fields it gathers, and frames for what is left to do after the
task. A name goes on the stack or into a lineage only if it is registered and not there yet, so both
hold different names throughout, whatever the kinds are that substitution makes.
-/

namespace Conform

namespace Session

/-! ## Moments of a derivation -/

inductive Task where
  | shape (name : String) (args : List Kind)
  | kind (k : Kind)
  /-- The alternatives of a union that are left, behind the specs of those before. -/
  | alternatives (done : List Spec) (rest : List Kind)
  /-- The fields of a shape and its ancestors. -/
  | collect (shape : Shape) (bindings : Bindings)
  /-- The parents that are left, behind the fields that those before handed down. -/
  | inherit (shape : Shape) (bindings : Bindings) (fields : List Field) (rest : List Parent)
  /-- The fields of a record that are left, behind the keys of those before. -/
  | keys (record : Applied) (fields : List Field) (done : List (String × Spec)) (rest : List Field)
  /-- Fields were gathered, or could not be. -/
  | fields (gathered : Except SpecError (List Field))
  /-- A spec was made, or could not be. -/
  | spec (made : Except SpecError Spec)

/-- If the task is to gather fields, the shape is registered. -/
def Task.Known (r : Registry) : Task → Prop
  | .collect gathered _ => gathered.name ∈ r.shapes.map (·.name)
  | _ => True

/-- What is left to do once a task has an answer. -/
inductive Frame where
  | parent (shape : Shape) (bindings : Bindings) (fields : List Field) (rest : List Parent)
  | record (record : Applied)
  | key (record : Applied) (fields : List Field) (done : List (String × Spec)) (name : String)
    (rest : List Field)
  | item
  | alternative (done : List Spec) (rest : List Kind)

structure Moment where
  session : Session
  /-- The shapes that are being derived, the innermost first. -/
  stack : List String
  /-- The shapes whose fields are being gathered, from a descendant up. -/
  lineage : List String
  frames : List Frame
  task : Task

namespace Moment

/-- The moment at which the steps that make a spec are done. -/
def answer (m : Moment) (x : Build Spec) : Moment :=
  { m with session := (x.run m.session).2, task := .spec (x.run m.session).1 }

section
variable (id : Nat) (r : Registry) (m : Moment)

def atShape (name : String) (args : List Kind) : Moment :=
  match if r.config.memoize then m.session.memo.lookup ⟨id, name, args⟩ else none with
  | some kept => { m with task := .spec (.ok kept) }
  | none =>
    if m.stack.contains name then
      m.answer (refer (Kind.record name args).shown (.shape id name args))
    else
      match r.applied (name, args) with
      | .error e => { m with task := .spec (.error e) }
      | .ok shape =>
        { m with
          stack := name :: m.stack
          frames := .record (name, args) :: m.frames
          task := .collect shape (Registry.bind shape.params args) }

def atKind : Kind → Moment
  | .leaf k => m.answer do return .isInstance (← newInstance) k
  | .nothing => m.answer do return .isInstance (← newInstance) .null
  | .record name args => { m with task := .shape name args }
  | .forward name args =>
    m.answer (refer (Kind.forward name args).shown (.forward id name args))
  | .list item => { m with frames := .item :: m.frames, task := .kind item }
  | .union ks => { m with task := .alternatives [] ks }
  | .placeholder p => m.answer do return .unbound (← newInstance) p

/-- A lineage that comes back to a name is an error; else the name joins it. -/
def atCollect (shape : Shape) (bindings : Bindings) : Moment :=
  if m.lineage.contains shape.name then
    { m with task := .fields (.error (.cyclicInheritance shape.name)) }
  else
    { m with
      lineage := shape.name :: m.lineage
      task := .inherit shape bindings [] shape.parents }

def atInherit (shape : Shape) (bindings : Bindings) (fields : List Field) : List Parent → Moment
  | [] =>
    { m with
      lineage := m.lineage.tail
      task := .fields (.ok (Registry.declareOwn bindings fields shape.fields)) }
  | parent :: rest =>
    match r.applied (parent.shape, parent.args) with
    | .error e => { m with task := .fields (.error e) }
    | .ok found =>
      { m with
        frames := .parent shape bindings fields rest :: m.frames
        task := .collect found
          (Registry.bind found.params (parent.args.map (Kind.substitute bindings))) }

/-- Once all keys are made the record leaves the stack. -/
def atKeys (record : Applied) (fields : List Field) (done : List (String × Spec)) :
    List Field → Moment
  | [] => answer { m with stack := m.stack.tail } do
    let spec ← recordSpec r.config (Kind.record record.1 record.2).shown (placeholderGroups fields) done
    if r.config.memoize then memoize ⟨id, record.1, record.2⟩ spec else return spec
  | f :: rest =>
    { m with frames := .key record fields done f.name rest :: m.frames, task := .kind f.kind }

def atFields (gathered : Except SpecError (List Field)) : Moment :=
  match m.frames, gathered with
  | .parent shape bindings fields rest :: frames, .ok inherited =>
    { m with
      frames := frames
      task := .inherit shape bindings (Registry.inherit fields inherited) rest }
  | .parent .. :: frames, .error e => { m with frames := frames, task := .fields (.error e) }
  | .record record :: frames, .ok fields =>
    { m with lineage := [], frames := frames, task := .keys record fields [] fields }
  | .record _ :: frames, .error e =>
    { m with stack := m.stack.tail, lineage := [], frames := frames, task := .spec (.error e) }
  | _, _ => m

/-- An error ends everything that waits for the spec; a record that does leaves the stack. -/
def atSpec (made : Except SpecError Spec) : Moment :=
  match m.frames, made with
  | .key record fields done name rest :: frames, .ok spec =>
    { m with frames := frames, task := .keys record fields (done ++ [(name, spec)]) rest }
  | .key .. :: frames, .error e =>
    { m with stack := m.stack.tail, frames := frames, task := .spec (.error e) }
  | .item :: frames, .ok spec =>
    answer { m with frames := frames } do return .collOf (← newInstance) spec
  | .alternative done rest :: frames, .ok spec =>
    { m with frames := frames, task := .alternatives (done ++ [spec]) rest }
  | .item :: frames, .error e | .alternative .. :: frames, .error e =>
    { m with frames := frames, task := .spec (.error e) }
  | _, _ => m

/-- One step. With a spec, or an error, and nothing left to do the derivation is over. -/
def step : Moment :=
  match m.task with
  | .shape name args => m.atShape id r name args
  | .kind k => m.atKind id k
  | .alternatives done [] => m.answer do return .oneOf (← newInstance) done
  | .alternatives done (k :: rest) =>
    { m with frames := .alternative done rest :: m.frames, task := .kind k }
  | .collect shape bindings => m.atCollect shape bindings
  | .inherit shape bindings fields rest => m.atInherit r shape bindings fields rest
  | .keys record fields done rest => m.atKeys id r record fields done rest
  | .fields gathered => m.atFields gathered
  | .spec made => m.atSpec made

/-- The moment so many steps later. -/
def after (n : Nat) : Moment := (step id r)^[n] m

end

/-! ## What a step preserves -/

variable {id : Nat} {r : Registry} {m : Moment}

/-- Stack and lineage hold registered names, none twice, and the fields that are gathered are those of a
registered shape. -/
structure Proper (r : Registry) (m : Moment) : Prop where
  stack : r.Stacked m.stack
  lineage : r.Stacked m.lineage
  task : m.task.Known r

namespace Proper

theorem atShape (h : m.Proper r) (name : String) (args : List Kind) :
    (m.atShape id r name args).Proper r := by
  unfold Moment.atShape
  split
  · exact ⟨h.stack, h.lineage, trivial⟩
  · split
    · exact ⟨h.stack, h.lineage, trivial⟩
    · next hstack =>
      have hnew : name ∉ m.stack := by simpa using hstack
      split
      · exact ⟨h.stack, h.lineage, trivial⟩
      · next shape happlied =>
        exact ⟨h.stack.cons hnew happlied, h.lineage, Registry.name_mem_of_applied happlied⟩

theorem atKind (h : m.Proper r) (k : Kind) : (m.atKind id k).Proper r := by
  cases k <;> exact ⟨h.stack, h.lineage, trivial⟩

/-- Only a name that is not there yet joins the lineage. -/
theorem atCollect (h : m.Proper r) {shape : Shape} (hshape : shape.name ∈ r.shapes.map (·.name))
    (bindings : Bindings) : (m.atCollect shape bindings).Proper r := by
  unfold Moment.atCollect
  split
  · exact ⟨h.stack, h.lineage, trivial⟩
  · next hlineage =>
    have hnew : shape.name ∉ m.lineage := by simpa using hlineage
    exact ⟨h.stack, h.lineage.push hshape hnew, trivial⟩

theorem atInherit (h : m.Proper r) (shape : Shape) (bindings : Bindings) (fields : List Field)
    (rest : List Parent) : (m.atInherit r shape bindings fields rest).Proper r := by
  cases rest with
  | nil => exact ⟨h.stack, h.lineage.tail, trivial⟩
  | cons parent rest =>
    simp only [Moment.atInherit]
    split
    · exact ⟨h.stack, h.lineage, trivial⟩
    · next found happlied => exact ⟨h.stack, h.lineage, Registry.name_mem_of_applied happlied⟩

theorem atKeys (h : m.Proper r) (record : Applied) (fields : List Field)
    (done : List (String × Spec)) (rest : List Field) :
    (m.atKeys id r record fields done rest).Proper r := by
  cases rest with
  | nil => exact ⟨h.stack.tail, h.lineage, trivial⟩
  | cons f rest => exact ⟨h.stack, h.lineage, trivial⟩

theorem atFields (h : m.Proper r) (gathered : Except SpecError (List Field)) :
    (m.atFields gathered).Proper r := by
  unfold Moment.atFields
  split
  · exact ⟨h.stack, h.lineage, trivial⟩
  · exact ⟨h.stack, h.lineage, trivial⟩
  · exact ⟨h.stack, Registry.stacked_nil r, trivial⟩
  · exact ⟨h.stack.tail, Registry.stacked_nil r, trivial⟩
  · exact h

theorem atSpec (h : m.Proper r) (made : Except SpecError Spec) : (m.atSpec made).Proper r := by
  unfold Moment.atSpec
  split
  · exact ⟨h.stack, h.lineage, trivial⟩
  · exact ⟨h.stack.tail, h.lineage, trivial⟩
  · exact ⟨h.stack, h.lineage, trivial⟩
  · exact ⟨h.stack, h.lineage, trivial⟩
  · exact ⟨h.stack, h.lineage, trivial⟩
  · exact ⟨h.stack, h.lineage, trivial⟩
  · exact h

theorem step (h : m.Proper r) : (m.step id r).Proper r := by
  have htask := h.task
  unfold Moment.step
  split
  · exact h.atShape _ _
  · exact h.atKind _
  · exact ⟨h.stack, h.lineage, trivial⟩
  · exact ⟨h.stack, h.lineage, trivial⟩
  · next htaskEq =>
    rw [htaskEq] at htask
    exact h.atCollect htask _
  · exact h.atInherit _ _ _ _
  · exact h.atKeys _ _ _ _
  · exact h.atFields _
  · exact h.atSpec _

/-- What one step preserves holds at every moment. -/
theorem after (h : m.Proper r) (n : Nat) : (m.after id r n).Proper r := by
  induction n generalizing m with
  | zero => exact h
  | succ n ih => exact ih h.step

end Proper

end Moment

end Session

end Conform
