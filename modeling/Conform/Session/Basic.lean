import Conform.Registry.Basic
import Conform.Spec.Basic
/-!
Sessions: everything that specs depend on and that changes over time.
-/

namespace Conform

/-- What a derived spec is kept under. -/
structure MemoKey where
  registry : Nat
  shape : String
  args : List Kind
  deriving DecidableEq

structure Session where
  /-- Names bound to specs, the newest first. -/
  names : List (String × Spec)
  /-- Names bound to registries, the newest first. A registry lives as long as one of them. -/
  handles : List (String × Nat)
  registries : List Registry
  memo : List (MemoKey × Spec)
  /-- Each cell that was filled, with the spec that its lazy reference turned out to mean. -/
  filled : List (Nat × Spec)
  nextCell : Nat
  nextSerial : Nat

/-- A step that makes specs. What it made stays made, also if it ends in an error. -/
abbrev Build := ExceptT SpecError (StateM Session)

namespace Session

def empty : Session := ⟨[], [], [], [], [], 0, 0⟩

/-- An instance that none was before. -/
def newInstance : Build Instance :=
  modifyGet fun s => (.made s.nextSerial, { s with nextSerial := s.nextSerial + 1 })

def newCell : Build Nat :=
  modifyGet fun s => (s.nextCell, { s with nextCell := s.nextCell + 1 })

/-! ## Names -/

def spec? (s : Session) (name : String) : Option Spec := s.names.lookup name

def bindSpec (s : Session) (name : String) (spec : Spec) : Session :=
  { s with names := (name, spec) :: s.names.filter (·.1 ≠ name) }

def handle? (s : Session) (name : String) : Option Nat := s.handles.lookup name

def isAlive (s : Session) (registry : Nat) : Bool := s.handles.any (·.2 = registry)

/-- Binds a name to a registry; what it was bound to loses a handle. -/
def bindHandle (s : Session) (name : String) (registry : Nat) : Session :=
  { s with handles := (name, registry) :: s.handles.filter (·.1 ≠ name) }

def dropHandle (s : Session) (name : String) : Session :=
  { s with handles := s.handles.filter (·.1 ≠ name) }

/-- The names whose specs have a property, in order. -/
def namesWith (s : Session) (p : Spec → Bool) : List String :=
  ((s.names.filter (p ·.2)).map (·.1)).mergeSort fun a b => decide (a ≤ b)

/-! ## Registries -/

def registryAt? (s : Session) (id : Nat) : Option Registry := s.registries[id]?

/-- Opens an empty registry under a name, which becomes its first handle. -/
def openRegistry (s : Session) (handle name : String) (config : DeriveConfig) : Nat × Session :=
  let id := s.registries.length
  let opened : Session := { s with registries := s.registries ++ [⟨name, config, []⟩] }
  (id, opened.bindHandle handle id)

/-- Registers a shape in a registry. -/
def register (s : Session) (id : Nat) (shape : Shape) : Except SpecError Session :=
  match s.registryAt? id with
  | none => .error .registryDropped
  | some r => do return { s with registries := s.registries.set id (← r.register shape) }

/-- The number of derived specs that are kept for a registry. -/
def memoized (s : Session) (registry : Nat) : Nat := s.memo.countP (·.1.registry = registry)

def registryShown (s : Session) (registry : Nat) (r : Registry) : String :=
  "Registry \x7b name: " ++ Text.quoted r.name ++ ", shapes: " ++ toString r.shapes.length
    ++ ", memoized: " ++ toString (s.memoized registry) ++ " \x7d"

/-- Keeps a derived spec, unless one is kept already; the one that is kept is the answer. -/
def memoize (key : MemoKey) (spec : Spec) : Build Spec :=
  modifyGet fun s =>
    match s.memo.lookup key with
    | some kept => (kept, s)
    | none => (spec, { s with memo := s.memo ++ [(key, spec)] })

/-! ## Cells -/

def isFilled (s : Session) (cell : Nat) : Bool := (s.filled.lookup cell).isSome

/-- How many times the target of a cell was found. -/
def timesFilled (s : Session) (cell : Nat) : Nat := s.filled.countP (·.1 = cell)

end Session

end Conform
