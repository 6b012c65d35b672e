import Conform.Proofs.Registry.Extends
import Conform.Session.Derive
/-!
Which specs stand for which kinds. A derived spec follows its kind, but for the shapes that are
referred to lazily: there it only holds a cell, and a table says what each cell was made for. The
table is no part of the session; a session is sound if there is a table that explains all it keeps.
-/

namespace Conform

/-- The forms that the spec of a record takes around the specs of its fields. -/
inductive RecordForm (config : DeriveConfig) (groups : List PlaceholderGroup)
    (keys : List (String × Spec)) : Spec → Prop
  | plain (i j : Instance) (label : Option String) :
    (config.checkPlaceholders && !groups.isEmpty) = false →
      RecordForm config groups keys (.decorated i (.dict j keys config.extra) label)
  | grouped (i j k l : Instance) (label : Option String) :
    (config.checkPlaceholders && !groups.isEmpty) = true →
      RecordForm config groups keys
        (.decorated i (.allOf j [.dict k keys config.extra, .consistency l groups]) label)

section
variable (id : Nat) (r : Registry) (Q : Target → Prop) (cells : List Target)

mutual

/-- The spec stands for the kind. Of the shapes that are built in, and of the names found to be
builtin, `Q` holds. -/
inductive Stands : Kind → Spec → Prop
  | leaf (i : Instance) (k : ValueKind) : Stands (.leaf k) (.isInstance i k)
  | nothing (i : Instance) : Stands .nothing (.isInstance i .null)
  | record {name : String} {args : List Kind} {s : Spec} :
    StandsRecord (name, args) s → Stands (.record name args) s
  | lazyRecord {name : String} {args : List Kind} {cell : Nat} (i : Instance) (label : String) :
    cells[cell]? = some (.shape id name args) →
      Stands (.record name args) (.deferred i ⟨cell, label, .shape id name args⟩)
  | forward {name : String} {args : List Kind} {cell : Nat} (i : Instance) (label : String) :
    cells[cell]? = some (.forward id name args) →
      Stands (.forward name args) (.deferred i ⟨cell, label, .forward id name args⟩)
  | list {k : Kind} {s : Spec} (i : Instance) : Stands k s → Stands (.list k) (.collOf i s)
  | union {ks : List Kind} {ss : List Spec} (i : Instance) :
    StandAll ks ss → Stands (.union ks) (.oneOf i ss)
  | placeholder (i : Instance) (p : String) : Stands (.placeholder p) (.unbound i p)

inductive StandAll : List Kind → List Spec → Prop
  | nil : StandAll [] []
  | cons {k : Kind} {s : Spec} {ks : List Kind} {ss : List Spec} :
    Stands k s → StandAll ks ss → StandAll (k :: ks) (s :: ss)

inductive StandFields : List Field → List (String × Spec) → Prop
  | nil : StandFields [] []
  | cons {f : Field} {s : Spec} {fs : List Field} {keys : List (String × Spec)} :
    Stands f.kind s → StandFields fs keys → StandFields (f :: fs) ((f.name, s) :: keys)

inductive StandsRecord : Applied → Spec → Prop
  | mk {a : Applied} {fields : List Field} {keys : List (String × Spec)} {s : Spec} :
    Q (.shape id a.1 a.2) → r.fieldsOf a = .ok fields → StandFields fields keys →
      RecordForm r.config (Session.placeholderGroups fields) keys s → StandsRecord a s

end

/-- What may be found behind a lazy reference. -/
inductive Answers : Target → Spec → Prop
  | shape {name : String} {args : List Kind} {s : Spec} :
    StandsRecord id r Q cells (name, args) s → Answers (.shape id name args) s
  | forward {name : String} {args : List Kind} {s : Spec} : r.contains name = true →
    StandsRecord id r Q cells (name, args) s → Answers (.forward id name args) s
  | builtin {name : String} {args : List Kind} {kind : ValueKind} (i : Instance) :
    Q (.forward id name args) → r.builtin? name args = some kind →
      Answers (.forward id name args) (.isInstance i kind)

end

/-! ## Tables and registries that grow -/

section
variable {id : Nat} {r r' : Registry} {Q : Target → Prop} {cells cells' : List Target}

theorem cell_mono (h : cells <+: cells') {cell : Nat} {target : Target}
    (hcell : cells[cell]? = some target) : cells'[cell]? = some target := by
  obtain ⟨hlt, rfl⟩ := List.getElem?_eq_some_iff.mp hcell
  exact List.prefix_iff_getElem?.mp h cell hlt

mutual

theorem Stands.mono (hr : r.Extends r') (hcells : cells <+: cells') :
    ∀ {k : Kind} {s : Spec}, Stands id r Q cells k s → Stands id r' Q cells' k s
  | _, _, .leaf i k => .leaf i k
  | _, _, .nothing i => .nothing i
  | _, _, .record h => .record (h.mono hr hcells)
  | _, _, .lazyRecord i label hcell => .lazyRecord i label (cell_mono hcells hcell)
  | _, _, .forward i label hcell => .forward i label (cell_mono hcells hcell)
  | _, _, .list i h => .list i (h.mono hr hcells)
  | _, _, .union i h => .union i (h.mono hr hcells)
  | _, _, .placeholder i p => .placeholder i p

theorem StandAll.mono (hr : r.Extends r') (hcells : cells <+: cells') :
    ∀ {ks : List Kind} {ss : List Spec}, StandAll id r Q cells ks ss → StandAll id r' Q cells' ks ss
  | _, _, .nil => .nil
  | _, _, .cons h hs => .cons (h.mono hr hcells) (hs.mono hr hcells)

theorem StandFields.mono (hr : r.Extends r') (hcells : cells <+: cells') :
    ∀ {fields : List Field} {keys : List (String × Spec)},
      StandFields id r Q cells fields keys → StandFields id r' Q cells' fields keys
  | _, _, .nil => .nil
  | _, _, .cons h hs => .cons (h.mono hr hcells) (hs.mono hr hcells)

theorem StandsRecord.mono (hr : r.Extends r') (hcells : cells <+: cells') :
    ∀ {a : Applied} {s : Spec}, StandsRecord id r Q cells a s → StandsRecord id r' Q cells' a s
  | _, _, .mk hq hfields hkeys hform =>
    .mk hq (hr.fieldsOf hfields) (hkeys.mono hr hcells) (by rw [hr.config]; exact hform)

end

theorem Answers.mono (hr : r.Extends r') (hcells : cells <+: cells') {target : Target} {s : Spec}
    (h : Answers id r Q cells target s) : Answers id r' Q cells' target s := by
  cases h with
  | shape h => exact .shape (h.mono hr hcells)
  | forward hname h => exact .forward (hr.contains hname) (h.mono hr hcells)
  | builtin i hq hbuiltin => exact .builtin i hq (hr.builtin? ▸ hbuiltin)

end

/-! ## Sound sessions -/

namespace Session

/-- What the session keeps for a registry stands for what it is kept for, as the table tells. -/
structure Sound (id : Nat) (r : Registry) (Q : Target → Prop) (cells : List Target)
    (s : Session) : Prop where
  registry : s.registryAt? id = some r
  alive : s.isAlive id = true
  count : cells.length = s.nextCell
  memo : ∀ {a : Applied} {spec : Spec},
    s.memo.lookup ⟨id, a.1, a.2⟩ = some spec → StandsRecord id r Q cells a spec
  filled : ∀ {cell : Nat} {spec : Spec}, s.filled.lookup cell = some spec →
    ∃ target, cells[cell]? = some target ∧ Answers id r Q cells target spec

end Session

end Conform
