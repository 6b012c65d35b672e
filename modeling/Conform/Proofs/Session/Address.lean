import Conform.Proofs.Check.Address
import Conform.Proofs.Session.Lasting
/-!
Derived specs report where problems are. The check of placeholders runs on what the dictionary made of
a record, but the fields that it looks at are unbound, so the dictionary left them as they were; and a
lazy reference hands on the value that came to it.
-/

namespace Conform

open Check (Ensures)
open Session (IntactOver)
open Spec (Locates)

section
variable {id : Nat} {r : Registry} {cells : List Target} {n : Nat} {v : Value}

/-- What a dictionary makes of a record has the fields that are placeholders as they were. -/
theorem StandFields.placeholders_kept {fields : List Field} {keys : List (String × Spec)}
    (hstand : StandFields id r (fun _ => True) cells fields keys) (hfields : Field.Distinct fields)
    {d : Delegate} {i : Instance} {extra : ExtraFields} {w : Value} {s t : Session}
    (h : (Spec.dict i keys extra).conformWith d v s = some (.valid w, t)) :
    w.kind = .object ∧ ∀ group ∈ Session.placeholderGroups fields, ∀ field ∈ group.fields,
      w.get? field = v.get? field := by
  obtain ⟨pairs, declared, others, rfl, rfl, hkeys, _⟩ := Spec.conformWith_dict_valid.mp h
  refine ⟨rfl, fun group hgroup field hfield => ?_⟩
  obtain ⟨f, hf, hkind, rfl⟩ := ((Session.groupsOf_placeholderGroups fields).has _ field).mp
    ⟨group, hgroup, rfl, hfield⟩
  obtain ⟨j, hkey⟩ := hstand.lookup_placeholder hfields hf hkind
  obtain ⟨w, hw, hlookup⟩ := Spec.lookup_of_unbound hkeys hkey
  rw [hw]
  simp only [Value.get?, List.lookup_append, hlookup, Option.some_or]

/-- A record is located if its fields are. -/
theorem locates_record {fields : List Field} {keys : List (String × Spec)} {s : Spec}
    (hfields : Field.Distinct fields) (hstand : StandFields id r (fun _ => True) cells fields keys)
    (hform : RecordForm r.config (Session.placeholderGroups fields) keys s) (hv : v.depth ≤ n)
    (hkeys : v.DistinctKeys) (h : ∀ key ∈ keys, ∀ w, v.get? key.1 = some w →
      Locates (IntactOver id r cells) (.within n) key.2 w) :
    Locates (IntactOver id r cells) (.within n) s v := by
  cases hform with
  | plain i j label _ => exact (Spec.locates_dict hkeys h j _).decorated i label
  | grouped i j k l label _ =>
    have hends := (Spec.inStep_dict (compositional_answering cells) (hstand.answering hv) k
      r.config.extra).conform.ensures
    refine (Spec.locates_agreeing (Spec.locates_dict hkeys h k _) ?_ j l).decorated i label
    refine hends.ran.mono fun c hc w hvalid => ?_
    obtain ⟨_, s, t, hrun⟩ := hc
    rw [hvalid] at hrun
    exact hstand.placeholders_kept hfields hrun

/-- The lazy references that the table knows are located, for values less than `n` deep. -/
def LazilyLocates (id : Nat) (r : Registry) (cells : List Target) (n : Nat) : Prop :=
  ∀ i reference w, cells[reference.cell]? = some reference.target → reference.target.IsOf id →
    w.depth < n → w.DistinctKeys →
      Locates (IntactOver id r cells) (.within n) (.deferred i reference) w

mutual

theorem Stands.locates (hlazy : LazilyLocates id r cells n) :
    ∀ {k : Kind} {s : Spec}, Stands id r (fun _ => True) cells k s → ∀ v : Value, v.depth < n →
      v.DistinctKeys → Locates (IntactOver id r cells) (.within n) s v
  | _, _, .leaf i k, v, _, _ => Spec.locates_isInstance i k v
  | _, _, .nothing i, v, _, _ => Spec.locates_isInstance i .null v
  | _, _, .placeholder i p, v, _, _ => Spec.locates_unbound i p v
  | _, _, .record h, v, hv, hkeys => h.locates hlazy v (Nat.le_of_lt hv) hkeys
  | _, _, .lazyRecord i _ hcell, v, hv, hkeys => hlazy i _ v hcell rfl hv hkeys
  | _, _, .forward i _ hcell, v, hv, hkeys => hlazy i _ v hcell rfl hv hkeys
  | _, _, .list i h, _, hv, hkeys =>
    Spec.locates_collOf (fun _ hitems w hw => h.locates hlazy w
      (Nat.lt_trans (Value.depth_lt_of_mem_items hitems hw) hv) (hkeys.items hitems w hw)) i
  | _, _, .union i hs, v, hv, hkeys =>
    Spec.locates_oneOf ((Stands.union i hs).answering hv).conform.ensures
      (hs.locates hlazy v hv hkeys)

theorem StandAll.locates (hlazy : LazilyLocates id r cells n) :
    ∀ {ks : List Kind} {ss : List Spec}, StandAll id r (fun _ => True) cells ks ss →
      ∀ v : Value, v.depth < n → v.DistinctKeys →
        ∀ s ∈ ss, Locates (IntactOver id r cells) (.within n) s v
  | _, _, .nil, _, _, _ => fun _ hs => absurd hs List.not_mem_nil
  | _, _, .cons h hs, v, hv, hkeys =>
    List.forall_mem_cons.mpr ⟨h.locates hlazy v hv hkeys, hs.locates hlazy v hv hkeys⟩

theorem StandFields.locates (hlazy : LazilyLocates id r cells n) :
    ∀ {fields : List Field} {keys : List (String × Spec)},
      StandFields id r (fun _ => True) cells fields keys → ∀ v : Value, v.depth ≤ n →
        v.DistinctKeys → ∀ key ∈ keys, ∀ w, v.get? key.1 = some w →
          Locates (IntactOver id r cells) (.within n) key.2 w
  | _, _, .nil, _, _, _ => fun _ hkey => absurd hkey List.not_mem_nil
  | _, _, .cons h hs, v, hv, hkeys =>
    List.forall_mem_cons.mpr
      ⟨fun w hw => h.locates hlazy w (Nat.lt_of_lt_of_le (Value.depth_lt_of_get? hw) hv)
          (hkeys.get? hw),
        hs.locates hlazy v hv hkeys⟩

theorem StandsRecord.locates (hlazy : LazilyLocates id r cells n) :
    ∀ {a : Applied} {s : Spec}, StandsRecord id r (fun _ => True) cells a s →
      ∀ v : Value, v.depth ≤ n → v.DistinctKeys → Locates (IntactOver id r cells) (.within n) s v
  | _, _, .mk _ hfields hstand hform, v, hv, hkeys =>
    locates_record (Registry.distinct_fieldsOf hfields) hstand hform hv hkeys
      (hstand.locates hlazy v hv hkeys)

end

theorem Answers.locates (hlazy : LazilyLocates id r cells n) {target : Target} {s : Spec}
    (h : Answers id r (fun _ => True) cells target s) (hv : v.depth ≤ n) (hkeys : v.DistinctKeys) :
    Locates (IntactOver id r cells) (.within n) s v := by
  cases h with
  | shape h => exact h.locates hlazy v hv hkeys
  | forward _ h => exact h.locates hlazy v hv hkeys
  | builtin i _ _ => exact Spec.locates_isInstance i _ v

/-- What is found behind a reference explains the value that came to the reference. The induction is
on how many references are left to go through. -/
theorem lazily_locates (n : Nat) (cells : List Target) : LazilyLocates id r cells n := by
  induction n generalizing cells with
  | zero => exact fun _ _ _ _ _ hv => absurd hv (Nat.not_lt_zero _)
  | succ n ih =>
    rintro i reference v hcell htarget hv hkeys path s ⟨more, hmore, hs⟩
    rw [Spec.explainWith_deferred]
    rcases hs.look (cell_mono hmore hcell) htarget with
      ⟨spec, t, cells', hrun, hcells, ht, hanswers⟩ | ⟨e, t, cells', hrun, hcells, ht, _⟩
    · have hlocates := hanswers.locates (ih cells') (Nat.le_of_lt_succ hv) hkeys path
      obtain ⟨problems, u, hexplain, hproblems, hu⟩ :=
        hlocates.exists_some ⟨cells', List.prefix_refl _, ht⟩
      rw [hrun]
      simp only [hexplain]
      exact ⟨hproblems, hu.mono (hmore.trans hcells)⟩
    · rw [hrun]
      exact ⟨List.forall_mem_singleton.mpr (Problem.addresses_here _ _), cells', hmore.trans hcells, ht⟩

end

/-! ## Explanations of derived specs -/

/-- The paths that a value was explained with. -/
def Answer.paths : Answer → List String
  | .explained reports => reports.map (·.path.shown)
  | .made | .refused _ | .conformed _ | .unknownSpec | .unending => []

namespace History

/-- The problems of a derived spec address the input: the path of each leads to the value that it is
about, or a required key is missing of the object that it leads to. A shape that is asked for by its
name is asked for as a record. -/
theorem explained_addresses {t : History} (hmade : t.derived.1 = .made) {v : Value}
    (hv : v.DistinctKeys) :
    ∃ reports c, t.caller.call 0 (.explain t.opening.specs.length .root v) =
        (.explained reports, c) ∧ ∀ p ∈ reports, p.Reaches v ∨ p.Misses v := by
  obtain ⟨r, kinds, _, ⟨cells, hintact, hspecs⟩, hkind⟩ := intact_made hmade
  obtain ⟨spec, hspec, hstands⟩ := hspecs.of_kind hkind
  have hlocates := hstands.locates (lazily_locates _ cells) v
    (Check.depth_lt_reach v t.caller.session) hv .root
  obtain ⟨problems, s, hrun, hproblems, _⟩ :=
    hlocates.exists_some ⟨cells, List.prefix_refl _, hintact⟩
  have hcheck : Check.explain spec .root v t.caller.session = some (problems, s) := hrun
  refine ⟨problems.map Problem.report, ⟨s, t.caller.specs⟩, ?_, ?_⟩
  · simp only [Caller.call, hspec, hcheck]
  · refine List.forall_mem_map.mpr fun p hp => ?_
    obtain ⟨q, hpath, hq⟩ := hproblems p hp
    obtain rfl : p.path = q := hpath
    exact hq

/-- A list of nodes; two of its fields have to agree. -/
def nodes : History where
  name := "shapes"
  config := { DeriveConfig.default with extra := .forbid }
  before := [.step (.register ⟨"Node", ["T"], [⟨"next", .optional (.forward "Node" [])⟩,
    ⟨"left", .placeholder "T"⟩, ⟨"right", .placeholder "T"⟩], []⟩)]
  kind := .list (.record "Node" [])
  after := [.clone "registry" "copy", .drop "registry"]

/-- A first node whose fields do not agree, and a second one whose next lacks a key and has another. -/
def uneven : Value :=
  .list [
    .object [("next", .null), ("left", .null), ("right", .string "one")],
    .object [("right", .null), ("left", .null),
      ("next", .object [("left", .null), ("right", .null), ("more", .null)])]]

theorem explained_addresses_uneven :
    nodes.derived.1 = .made ∧ uneven.DistinctKeys ∧
      ∃ reports c, nodes.caller.call 0 (.explain nodes.opening.specs.length .root uneven) =
          (.explained reports, c) ∧
        reports.map (·.path.shown) = ["[0].right", "[1].next.next", "[1].next.more", "[1].next"] ∧
        ∀ p ∈ reports, p.Reaches uneven ∨ p.Misses uneven := by
  have hmade : nodes.derived.1 = .made := by decide +kernel
  have hdistinct : uneven.DistinctKeys := by
    simp [uneven, Value.DistinctKeys, Value.AllDistinctKeys, Value.PairsDistinctKeys]
  obtain ⟨reports, c, hcall, hreports⟩ := explained_addresses hmade hdistinct
  refine ⟨hmade, hdistinct, reports, c, hcall, ?_, hreports⟩
  have hpaths : (nodes.caller.call 0 (.explain nodes.opening.specs.length .root uneven)).1.paths =
      ["[0].right", "[1].next.next", "[1].next.more", "[1].next"] := by
    decide +kernel
  rw [hcall] at hpaths
  exact hpaths

end History

end Conform
