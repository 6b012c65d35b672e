import Conform.Proofs.Registry.Distinct
import Conform.Proofs.Registry.Overriding
/-!
The names of a shape's fields. None stands twice and none is lost: they are the names that the shape and
its ancestors declare. What the parents hand down comes first, and behind it what only the shape itself
declares.
-/

namespace Conform.Registry

/-- A parent of the shape has the field. -/
def HandsDown (r : Registry) (shape : Shape) (field : String) : Prop :=
  ∃ p ∈ shape.parents, r.Has field p.shape

section
variable {r : Registry} {bindings : Bindings} {shape : Shape} {fields : List Field}

/-- Own fields that are there already stay where they are; those that are new come behind. -/
theorem exists_names_declareOwn (bindings : Bindings) (fields own : List Field) :
    ∃ new, (declareOwn bindings fields own).map (·.name) = fields.map (·.name) ++ new ∧
      ∀ n ∈ new, n ∉ fields.map (·.name) := by
  induction own generalizing fields with
  | nil => exact ⟨[], (List.append_nil _).symm, fun _ hn => absurd hn List.not_mem_nil⟩
  | cons o own ih =>
    obtain ⟨new, hnames, hnew⟩ := ih (declareField ⟨o.name, o.kind.substitute bindings⟩ fields)
    rw [names_declareField] at hnames hnew
    split at hnames
    · next hthere =>
      rw [if_pos hthere] at hnew
      exact ⟨new, hnames, hnew⟩
    · next hnot =>
      rw [if_neg hnot] at hnew
      refine ⟨o.name :: new, ?_, List.forall_mem_cons.mpr ⟨hnot, fun n hn hmem => ?_⟩⟩
      · rw [List.append_assoc, List.singleton_append] at hnames
        exact hnames
      · exact hnew n hn (List.mem_append_left _ hmem)

theorem Inherited.mem_names {sources : List Source} (h : r.Inherited shape.parents sources)
    {field : String} : field ∈ sources.map Source.name ↔ r.HandsDown shape field := by
  constructor
  · intro hmem
    obtain ⟨s, hs, rfl⟩ := List.mem_map.mp hmem
    obtain ⟨earlier, p, later, hparents, _, hof⟩ := h.of s hs
    exact ⟨p, hparents ▸ List.mem_append_right _ List.mem_cons_self, has_of_source hof⟩
  · rintro ⟨p, hp, hhas⟩
    exact List.mem_map.mpr (h.complete p hp field hhas)

theorem SourcesOf.mem_names {name : String} {sources : List Source} (h : r.SourcesOf name sources)
    {field : String} : field ∈ sources.map Source.name ↔ r.Has field name := by
  constructor
  · intro hmem
    obtain ⟨s, hs, rfl⟩ := List.mem_map.mp hmem
    exact has_of_source (h.of s hs)
  · exact fun hhas => List.mem_map.mpr (h.complete field hhas)

theorem mem_names_effectiveFields (hshape : r.shape? shape.name = some shape)
    (h : r.effectiveFields shape bindings = .ok fields) {field : String} :
    field ∈ fields.map (·.name) ↔ r.Has field shape.name := by
  obtain ⟨sources, hsources, rfl⟩ := map_field_sources h
  rw [List.map_map]
  exact (sourcesOf_collectSources hshape hsources).mem_names

/-- Whatever the parents hand down comes before whatever they do not. -/
theorem exists_append_effectiveFields (h : r.effectiveFields shape bindings = .ok fields) :
    ∃ inherited own, fields = inherited ++ own ∧ (∀ f ∈ inherited, r.HandsDown shape f.name) ∧
      ∀ f ∈ own, ¬ r.HandsDown shape f.name := by
  obtain ⟨sources, hsources, rfl⟩ := map_field_sources h
  obtain ⟨handed, hhanded, rfl⟩ := exists_inherited_of_collectSources hsources
  obtain ⟨new, hnames, hnew⟩ :=
    exists_names_declareOwn bindings (handed.map Source.field) shape.fields
  rw [← map_field_declareOwnSources shape.name] at hnames
  obtain ⟨inherited, own, hfields, hinherited, hown⟩ := List.map_eq_append_iff.mp hnames
  rw [List.map_map] at hinherited hnew
  refine ⟨inherited, own, hfields, fun f hf => ?_, fun f hf hdown => ?_⟩
  · exact hhanded.mem_names.mp (hinherited ▸ List.mem_map_of_mem hf)
  · exact hnew f.name (hown ▸ List.mem_map_of_mem hf) (hhanded.mem_names.mpr hdown)

end

end Conform.Registry
