import Conform.Proofs.Registry.Extends
import Mathlib.Data.List.Induction
import Mathlib.Data.List.Nodup
/-!
No field stands twice. However fields are inherited and declared, a name that is there already is not
added again, so the fields of a shape have different names. Fields that are declared one after the
other stand in the order of their first declarations, each as it is declared last.
-/

namespace Conform

/-- The fields have different names. -/
def Field.Distinct (fields : List Field) : Prop := (fields.map (·.name)).Nodup

theorem Field.distinct_nil : Distinct [] := List.nodup_nil

theorem names_declareField (f : Field) (fields : List Field) :
    (declareField f fields).map (·.name) =
      if f.name ∈ fields.map (·.name) then fields.map (·.name)
      else fields.map (·.name) ++ [f.name] := by
  induction fields with
  | nil => rfl
  | cons g fields ih =>
    unfold declareField
    by_cases hname : g.name = f.name
    · simp [hname]
    · simp only [if_neg hname, List.map_cons, ih, List.mem_cons, Ne.symm hname, false_or]
      split <;> rfl

theorem Field.Distinct.declareField {fields : List Field} (h : Distinct fields) (f : Field) :
    Distinct (declareField f fields) := by
  unfold Distinct
  rw [names_declareField]
  split
  · exact h
  · next hnew => exact List.nodup_append.mpr ⟨h, List.nodup_singleton _, by grind⟩

/-! ## Declarations in turn -/

theorem eraseDups_concat (names : List String) (name : String) :
    (names ++ [name]).eraseDups =
      if name ∈ names then names.eraseDups else names.eraseDups ++ [name] := by
  rw [List.eraseDups_append]
  unfold List.removeAll
  split
  · next h => simp [h]
  · next h => simp [h, List.eraseDups_cons]

theorem nodup_eraseDups (names : List String) : names.eraseDups.Nodup := by
  induction names using List.reverseRecOn with
  | nil => exact List.nodup_nil
  | append_singleton names name ih =>
    rw [eraseDups_concat]
    split
    · exact ih
    · next hnew =>
      rw [← List.mem_eraseDups] at hnew
      exact List.nodup_append.mpr ⟨ih, List.nodup_singleton name, by grind⟩

/-- What is declared last under the name. -/
def Field.latest? (fields : List Field) (name : String) : Option Field :=
  fields.reverse.find? (·.name = name)

/-- The fields by name, in the order in which names are first declared, each as declared last. -/
def Field.settled (fields : List Field) : List Field :=
  (fields.map (·.name)).eraseDups.filterMap (latest? fields)

section
variable {fields : List Field} {f : Field}

theorem Field.latest?_concat (fields : List Field) (f : Field) :
    latest? (fields ++ [f]) = fun name => if f.name = name then some f else latest? fields name := by
  funext name
  unfold latest?
  rw [List.reverse_append, List.reverse_singleton, List.singleton_append, List.find?_cons]
  by_cases hname : f.name = name <;> simp [hname]

theorem Field.exists_latest? {name : String} (h : name ∈ fields.map (·.name)) :
    ∃ f, latest? fields name = some f ∧ f.name = name := by
  obtain ⟨g, hg, hname⟩ := List.mem_map.mp h
  have hsome : (latest? fields name).isSome := by
    refine List.find?_isSome.mpr ⟨g, List.mem_reverse.mpr hg, ?_⟩
    simpa using hname
  obtain ⟨f, hf⟩ := Option.isSome_iff_exists.mp hsome
  exact ⟨f, hf, by simpa using List.find?_some hf⟩

/-- Declaring a field again changes what is found under its name, and adds the name if it is new. -/
theorem declareField_filterMap {names : List String} {pick : String → Option Field}
    (hnodup : names.Nodup) (hpick : ∀ name ∈ names, ∃ g, pick name = some g ∧ g.name = name) :
    declareField f (names.filterMap pick) =
      (if f.name ∈ names then names else names ++ [f.name]).filterMap
        fun name => if f.name = name then some f else pick name := by
  induction names with
  | nil => simp [declareField]
  | cons name names ih =>
    obtain ⟨hnew, hothers⟩ := List.nodup_cons.mp hnodup
    obtain ⟨g, hg, rfl⟩ := hpick name List.mem_cons_self
    have hrest := ih hothers fun n hn => hpick n (List.mem_cons_of_mem _ hn)
    rw [List.filterMap_cons_some hg, declareField]
    by_cases hname : g.name = f.name
    · have hsame : names.filterMap (fun n => if f.name = n then some f else pick n) =
          names.filterMap pick :=
        List.filterMap_congr fun n hn => if_neg fun h => hnew (by rwa [hname, h])
      simp [hname, hsame]
    · rw [if_neg hname, hrest]
      simp only [List.mem_cons, Ne.symm hname, false_or]
      split <;> simp [Ne.symm hname, hg]

theorem Field.settled_concat (fields : List Field) (f : Field) :
    settled (fields ++ [f]) = declareField f (settled fields) := by
  have hpick : ∀ name ∈ (fields.map (·.name)).eraseDups,
      ∃ g, latest? fields name = some g ∧ g.name = name :=
    fun name hname => exists_latest? (List.mem_eraseDups.mp hname)
  unfold settled
  rw [declareField_filterMap (nodup_eraseDups _) hpick, latest?_concat, List.map_append,
    List.map_singleton, eraseDups_concat]
  simp only [List.mem_eraseDups]

/-- So a list of fields settles as they are declared one after the other. -/
theorem Field.settled_append (fields own : List Field) :
    settled (fields ++ own) = own.foldl (fun fs f => Conform.declareField f fs) (settled fields) := by
  induction own using List.reverseRecOn with
  | nil => rw [List.append_nil, List.foldl_nil]
  | append_singleton own f ih =>
    rw [← List.append_assoc, settled_concat, ih, List.foldl_append]
    rfl

theorem Field.mem_of_mem_settled (h : f ∈ settled fields) : f ∈ fields := by
  obtain ⟨name, _, hf⟩ := List.mem_filterMap.mp h
  exact List.mem_reverse.mp (List.mem_of_find?_eq_some hf)

theorem Field.distinct_settled (fields : List Field) : Distinct (settled fields) := by
  induction fields using List.reverseRecOn with
  | nil => exact distinct_nil
  | append_singleton fields f ih =>
    rw [settled_concat]
    exact ih.declareField f

end

namespace Registry

variable {r : Registry} {fields all : List Field}

theorem inherit_eq_append {inherited : List Field} (h : Field.Distinct (fields ++ inherited)) :
    inherit fields inherited = fields ++ inherited := by
  induction inherited generalizing fields with
  | nil => exact (List.append_nil fields).symm
  | cons f inherited ih =>
    have hnew : fields.any (·.name = f.name) = false := by
      unfold Field.Distinct at h
      simp at h ⊢
      grind
    have hrest := @ih (fields ++ [f]) (by rwa [List.append_assoc])
    rw [inherit, List.foldl_cons, hnew, ← inherit]
    simpa using hrest

theorem distinct_declareOwn (bindings : Bindings) (h : Field.Distinct fields) (own : List Field) :
    Field.Distinct (declareOwn bindings fields own) := by
  induction own generalizing fields with
  | nil => exact h
  | cons o own ih => exact ih (h.declareField _)

theorem distinct_inherit (h : Field.Distinct fields) (inherited : List Field) :
    Field.Distinct (inherit fields inherited) := by
  induction inherited generalizing fields with
  | nil => exact h
  | cons f inherited ih =>
    refine ih ?_
    simp only
    split
    · exact h
    · next hnew =>
      unfold Field.Distinct
      rw [List.map_append]
      refine List.nodup_append.mpr ⟨h, List.nodup_singleton _, ?_⟩
      simp at hnew ⊢
      grind

theorem distinct_inheritAll {fieldsOf : Shape → Bindings → Except SpecError (List Field)}
    {bindings : Bindings} {parents : List Parent} (hfields : Field.Distinct fields)
    (h : r.inheritAll fieldsOf bindings fields parents = .ok all) : Field.Distinct all := by
  induction parents generalizing fields with
  | nil =>
    cases h
    exact hfields
  | cons parent rest ih =>
    unfold inheritAll at h
    obtain ⟨_, _, h⟩ := bind_eq_ok.mp h
    obtain ⟨_, _, h⟩ := bind_eq_ok.mp h
    obtain ⟨inherited, _, hrest⟩ := bind_eq_ok.mp h
    exact ih (distinct_inherit hfields inherited) hrest

theorem distinct_effectiveFields {shape : Shape} {bindings : Bindings}
    (h : r.effectiveFields shape bindings = .ok fields) : Field.Distinct fields := by
  obtain ⟨_, inherited, _, _, hinherited, rfl⟩ := of_collectFields h
  exact distinct_declareOwn _ (distinct_inheritAll Field.distinct_nil hinherited) _

theorem distinct_fieldsOf {a : Applied} (h : r.fieldsOf a = .ok fields) : Field.Distinct fields := by
  obtain ⟨shape, _, hfields⟩ := bind_eq_ok.mp h
  exact distinct_effectiveFields hfields

end Registry

end Conform
