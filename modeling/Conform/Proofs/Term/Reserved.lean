import Conform.Proofs.Term.Shown
/-!
Names with a meaning of their own: those of builtins, and those that make kinds of other kinds. None of
them names a shape, but for builtins that are given arguments: these pass for shapes, unless the reader
looks for them.
-/

namespace Conform

namespace Term

/-! ## The parts of a term -/

mutual

/-- The term and all terms within it, outer ones first. -/
def parts : Term → List Term
  | apply quoted name args => apply quoted name args :: partsOfAll args

def partsOfAll : List Term → List Term
  | [] => []
  | t :: ts => parts t ++ partsOfAll ts

end

/-! ## Names -/

/-- The name is that of a builtin, or makes kinds of other kinds. -/
def HasMeaning (name : String) : Prop :=
  (ValueKind.ofName? name).isSome ∨
    name ∈ ["List", "Optional", "Union", "Dict", "Tuple", "Set", "set"]

/-- How many arguments such a name takes: builtins none, but `list` may have one; lists and options one,
and unions any number of them. -/
def Takes (name : String) (count : Nat) : Prop :=
  (count = 0 ∧ (ValueKind.ofName? name).isSome) ∨
    (count = 1 ∧ name ∈ ["List", "list", "Optional"]) ∨ (0 < count ∧ name = "Union")

/-- The term gives such a name arguments that it does not take, or too few. A placeholder may have any
name. -/
def Misapplies (placeholders : List String) : Term → Prop
  | apply true _ _ => False
  | apply false name args =>
    HasMeaning name ∧ ¬Takes name args.length ∧ ¬(args = [] ∧ name ∈ placeholders)

/-- The name is that of a builtin, and the reader does not look for it where it has so many arguments. -/
def Overlooked (name : String) (count : Nat) : Prop :=
  (ValueKind.ofName? name).isSome ∧ name ∉ ["dict", "tuple"] ∧ 0 < count ∧ ¬(name = "list" ∧ count = 1)

/-- The term gives arguments to a builtin that the reader does not look for. -/
def PassesForShape : Term → Prop
  | apply true _ _ => False
  | apply false name args => Overlooked name args.length

variable {placeholders : List String} {name : String} {args : List Kind} {k : Kind}

def builtins : List String := ValueKind.all.flatMap ValueKind.builtinNames

theorem mem_builtins (h : (ValueKind.ofName? name).isSome) : name ∈ builtins := by
  obtain ⟨v, hv, hname⟩ := List.find?_isSome.mp h
  exact List.mem_flatMap.mpr ⟨v, hv, List.contains_iff_mem.mp hname⟩

theorem not_hasMeaning_sequence : ¬HasMeaning "Sequence" := by
  rintro (hbuiltin | hmaker)
  · exact absurd (mem_builtins hbuiltin) (by decide)
  · exact absurd hmaker (by decide)

theorem mem_reservedNames_of_hasMeaning (h : HasMeaning name) (hnone : ValueKind.ofName? name = none) :
    name ∈ reservedNames := by
  rcases h with hbuiltin | hmaker
  · rw [hnone] at hbuiltin
    cases hbuiltin
  · have hsub : ["List", "Optional", "Union", "Dict", "Tuple", "Set", "set"] ⊆ reservedNames := by decide
    exact hsub hmaker

/-- A name with a meaning of its own has the arguments that it takes, is a placeholder, or passes for the
name of a shape. -/
theorem takes_of_namedKind? (hmeaning : HasMeaning name)
    (h : namedKind? placeholders name args = some k) :
    Takes name args.length ∨ (args = [] ∧ name ∈ placeholders) ∨ k = .record name args := by
  cases args with
  | nil =>
    rcases bareKind?_cases h with ⟨hnothing, _⟩ | ⟨hknown, _⟩ | ⟨v, hv, _⟩ | ⟨_, _, hrecord⟩
    · have hname : name = "None" ∨ name = "NoneType" := by simpa [isNothing] using hnothing
      have hbuiltin : (ValueKind.ofName? name).isSome := by
        rcases hname with rfl | rfl <;> decide
      exact .inl (.inl ⟨rfl, hbuiltin⟩)
    · exact .inr (.inl ⟨rfl, hknown⟩)
    · exact .inl (.inl ⟨rfl, by rw [hv]; rfl⟩)
    · exact .inr (.inr hrecord)
  | cons arg args =>
    rcases appliedKind?_cases h with ⟨item, hone, hname, _⟩ | ⟨hunion, _⟩ |
      ⟨_, _, hrecord⟩
    · refine .inl (.inr (.inl ⟨by rw [hone]; rfl, ?_⟩))
      simp only [List.mem_cons, List.not_mem_nil, or_false] at hname ⊢
      rcases hname with hname | hname | rfl | hname
      · exact .inl hname
      · exact .inr (.inl hname)
      · exact absurd hmeaning not_hasMeaning_sequence
      · exact .inr (.inr hname)
    · exact .inl (.inr (.inr ⟨Nat.succ_pos _, hunion⟩))
    · exact .inr (.inr hrecord)

/-- Only a builtin with arguments that the reader does not look for passes for the name of a shape. -/
theorem overlooked_of_namedKind? (hmeaning : HasMeaning name)
    (h : namedKind? placeholders name args = some (.record name args)) :
    Overlooked name args.length := by
  cases args with
  | nil =>
    rcases bareKind?_cases h with ⟨_, hk⟩ | ⟨_, hk⟩ | ⟨_, _, hk⟩ | ⟨hnone, hfree, _⟩
    · cases hk
    · cases hk
    · cases hk
    · exact absurd (mem_reservedNames_of_hasMeaning hmeaning hnone) hfree
  | cons arg args =>
    rcases appliedKind?_cases h with ⟨_, _, _, hk | hk⟩ | ⟨_, hk⟩ |
      ⟨hfree, hlist, _⟩
    · cases hk
    · cases hk
    · cases hk
    · have hbuiltin : ValueKind.ofName? name ≠ none := fun hnone =>
        hfree (mem_reservedNames_of_hasMeaning hmeaning hnone)
      have hsub : ["dict", "tuple"] ⊆ reservedNames := by decide
      exact ⟨Option.isSome_iff_ne_none.mpr hbuiltin, fun hmem => hfree (hsub hmem),
        Nat.succ_pos _, hlist⟩

theorem Overlooked.not_takes {count : Nat} (h : Overlooked name count) : ¬Takes name count := by
  obtain ⟨hbuiltin, _, hcount, hlist⟩ := h
  rintro (⟨rfl, _⟩ | ⟨rfl, hname⟩ | ⟨_, rfl⟩)
  · exact Nat.lt_irrefl 0 hcount
  · simp only [List.mem_cons, List.not_mem_nil, or_false] at hname
    rcases hname with rfl | rfl | rfl
    · exact absurd hbuiltin (by decide)
    · exact hlist ⟨rfl, rfl⟩
    · exact absurd hbuiltin (by decide)
  · exact absurd hbuiltin (by decide)

theorem PassesForShape.misapplies {t : Term} (h : t.PassesForShape) : t.Misapplies placeholders := by
  obtain ⟨quoted, name, args⟩ := t
  cases quoted with
  | true => exact h
  | false =>
    have hoverlooked : Overlooked name args.length := h
    refine ⟨.inl hoverlooked.1, hoverlooked.not_takes, ?_⟩
    rintro ⟨rfl, _⟩
    exact Nat.lt_irrefl 0 hoverlooked.2.2.1

/-! ## The meaning of the parts -/

theorem kinds?_length {ts : List Term} {ks : List Kind} (h : kinds? placeholders ts = some ks) :
    ks.length = ts.length := by
  induction ts generalizing ks with
  | nil =>
    cases h
    rfl
  | cons t ts ih =>
    obtain ⟨k, ks, _, hks, rfl⟩ := kinds?_cons.mp h
    simp [ih hks]

theorem kind?_named_eq_some {args : List Term} :
    kind? placeholders (apply false name args) = some k ↔
      ∃ ks, kinds? placeholders args = some ks ∧ namedKind? placeholders name ks = some k := by
  rw [kind?_named, Option.bind_eq_bind, Option.bind_eq_some_iff]

theorem kind?_reference_eq_some {args : List Term}
    (h : kind? placeholders (apply true name args) = some k) :
    ∃ ks, kinds? placeholders args = some ks ∧ k = .forward name ks := by
  unfold kind? at h
  split at h
  · obtain ⟨ks, hks, rfl⟩ := Option.map_eq_some_iff.mp h
    exact ⟨ks, hks, rfl⟩
  · cases h

/-- The parts of arguments are parts of what a name means with them. -/
theorem subset_parts_of_namedKind? (h : namedKind? placeholders name args = some k) :
    Kind.partsOfAll args ⊆ k.parts := by
  cases args with
  | nil => exact List.nil_subset _
  | cons arg args =>
    rcases appliedKind?_cases h with ⟨item, heq, _, rfl | rfl⟩ | ⟨_, rfl⟩ | ⟨_, _, rfl⟩
    · rw [heq]
      simp [Kind.partsOfAll, Kind.parts]
    · rw [heq]
      simp [Kind.partsOfAll, Kind.parts, Kind.optional]
    · exact List.subset_cons_self _ _
    · exact List.subset_cons_self _ _

/-- A record among the parts is the whole, or within an argument. -/
theorem eq_or_mem_of_namedKind? {n : String} {as : List Kind}
    (h : namedKind? placeholders name args = some k) (hpart : .record n as ∈ k.parts) :
    k = .record n as ∨ .record n as ∈ Kind.partsOfAll args := by
  cases args with
  | nil =>
    rcases bareKind?_cases h with ⟨_, rfl⟩ | ⟨_, rfl⟩ | ⟨v, _, rfl⟩ | ⟨_, _, rfl⟩
    all_goals exact .inl (List.mem_singleton.mp hpart).symm
  | cons arg args =>
    rcases appliedKind?_cases h with ⟨item, heq, _, rfl | rfl⟩ | ⟨_, rfl⟩ | ⟨_, _, rfl⟩
    · rw [heq]
      simpa [Kind.partsOfAll, Kind.parts] using hpart
    · rw [heq]
      simpa [Kind.partsOfAll, Kind.parts, Kind.optional] using hpart
    all_goals
      rcases List.mem_cons.mp hpart with heq | hwithin
      · exact .inl heq.symm
      · exact .inr hwithin

theorem namedKind?_record {n : String} {as : List Kind}
    (h : namedKind? placeholders name args = some (.record n as)) : n = name ∧ as = args := by
  cases args with
  | nil =>
    rcases bareKind?_cases h with ⟨_, hk⟩ | ⟨_, hk⟩ | ⟨v, _, hk⟩ | ⟨_, _, hk⟩
    all_goals cases hk
    exact ⟨rfl, rfl⟩
  | cons arg args =>
    rcases appliedKind?_cases h with ⟨item, _, _, hk | hk⟩ | ⟨_, hk⟩ | ⟨_, _, hk⟩
    all_goals cases hk
    exact ⟨rfl, rfl⟩

mutual

/-- What a part of a term means is a part of what the term means. -/
theorem kind?_part : (t : Term) → {part : Term} → {k : Kind} → kind? placeholders t = some k →
    part ∈ t.parts → ∃ j ∈ k.parts, kind? placeholders part = some j
  | apply quoted name args, part, k, h, hpart => by
    rcases List.mem_cons.mp hpart with rfl | hwithin
    · have hself : k.Throughout (· ∈ k.parts) := fun _ hmem => hmem
      exact ⟨k, hself.self, h⟩
    · cases quoted with
      | true =>
        obtain ⟨ks, hks, rfl⟩ := kind?_reference_eq_some h
        obtain ⟨j, hj, hmeans⟩ := kinds?_part args hks hwithin
        exact ⟨j, List.mem_cons_of_mem _ hj, hmeans⟩
      | false =>
        obtain ⟨ks, hks, hnamed⟩ := kind?_named_eq_some.mp h
        obtain ⟨j, hj, hmeans⟩ := kinds?_part args hks hwithin
        exact ⟨j, subset_parts_of_namedKind? hnamed hj, hmeans⟩

theorem kinds?_part : (ts : List Term) → {part : Term} → {ks : List Kind} →
    kinds? placeholders ts = some ks → part ∈ partsOfAll ts →
    ∃ j ∈ Kind.partsOfAll ks, kind? placeholders part = some j
  | [], _, _, _, hpart => absurd hpart List.not_mem_nil
  | t :: ts, part, ks, h, hpart => by
    obtain ⟨k, ks, hk, hks, rfl⟩ := kinds?_cons.mp h
    rcases List.mem_append.mp hpart with hpart | hpart
    · obtain ⟨j, hj, hmeans⟩ := kind?_part t hk hpart
      exact ⟨j, List.mem_append_left _ hj, hmeans⟩
    · obtain ⟨j, hj, hmeans⟩ := kinds?_part ts hks hpart
      exact ⟨j, List.mem_append_right _ hj, hmeans⟩

end

mutual

/-- Each record within what a term means is what some part of the term means. -/
theorem record_part : (t : Term) → {k : Kind} → {n : String} → {as : List Kind} →
    kind? placeholders t = some k → .record n as ∈ k.parts →
    ∃ part ∈ t.parts, kind? placeholders part = some (.record n as)
  | apply true name args, k, n, as, h, hpart => by
    obtain ⟨ks, hks, rfl⟩ := kind?_reference_eq_some h
    have hwithin : .record n as ∈ Kind.partsOfAll ks := by
      rcases List.mem_cons.mp hpart with heq | hwithin
      · cases heq
      · exact hwithin
    obtain ⟨part, hmem, hmeans⟩ := record_parts args hks hwithin
    exact ⟨part, List.mem_cons_of_mem _ hmem, hmeans⟩
  | apply false name args, k, n, as, h, hpart => by
    obtain ⟨ks, hks, hnamed⟩ := kind?_named_eq_some.mp h
    rcases eq_or_mem_of_namedKind? hnamed hpart with rfl | hwithin
    · exact ⟨_, List.mem_cons_self, h⟩
    · obtain ⟨part, hmem, hmeans⟩ := record_parts args hks hwithin
      exact ⟨part, List.mem_cons_of_mem _ hmem, hmeans⟩

theorem record_parts : (ts : List Term) → {ks : List Kind} → {n : String} → {as : List Kind} →
    kinds? placeholders ts = some ks → .record n as ∈ Kind.partsOfAll ks →
    ∃ part ∈ partsOfAll ts, kind? placeholders part = some (.record n as)
  | [], ks, _, _, h, hpart => by
    cases h
    exact absurd hpart List.not_mem_nil
  | t :: ts, ks, n, as, h, hpart => by
    obtain ⟨k, ks, hk, hks, rfl⟩ := kinds?_cons.mp h
    rcases List.mem_append.mp hpart with hpart | hpart
    · obtain ⟨part, hmem, hmeans⟩ := record_part t hk hpart
      exact ⟨part, List.mem_append_left _ hmem, hmeans⟩
    · obtain ⟨part, hmem, hmeans⟩ := record_parts ts hks hpart
      exact ⟨part, List.mem_append_right _ hmem, hmeans⟩

end

/-- A term that gives such a name what it does not take means nothing, or a record. -/
theorem record_of_misapplies {t : Term} (h : t.Misapplies placeholders)
    (hmeans : kind? placeholders t = some k) :
    t.PassesForShape ∧ ∃ name args, HasMeaning name ∧ k = .record name args := by
  obtain ⟨quoted, name, args⟩ := t
  cases quoted with
  | true => exact h.elim
  | false =>
    obtain ⟨hmeaning, htakes, hbare⟩ := h
    obtain ⟨ks, hks, hnamed⟩ := kind?_named_eq_some.mp hmeans
    have hlength := kinds?_length hks
    have hnil : ks = [] → args = [] := by
      rintro rfl
      exact List.length_eq_zero_iff.mp hlength.symm
    rcases takes_of_namedKind? hmeaning hnamed with htaken | ⟨hempty, hknown⟩ | rfl
    · rw [hlength] at htaken
      exact absurd htaken htakes
    · exact absurd ⟨hnil hempty, hknown⟩ hbare
    · have hoverlooked := overlooked_of_namedKind? hmeaning hnamed
      rw [hlength] at hoverlooked
      exact ⟨hoverlooked, name, ks, hmeaning, rfl⟩

/-- A term that means a record of such a name gives it arguments. -/
theorem passes_of_record {t : Term} {n : String} {as : List Kind} (hmeaning : HasMeaning n)
    (hmeans : kind? placeholders t = some (.record n as)) : t.PassesForShape := by
  obtain ⟨quoted, name, args⟩ := t
  cases quoted with
  | true =>
    obtain ⟨ks, _, hk⟩ := kind?_reference_eq_some hmeans
    cases hk
  | false =>
    obtain ⟨ks, hks, hnamed⟩ := kind?_named_eq_some.mp hmeans
    obtain ⟨rfl, rfl⟩ := namedKind?_record hnamed
    have hoverlooked := overlooked_of_namedKind? hmeaning hnamed
    rwa [kinds?_length hks] at hoverlooked

end Term

namespace Kind

open Term

theorem exists_term_of_parse {text : String} {placeholders : List String} {k : Kind}
    (h : parse text placeholders = .ok k) :
    ∃ t, Reads text.toList t.tokens [] ∧ kind? placeholders t = some k := by
  obtain ⟨ts, hts, hderives⟩ := parse_eq_ok_iff.mp h
  obtain ⟨t, rfl, hmeans⟩ := hderives.term
  exact ⟨t, hts, hmeans⟩

/-- The text is refused if it gives arguments to a builtin that the reader does not look for. -/
def Guarded (placeholders : List String) (text : String) : Prop :=
  ∀ t : Term, Reads text.toList t.tokens [] → (∃ part ∈ t.parts, part.PassesForShape) →
    parse text placeholders = .error (.unsupportedKind text)

/-- Builtins and the makers of kinds name no records, and are refused with arguments that they do not
take, unless a text gives a builtin arguments that the reader does not look for, and is not refused. -/
theorem parse_reserves_names_iff (text : String) (placeholders : List String) :
    ((∀ k, parse text placeholders = .ok k →
        ∀ name args, record name args ∈ k.parts → ¬HasMeaning name) ↔ Guarded placeholders text) ∧
      ((∀ t : Term, Reads text.toList t.tokens [] → (∃ part ∈ t.parts, part.Misapplies placeholders) →
        parse text placeholders = .error (.unsupportedKind text)) ↔ Guarded placeholders text) := by
  refine ⟨⟨?_, ?_⟩, ⟨?_, ?_⟩⟩
  · intro hnone t ht ⟨part, hpart, hpasses⟩
    rcases parse_cases text placeholders with ⟨k, hk⟩ | herror
    · have hmeans := (parse_eq_ok_iff_of_reads ht).mp hk
      obtain ⟨j, hj, hmeans⟩ := kind?_part t hmeans hpart
      obtain ⟨_, name, args, hmeaning, rfl⟩ := record_of_misapplies hpasses.misapplies hmeans
      exact absurd hmeaning (hnone k hk name args hj)
    · exact herror
  · intro hguarded k hk name args hrecord hmeaning
    obtain ⟨t, ht, hmeans⟩ := exists_term_of_parse hk
    obtain ⟨part, hpart, hmeans⟩ := record_part t hmeans hrecord
    have herror := hguarded t ht ⟨part, hpart, passes_of_record hmeaning hmeans⟩
    rw [hk] at herror
    cases herror
  · intro hrefused t ht ⟨part, hpart, hpasses⟩
    exact hrefused t ht ⟨part, hpart, hpasses.misapplies⟩
  · intro hguarded t ht ⟨part, hpart, hmisapplies⟩
    rcases parse_cases text placeholders with ⟨k, hk⟩ | herror
    · have hmeans := (parse_eq_ok_iff_of_reads ht).mp hk
      obtain ⟨j, _, hmeans⟩ := kind?_part t hmeans hpart
      exact hguarded t ht ⟨part, hpart, (record_of_misapplies hmisapplies hmeans).1⟩
    · exact herror

theorem parse_list_passes :
    parse "list[integer, string]" [] = .ok (record "list" [leaf .int, leaf .string]) ∧
      HasMeaning "list" ∧ ¬Takes "list" 2 ∧
      parse "List[integer, string]" [] = .error (.unsupportedKind "List[integer, string]") := by
  have hrecord : startsRecordName "list" = true := by
    simp [startsRecordName, Text.isAlphabetic_of_mem_latin (c := 'l') (by decide)]
  have hargs : ∀ k ∈ [leaf .int, leaf .string], k.Throughout Nameable := by
    simp [Throughout, parts, Nameable]
  have hpasses : parse "list[integer, string]" [] = .ok (record "list" [leaf .int, leaf .string]) := by
    have hshown : (record "list" [leaf .int, leaf .string]).shown = "list[integer, string]" := by
      decide +kernel
    rw [← hshown]
    have hname : namedKind? [] "list" [leaf .int, leaf .string] =
        some (record "list" [leaf .int, leaf .string]) := by
      simp [namedKind?, appliedKind?, reservedNames, hrecord]
    apply parse_shown_of_nameable
    exact throughout_record.mpr ⟨⟨writable_of_latin rfl (by decide), hname⟩, hargs⟩
  have hrefused : parse "List[integer, string]" [] =
      .error (.unsupportedKind "List[integer, string]") := by
    have hshown : (Term.apply false "List" (terms [leaf .int, leaf .string])).shown =
        "List[integer, string]" := by decide +kernel
    have hwritable := writable_named (writable_of_latin (n := "List") rfl (by decide))
      (writable_terms _ hargs)
    have hmeaning : kind? [] (.apply false "List" (terms [leaf .int, leaf .string])) = none := by
      rw [kind?_named, kinds?_terms _ hargs, Option.bind_eq_bind, Option.bind_some]
      rfl
    rcases parse_cases "List[integer, string]" [] with ⟨k, hk⟩ | herror
    · rw [← hshown, parse_shown_eq_ok_iff hwritable, hmeaning] at hk
      cases hk
    · exact herror
  exact ⟨hpasses, .inl (by decide), by simp [Takes], hrefused⟩

end Kind

end Conform
