import Conform.Proofs.Term.Grammar
/-!
Kinds read back from the text that is shown of them. A kind is shown as a term is written, whose names
stand bare or between single quotes. A kind that was read has names that can be written so, and it is
what its term means.
-/

namespace Conform

namespace Term

/-! ## The text of a term -/

mutual

/-- The term as text: references between single quotes, a comma and a blank between arguments. -/
def shown : Term → String
  | apply true name args => "'" ++ name ++ "'" ++ Kind.bracketed (shownAll args)
  | apply false name args => name ++ Kind.bracketed (shownAll args)

def shownAll : List Term → List String
  | [] => []
  | t :: ts => shown t :: shownAll ts

end

/-- The token is written by its own characters, between single quotes if it is a quoted one. -/
def Token.Writable : Token → Prop
  | .name n => Spelling (.name n) n.toList
  | .quoted n => Spelling (.quoted n) ('\'' :: (n.toList ++ ['\'']))
  | .opening | .closing | .comma => True

def Writable (t : Term) : Prop := ∀ token ∈ t.tokens, token.Writable

theorem toList_bracketed_cons (s : String) (ss : List String) :
    (Kind.bracketed (s :: ss)).toList = '[' :: (s.toList ++ Text.listed ']' ss) := by
  have hnonempty : (s :: ss).isEmpty = false := rfl
  rw [Kind.bracketed, hnonempty, if_neg (by decide), String.toList_append, String.toList_append,
    List.append_assoc]
  exact congrArg ('[' :: ·) (Text.toList_intercalate_append ']' (s :: ss))

/-- Reading goes on where it stopped. -/
theorem Reads.append {cs mid rest : List Char} {ts ts' : List Token} (h : Reads cs ts mid)
    (h' : Reads mid ts' rest) : Reads cs (ts ++ ts') rest := by
  induction h with
  | done => exact h'
  | blank hblank _ ih => exact .blank hblank (ih h')
  | token hspelt hends _ ih => exact .token hspelt hends (ih h')

theorem continuesName_eq_false_of_mem_marks {c : Char} (h : c ∈ ['[', ']', ',']) :
    continuesName c = false := by
  have hmem : c ∈ Text.punctuation ∧ c ≠ '.' := by
    simp only [List.mem_cons, List.not_mem_nil, or_false] at h
    rcases h with rfl | rfl | rfl <;> decide
  simp [continuesName, startsName_eq_false_of_mem_punctuation hmem.1, hmem.2]

theorem continuesName_head?_listed (ss : List String) (rest : List Char) :
    ∀ x ∈ (Text.listed ']' ss ++ rest).head?, continuesName x = false := by
  intro x hx
  apply continuesName_eq_false_of_mem_marks
  cases ss <;> (cases hx; decide)

mutual

/-- A term is read off the front of a text that begins as the term is written. -/
theorem reads_shown : (t : Term) → {rest : List Char} → t.Writable →
    (∀ x ∈ rest.head?, continuesName x = false) → Reads (t.shown.toList ++ rest) t.tokens rest
  | apply true name args, rest, hwritable, hrest => by
    have hname : Token.Writable (.quoted name) := hwritable _ (by simp [tokens])
    have hargs := reads_bracketed args (fun token h => hwritable token (by simp [tokens, h])) hrest
    have htext : (apply true name args).shown.toList ++ rest =
        ('\'' :: (name.toList ++ ['\''])) ++ ((Kind.bracketed (shownAll args)).toList ++ rest) := by
      simp [shown]
    rw [htext, tokens]
    exact .token hname (Token.quoted_endsBefore _ _) hargs
  | apply false name args, rest, hwritable, hrest => by
    have hname : Token.Writable (.name name) := hwritable _ (by simp [tokens])
    have hargs := reads_bracketed args (fun token h => hwritable token (by simp [tokens, h])) hrest
    have hends : (Token.name name).EndsBefore ((Kind.bracketed (shownAll args)).toList ++ rest) := by
      intro _ _ x hx
      cases args with
      | nil => exact hrest x hx
      | cons first others =>
        rw [shownAll, toList_bracketed_cons] at hx
        cases hx
        exact continuesName_eq_false_of_mem_marks (by decide)
    rw [shown, String.toList_append, List.append_assoc, tokens]
    exact .token hname hends hargs

theorem reads_bracketed : (args : List Term) → {rest : List Char} →
    (∀ token ∈ argTokens args, token.Writable) → (∀ x ∈ rest.head?, continuesName x = false) →
    Reads ((Kind.bracketed (shownAll args)).toList ++ rest) (argTokens args) rest
  | [], rest, _, _ => .done rest
  | first :: others, rest, hwritable, _ => by
    have hfirst := reads_shown first (fun token h => hwritable token (by simp [argTokens, h]))
      (continuesName_head?_listed (shownAll others) rest)
    have hothers := @reads_more others rest fun token h => hwritable token (by simp [argTokens, h])
    rw [shownAll, toList_bracketed_cons, argTokens, List.cons_append, List.append_assoc]
    exact .token .opening (Token.opening_endsBefore _) (hfirst.append hothers)

theorem reads_more : (others : List Term) → {rest : List Char} →
    (∀ token ∈ moreTokens others, token.Writable) →
    Reads (Text.listed ']' (shownAll others) ++ rest) (moreTokens others) rest
  | [], rest, _ => .token .closing (Token.closing_endsBefore _) (.done rest)
  | next :: others, rest, hwritable => by
    have hnext := reads_shown next (fun token h => hwritable token (by simp [moreTokens, h]))
      (continuesName_head?_listed (shownAll others) rest)
    have hothers := @reads_more others rest fun token h => hwritable token (by simp [moreTokens, h])
    have hblank : Text.isBlank ' ' = true := by decide +kernel
    rw [shownAll, Text.listed, moreTokens, List.cons_append, List.cons_append, List.append_assoc]
    exact .token .comma (Token.comma_endsBefore _) (.blank hblank (hnext.append hothers))

end

theorem tokens?_shown {t : Term} (h : t.Writable) :
    tokens? t.shown.toList = some t.tokens := by
  have hreads := @reads_shown t [] h (by simp)
  rw [List.append_nil] at hreads
  exact tokens?_eq_some_iff.mpr hreads

/-- Each token of a text is written in some way. -/
theorem Reads.spelling {cs rest : List Char} {ts : List Token} (h : Reads cs ts rest) :
    ∀ t ∈ ts, ∃ spelt, Spelling t spelt := by
  induction h with
  | done => exact List.forall_mem_nil _
  | blank _ _ ih => exact ih
  | token hspelt _ _ ih => exact List.forall_mem_cons.mpr ⟨⟨_, hspelt⟩, ih⟩

/-- A name is written in no other way than by its characters. -/
theorem Spelling.writable_name {n : String} {spelt : List Char} (h : Spelling (.name n) spelt) :
    Token.Writable (.name n) := by
  cases h with
  | @name c cs hstarts hcontinues =>
    show Spelling _ (String.ofList (c :: cs)).toList
    rw [String.toList_ofList]
    exact .name hstarts hcontinues

theorem trim_eq_self {cs : List Char} (h : ∀ c ∈ cs, Text.isBlank c = false) : Text.trim cs = cs := by
  have hdrop : ∀ ds : List Char, (∀ c ∈ ds, Text.isBlank c = false) →
      ds.dropWhile Text.isBlank = ds := by
    intro ds hds
    cases ds with
    | nil => rfl
    | cons d ds => rw [List.dropWhile_cons_of_neg (by simp [hds d])]
  rw [Text.trim, hdrop cs h, hdrop cs.reverse (by simpa using h), List.reverse_reverse]

/-- The characters of a reference are neither blanks nor quotes. -/
theorem writable_quoted {n : String} (h : isReference n = true) : Token.Writable (.quoted n) := by
  have hcontinues : ∀ c ∈ n.toList, continuesName c = true :=
    List.all_eq_true.mp (Bool.and_eq_true_iff.mp h).2
  have hblank : ∀ c ∈ n.toList, Text.isBlank c = false := by
    intro c hc
    rw [Bool.eq_false_iff]
    intro hblank
    cases (continuesName_eq_false_of_isBlank hblank).symm.trans (hcontinues c hc)
  have hquote : '\'' ∉ n.toList := by
    intro hc
    have hnot := startsName_eq_false_of_mem_punctuation (c := '\'') (by decide)
    have hyes := hcontinues '\'' hc
    simp [continuesName, hnot] at hyes
  have hspelt := Spelling.quoted (q := '\'') (.inl rfl) hquote
  rwa [trim_eq_self hblank, String.ofList_toList] at hspelt

theorem startsName_of_mem_latin {c : Char} (h : c ∈ Text.latin) : startsName c = true := by
  simp [startsName, Text.isAlphanumeric, Text.isAlphabetic_of_mem_latin h]

theorem continuesName_of_mem_latin {c : Char} (h : c ∈ Text.latin) : continuesName c = true := by
  simp [continuesName, startsName_of_mem_latin h]

theorem writable_of_latin {n : String} {c : Char} {cs : List Char} (hn : n.toList = c :: cs)
    (hlatin : c :: cs ⊆ Text.latin) : Token.Writable (.name n) := by
  have hstarts : startsName c = true := startsName_of_mem_latin (hlatin List.mem_cons_self)
  have hcontinues : ∀ x ∈ cs, continuesName x = true := fun x hx =>
    continuesName_of_mem_latin (hlatin (List.mem_cons_of_mem c hx))
  have hspelt := Spelling.name hstarts hcontinues
  rw [← hn, String.ofList_toList] at hspelt
  exact hspelt

theorem writable_argTokens {args : List Term} (h : ∀ t ∈ args, t.Writable) :
    ∀ token ∈ argTokens args, token.Writable := by
  have hmore : ∀ others : List Term, (∀ t ∈ others, t.Writable) →
      ∀ token ∈ moreTokens others, token.Writable := by
    intro others
    induction others with
    | nil => exact fun _ => List.forall_mem_singleton.mpr trivial
    | cons next others ih =>
      intro h
      obtain ⟨hnext, hothers⟩ := List.forall_mem_cons.mp h
      exact List.forall_mem_cons.mpr ⟨trivial, List.forall_mem_append.mpr ⟨hnext, ih hothers⟩⟩
  cases args with
  | nil => exact List.forall_mem_nil _
  | cons first others =>
    obtain ⟨hfirst, hothers⟩ := List.forall_mem_cons.mp h
    exact List.forall_mem_cons.mpr
      ⟨trivial, List.forall_mem_append.mpr ⟨hfirst, hmore others hothers⟩⟩

theorem writable_named {name : String} {args : List Term} (hname : Token.Writable (.name name))
    (hargs : ∀ t ∈ args, t.Writable) : Writable (apply false name args) :=
  List.forall_mem_cons.mpr ⟨hname, writable_argTokens hargs⟩

theorem writable_reference {name : String} {args : List Term} (hname : isReference name = true)
    (hargs : ∀ t ∈ args, t.Writable) : Writable (apply true name args) :=
  List.forall_mem_cons.mpr ⟨writable_quoted hname, writable_argTokens hargs⟩

end Term

namespace Kind

open Term

/-- A text of the tokens of a term is read as what the term means. -/
theorem parse_eq_ok_iff_of_reads {placeholders : List String} {text : String} {t : Term} {k : Kind}
    (h : Reads text.toList t.tokens []) :
    parse text placeholders = .ok k ↔ kind? placeholders t = some k := by
  have hread : tokens? text.toList >>= ofTokens? = some t := by
    rw [tokens?_eq_some_iff.mpr h]
    exact ofTokens?_eq_some_iff.mpr rfl
  have hmeaning : tokens? text.toList >>= ofTokens? >>= kind? placeholders = kind? placeholders t := by
    rw [hread]
    rfl
  rw [parse, hmeaning]
  cases kind? placeholders t with
  | none => simp
  | some found => rw [Except.ok.injEq, Option.some.injEq]

/-! ## The term of a kind -/

mutual

/-- The term that the kind is shown as. -/
def term : Kind → Term
  | leaf v => .apply false v.name []
  | nothing => .apply false "None" []
  | record name args => .apply false name (terms args)
  | forward name args => .apply true name (terms args)
  | list item => .apply false "List" [term item]
  | union ks => .apply false "Union" (terms ks)
  | placeholder p => .apply false ("~" ++ p) []

def terms : List Kind → List Term
  | [] => []
  | k :: ks => term k :: terms ks

end

mutual

theorem shown_term : (k : Kind) → k.term.shown = k.shown
  | leaf _ | nothing | placeholder _ => by simp [term, Term.shown, Term.shownAll, shown, bracketed]
  | record name args => by rw [term, Term.shown, shown, shownAll_terms args]
  | forward name args => by rw [term, Term.shown, shown, shownAll_terms args]
  | list item => by
    have hbracketed : bracketed [item.shown] = "[" ++ item.shown ++ "]" := by simp [bracketed]
    rw [term, Term.shown, Term.shownAll, Term.shownAll, shown_term item, hbracketed,
      ← String.append_assoc, ← String.append_assoc, shown]
    rfl
  | union ks => by rw [term, Term.shown, shown, shownAll_terms ks]

theorem shownAll_terms : (ks : List Kind) → Term.shownAll (terms ks) = shownAll ks
  | [] => rfl
  | k :: ks => by rw [terms, Term.shownAll, shownAll, shown_term k, shownAll_terms ks]

end

/-! ## Kinds that have a text -/

/-- What a kind needs, its parts apart, to have a text: it is no placeholder, and its name can be written
and means it. -/
def Nameable : Kind → Prop
  | leaf _ | nothing | list _ => True
  | record name args =>
    Token.Writable (.name name) ∧ namedKind? [] name args = some (record name args)
  | forward name _ => isReference name = true
  | union ks => ks ≠ []
  | placeholder _ => False

theorem writable_leaf (v : ValueKind) : Token.Writable (.name v.name) := by
  cases v <;> exact writable_of_latin rfl (by decide)

mutual

theorem writable_term : (k : Kind) → k.Throughout Nameable → k.term.Writable
  | leaf v, _ => writable_named (writable_leaf v) (List.forall_mem_nil _)
  | nothing, _ => writable_named (writable_of_latin rfl (by decide)) (List.forall_mem_nil _)
  | record name args, h => by
    obtain ⟨hself, hargs⟩ := throughout_record.mp h
    exact writable_named hself.1 (writable_terms args hargs)
  | forward name args, h => by
    obtain ⟨hself, hargs⟩ := throughout_forward.mp h
    exact writable_reference hself (writable_terms args hargs)
  | list item, h => by
    have hitem := writable_term item (throughout_list.mp h).2
    exact writable_named (writable_of_latin rfl (by decide)) (List.forall_mem_singleton.mpr hitem)
  | union ks, h => by
    have hks := writable_terms ks (throughout_union.mp h).2
    exact writable_named (writable_of_latin rfl (by decide)) hks
  | placeholder _, h => h.self.elim

theorem writable_terms : (ks : List Kind) → (∀ k ∈ ks, k.Throughout Nameable) →
    ∀ t ∈ terms ks, t.Writable
  | [], _ => List.forall_mem_nil _
  | k :: ks, h => by
    obtain ⟨hk, hks⟩ := List.forall_mem_cons.mp h
    exact List.forall_mem_cons.mpr ⟨writable_term k hk, writable_terms ks hks⟩

end

mutual

/-- The term of a kind means the kind. -/
theorem kind?_term : (k : Kind) → k.Throughout Nameable → kind? [] k.term = some k
  | leaf v, _ => by cases v <;> rfl
  | nothing, _ => rfl
  | record name args, h => by
    obtain ⟨hself, hargs⟩ := throughout_record.mp h
    rw [term, kind?_named, kinds?_terms args hargs]
    exact hself.2
  | forward name args, h => by
    obtain ⟨hself, hargs⟩ := throughout_forward.mp h
    have hname : isReference name = true := hself
    rw [term, kind?, if_pos hname, kinds?_terms args hargs]
    rfl
  | list item, h => by
    have hitem := kind?_term item (throughout_list.mp h).2
    have hitems : kinds? [] [item.term] = some [item] := kinds?_cons.mpr ⟨item, [], hitem, rfl, rfl⟩
    rw [term, kind?_named, hitems]
    rfl
  | union ks, h => by
    obtain ⟨hself, hks⟩ := throughout_union.mp h
    rw [term, kind?_named, kinds?_terms ks hks]
    cases ks with
    | nil => exact absurd rfl hself
    | cons k ks => cases ks <;> rfl
  | placeholder _, h => h.self.elim

theorem kinds?_terms : (ks : List Kind) → (∀ k ∈ ks, k.Throughout Nameable) →
    kinds? [] (terms ks) = some ks
  | [], _ => rfl
  | k :: ks, h => by
    obtain ⟨hk, hks⟩ := List.forall_mem_cons.mp h
    exact kinds?_cons.mpr ⟨k, ks, kind?_term k hk, kinds?_terms ks hks, rfl⟩

end

theorem parse_shown_eq_ok_iff {placeholders : List String} {t : Term} {k : Kind} (h : t.Writable) :
    parse t.shown placeholders = .ok k ↔ kind? placeholders t = some k := by
  apply parse_eq_ok_iff_of_reads
  exact tokens?_eq_some_iff.mp (tokens?_shown h)

theorem parse_shown_of_nameable {k : Kind} (h : k.Throughout Nameable) :
    parse k.shown [] = .ok k := by
  rw [← shown_term k]
  exact (parse_shown_eq_ok_iff (writable_term k h)).mpr (kind?_term k h)

/-! ## Kinds that were read -/

variable {placeholders : List String} {ts : List Token} {name : String} {args : List Kind} {k : Kind}

/-- What parses, and is no placeholder, can be named. -/
def Legible (k : Kind) : Prop := k.Throughout fun part => (∀ p, part ≠ placeholder p) → part.Nameable

theorem bareKind?_of_record (h : bareKind? placeholders name = some (record name args)) :
    bareKind? [] name = some (record name args) := by
  unfold bareKind? at h ⊢
  split at h
  · cases h
  next hnothing =>
    split at h
    · cases h
    rw [if_neg hnothing, List.contains_nil, if_neg Bool.false_ne_true]
    exact h

theorem legible_namedKind? (hname : Token.Writable (.name name)) (hargs : ∀ arg ∈ args, Legible arg)
    (h : namedKind? placeholders name args = some k) : Legible k := by
  cases args with
  | nil =>
    rcases bareKind?_cases h with ⟨_, rfl⟩ | ⟨_, rfl⟩ | ⟨v, _, rfl⟩ | ⟨_, _, rfl⟩
    · exact List.forall_mem_singleton.mpr fun _ => trivial
    · exact List.forall_mem_singleton.mpr fun hnone => absurd rfl (hnone name)
    · exact List.forall_mem_singleton.mpr fun _ => trivial
    · exact throughout_record.mpr ⟨fun _ => ⟨hname, bareKind?_of_record h⟩, hargs⟩
  | cons arg args =>
    rcases appliedKind?_cases h with ⟨item, heq, _, rfl | rfl⟩ | ⟨_, rfl⟩ | ⟨_, _, rfl⟩
    · exact throughout_list.mpr ⟨fun _ => trivial, hargs item (by simp [heq])⟩
    · have hnothing : Legible nothing := List.forall_mem_singleton.mpr fun _ => trivial
      exact throughout_union.mpr ⟨fun _ => List.cons_ne_nil _ _, List.forall_mem_cons.mpr
        ⟨hargs item (by simp [heq]), List.forall_mem_singleton.mpr hnothing⟩⟩
    · exact throughout_union.mpr ⟨fun _ => List.cons_ne_nil _ _, hargs⟩
    · exact throughout_record.mpr ⟨fun _ => ⟨hname, h⟩, hargs⟩

mutual

theorem legible_of_derives {ts : List Token} {k : Kind} : Derives placeholders ts k →
    (∀ t ∈ ts, ∃ spelt, Spelling t spelt) → Legible k
  | .quoted hname hargs, hts => by
    have hargs' := legible_of_derivesArgs hargs (List.forall_mem_cons.mp hts).2
    exact throughout_forward.mpr ⟨fun _ => hname, hargs'⟩
  | .named hargs hnamed, hts => by
    obtain ⟨⟨_, hspelt⟩, hrest⟩ := List.forall_mem_cons.mp hts
    exact legible_namedKind? hspelt.writable_name (legible_of_derivesArgs hargs hrest) hnamed

theorem legible_of_derivesArgs {ts : List Token} {ks : List Kind} : DerivesArgs placeholders ts ks →
    (∀ t ∈ ts, ∃ spelt, Spelling t spelt) → ∀ k ∈ ks, Legible k
  | .none, _ => List.forall_mem_nil _
  | .bracketed hmany, hts => by
    have hbetween := (List.forall_mem_append.mp (List.forall_mem_cons.mp hts).2).1
    exact legible_of_derivesMany hmany hbetween

theorem legible_of_derivesMany {ts : List Token} {ks : List Kind} : DerivesMany placeholders ts ks →
    (∀ t ∈ ts, ∃ spelt, Spelling t spelt) → ∀ k ∈ ks, Legible k
  | .one hk, hts => List.forall_mem_singleton.mpr (legible_of_derives hk hts)
  | .more hk hmany, hts => by
    obtain ⟨hfirst, hothers⟩ := List.forall_mem_append.mp hts
    exact List.forall_mem_cons.mpr ⟨legible_of_derives hk hfirst,
      legible_of_derivesMany hmany (List.forall_mem_cons.mp hothers).2⟩

end

theorem legible_of_parse {text : String} (h : parse text placeholders = .ok k) : Legible k := by
  obtain ⟨ts, hts, hderives⟩ := parse_eq_ok_iff.mp h
  exact legible_of_derives hderives hts.spelling

/-- A kind that was read, and has no placeholders, is read back from the text that is shown of it. -/
theorem parse_shown {text : String} (h : parse text placeholders = .ok k)
    (hfree : ∀ p, placeholder p ∉ k.parts) : parse k.shown [] = .ok k := by
  apply parse_shown_of_nameable
  intro part hpart
  apply legible_of_parse h part hpart
  rintro p rfl
  exact hfree p hpart

def pairTerm : Term :=
  .apply false "Optional" [.apply false "Pair" [.apply false "str" [], .apply true "Node" []]]

def pairKind : Kind := optional (record "Pair" [leaf .string, forward "Node" []])

theorem parse_shown_pair :
    parse "Optional[Pair[str, 'Node']]" ["T"] = .ok pairKind ∧
      (∀ p, placeholder p ∉ pairKind.parts) ∧
      parse "Union[Pair[string, 'Node'], None]" [] = .ok pairKind := by
  have hreference : isReference "Node" = true := by
    have hlatin : ['N', 'o', 'd', 'e'] ⊆ Text.latin := by decide
    have hletters : ∀ c ∈ ['N', 'o', 'd', 'e'], continuesName c = true := fun c hc =>
      continuesName_of_mem_latin (hlatin hc)
    exact Bool.and_eq_true_iff.mpr ⟨rfl, List.all_eq_true.mpr hletters⟩
  have hwritable : pairTerm.Writable := by
    have hstr : Writable (.apply false "str" []) :=
      writable_named (writable_of_latin rfl (by decide)) (List.forall_mem_nil _)
    have hnode : Writable (.apply true "Node" []) :=
      writable_reference hreference (List.forall_mem_nil _)
    have hpair : Writable (.apply false "Pair" [.apply false "str" [], .apply true "Node" []]) :=
      writable_named (writable_of_latin rfl (by decide))
        (List.forall_mem_cons.mpr ⟨hstr, List.forall_mem_singleton.mpr hnode⟩)
    exact writable_named (writable_of_latin rfl (by decide)) (List.forall_mem_singleton.mpr hpair)
  have hmeans : kind? ["T"] pairTerm = some pairKind := by
    have hrecord : startsRecordName "Pair" = true := by
      simp [startsRecordName, Text.isAlphabetic_of_mem_latin (c := 'P') (by decide)]
    have hnode : kind? ["T"] (.apply true "Node" []) = some (forward "Node" []) := by
      rw [kind?, if_pos hreference]
      rfl
    have hargs : kinds? ["T"] [.apply false "str" [], .apply true "Node" []] =
        some [leaf .string, forward "Node" []] := by
      have hstr : kind? ["T"] (.apply false "str" []) = some (leaf .string) := rfl
      exact kinds?_cons.mpr ⟨_, _, hstr, kinds?_cons.mpr ⟨_, [], hnode, rfl, rfl⟩, rfl⟩
    have hpair : kind? ["T"] (.apply false "Pair" [.apply false "str" [], .apply true "Node" []]) =
        some (record "Pair" [leaf .string, forward "Node" []]) := by
      rw [kind?_named, hargs, Option.bind_eq_bind, Option.bind_some]
      simp [namedKind?, appliedKind?, reservedNames, hrecord]
    rw [pairTerm, kind?_named, kinds?_cons.mpr ⟨_, [], hpair, rfl, rfl⟩]
    rfl
  have hread : parse "Optional[Pair[str, 'Node']]" ["T"] = .ok pairKind := by
    have hshown : pairTerm.shown = "Optional[Pair[str, 'Node']]" := by decide +kernel
    rw [← hshown]
    exact (parse_shown_eq_ok_iff hwritable).mpr hmeans
  have hfree : ∀ p, placeholder p ∉ pairKind.parts := by
    simp [pairKind, optional, parts, partsOfAll]
  have hback : pairKind.shown = "Union[Pair[string, 'Node'], None]" := by decide +kernel
  refine ⟨hread, hfree, ?_⟩
  rw [← hback]
  exact parse_shown hread hfree

end Kind

end Conform
