import Conform.Proofs.Kind.Throughout
import Conform.Proofs.Term.Token
/-!
The grammar of kinds. A kind is a name, or a name between quotes, with arguments in brackets if it has
any. Reading finds the kind that a text derives, and there is none to find where it fails.
-/

namespace Conform

namespace Term

/-! ## The tokens of a term -/

mutual

/-- A term as it is written. -/
def tokens : Term → List Token
  | apply true name args => .quoted name :: argTokens args
  | apply false name args => .name name :: argTokens args

def argTokens : List Term → List Token
  | [] => []
  | first :: others => .opening :: (tokens first ++ moreTokens others)

/-- The arguments after the first, with the bracket that closes. -/
def moreTokens : List Term → List Token
  | [] => [.closing]
  | next :: others => .comma :: (tokens next ++ moreTokens others)

end

theorem head?_moreTokens (others : List Term) (rest : List Token) :
    (moreTokens others ++ rest).head? ≠ some .opening := by
  cases others <;> simp [moreTokens]

mutual

/-- A term that is written is read, up to tokens that are not its arguments. -/
theorem readTerm_tokens : (t : Term) → {ts rest : List Token} → ts = t.tokens ++ rest →
    rest.head? ≠ some .opening → ∃ h, readTerm ts = some (t, ⟨rest, h⟩)
  | apply quoted name args, ts, rest, hts, hrest => by
    obtain ⟨hshort, hargs⟩ := readArgs_tokens args rfl hrest
    cases quoted <;>
    · rw [tokens, List.cons_append] at hts
      subst hts
      refine ⟨Nat.lt_succ_of_le hshort, ?_⟩
      rw [readTerm, hargs]

theorem readArgs_tokens : (args : List Term) → {ts rest : List Token} → ts = argTokens args ++ rest →
    rest.head? ≠ some .opening → ∃ h, readArgs ts = some (args, ⟨rest, h⟩)
  | [], ts, rest, hts, hrest => by
    obtain rfl : ts = rest := hts
    refine ⟨Nat.le_refl _, ?_⟩
    rw [readArgs]
    rintro ts rfl
    exact hrest rfl
  | first :: others, ts, rest, hts, _ => by
    obtain ⟨hshort, hfirst⟩ := readTerm_tokens first rfl (head?_moreTokens others rest)
    obtain ⟨hshorter, hothers⟩ := @readMore_tokens others _ rest rfl
    rw [argTokens, List.cons_append, List.append_assoc] at hts
    subst hts
    refine ⟨Nat.le_succ_of_le (Nat.le_of_lt (Nat.lt_trans hshorter hshort)), ?_⟩
    rw [readArgs, hfirst]
    dsimp only
    rw [hothers]

theorem readMore_tokens : (others : List Term) → {ts rest : List Token} →
    ts = moreTokens others ++ rest → ∃ h, readMore ts = some (others, ⟨rest, h⟩)
  | [], ts, rest, hts => by
    subst hts
    refine ⟨Nat.lt_succ_self _, ?_⟩
    unfold readMore
    rfl
  | next :: others, ts, rest, hts => by
    obtain ⟨hshort, hnext⟩ := readTerm_tokens next rfl (head?_moreTokens others rest)
    obtain ⟨hshorter, hothers⟩ := @readMore_tokens others _ rest rfl
    rw [moreTokens, List.cons_append, List.append_assoc] at hts
    subst hts
    refine ⟨Nat.lt_succ_of_lt (Nat.lt_trans hshorter hshort), ?_⟩
    rw [readMore, hnext]
    dsimp only
    rw [hothers]

end

mutual

theorem eq_of_readTerm : {ts rest : List Token} → {t : Term} → {h : rest.length < ts.length} →
    readTerm ts = some (t, ⟨rest, h⟩) → ts = t.tokens ++ rest
  | ts, rest, t, h, hread => by
    unfold readTerm at hread
    split at hread
    · next name ts =>
      split at hread
      · next args _ _ hargs =>
        cases hread
        rw [tokens, List.cons_append, ← eq_of_readArgs hargs]
      · cases hread
    · next name ts =>
      split at hread
      · next args _ _ hargs =>
        cases hread
        rw [tokens, List.cons_append, ← eq_of_readArgs hargs]
      · cases hread
    · cases hread
termination_by ts => ts.length
decreasing_by all_goals (subst_vars; simp only [List.length_cons]; omega)

theorem eq_of_readArgs : {ts rest : List Token} → {args : List Term} → {h : rest.length ≤ ts.length} →
    readArgs ts = some (args, ⟨rest, h⟩) → ts = argTokens args ++ rest
  | ts, rest, args, h, hread => by
    unfold readArgs at hread
    split at hread
    · next ts =>
      split at hread
      · next first middle hshort hfirst =>
        split at hread
        · next others _ _ hothers =>
          cases hread
          rw [argTokens, List.cons_append, List.append_assoc, ← eq_of_readMore hothers,
            ← eq_of_readTerm hfirst]
        · cases hread
      · cases hread
    · cases hread
      rfl
termination_by ts => ts.length
decreasing_by all_goals (subst_vars; simp only [List.length_cons]; omega)

theorem eq_of_readMore : {ts rest : List Token} → {others : List Term} →
    {h : rest.length < ts.length} → readMore ts = some (others, ⟨rest, h⟩) →
    ts = moreTokens others ++ rest
  | ts, rest, others, h, hread => by
    unfold readMore at hread
    split at hread
    · next ts =>
      split at hread
      · next next middle hshort hnext =>
        split at hread
        · next others _ _ hothers =>
          cases hread
          rw [moreTokens, List.cons_append, List.append_assoc, ← eq_of_readMore hothers,
            ← eq_of_readTerm hnext]
        · cases hread
      · cases hread
    · cases hread
      rfl
    · cases hread
termination_by ts => ts.length
decreasing_by all_goals (subst_vars; simp only [List.length_cons]; omega)

end

/-- The terms that tokens are read as are those that are written so. -/
theorem ofTokens?_eq_some_iff {ts : List Token} {t : Term} :
    ofTokens? ts = some t ↔ t.tokens = ts := by
  constructor
  · intro h
    unfold ofTokens? at h
    split at h
    · next found hread =>
      cases h
      have hts := eq_of_readTerm hread
      rw [hts, List.append_nil]
    · cases h
  · rintro rfl
    obtain ⟨h, hread⟩ := readTerm_tokens t (List.append_nil _).symm nofun
    simp [ofTokens?, hread]

/-! ## The grammar -/

/-- What a bare name means with arguments, or without any. -/
def namedKind? (placeholders : List String) (name : String) : List Kind → Option Kind
  | [] => bareKind? placeholders name
  | arg :: args => appliedKind? name (arg :: args)

mutual

/-- The tokens of a kind. -/
inductive Derives (placeholders : List String) : List Token → Kind → Prop
  | quoted {name : String} {args : List Kind} {ts : List Token} : isReference name = true →
    DerivesArgs placeholders ts args → Derives placeholders (.quoted name :: ts) (.forward name args)
  | named {name : String} {args : List Kind} {k : Kind} {ts : List Token} :
    DerivesArgs placeholders ts args → namedKind? placeholders name args = some k →
      Derives placeholders (.name name :: ts) k

/-- Arguments in brackets, or none. -/
inductive DerivesArgs (placeholders : List String) : List Token → List Kind → Prop
  | none : DerivesArgs placeholders [] []
  | bracketed {ts : List Token} {args : List Kind} : DerivesMany placeholders ts args →
    DerivesArgs placeholders (.opening :: (ts ++ [.closing])) args

/-- Kinds with commas between them, one at least. -/
inductive DerivesMany (placeholders : List String) : List Token → List Kind → Prop
  | one {ts : List Token} {k : Kind} : Derives placeholders ts k → DerivesMany placeholders ts [k]
  | more {ts ts' : List Token} {k : Kind} {ks : List Kind} : Derives placeholders ts k →
    DerivesMany placeholders ts' ks → DerivesMany placeholders (ts ++ .comma :: ts') (k :: ks)

end

section
variable {placeholders : List String}

theorem kind?_named (name : String) (args : List Term) :
    kind? placeholders (apply false name args) =
      kinds? placeholders args >>= namedKind? placeholders name := by
  cases args with
  | nil => rfl
  | cons arg args =>
    rw [kind?]
    cases hkinds : kinds? placeholders (arg :: args) with
    | none => rfl
    | some ks =>
      cases ks with
      | nil => simp [kinds?, bind, Option.bind_eq_some_iff] at hkinds
      | cons => rfl

theorem kinds?_cons {t : Term} {ts : List Term} {ks : List Kind} :
    kinds? placeholders (t :: ts) = some ks ↔ ∃ k ks', kind? placeholders t = some k ∧
      kinds? placeholders ts = some ks' ∧ ks = k :: ks' := by
  simp only [kinds?, bind, Option.bind_eq_some_iff, pure, Option.some.injEq, exists_and_left]
  simp only [eq_comm]

mutual

theorem derives_tokens : (t : Term) → {k : Kind} → kind? placeholders t = some k →
    Derives placeholders t.tokens k
  | apply true name args, k, h => by
    unfold kind? at h
    split at h
    · next hname =>
      obtain ⟨ks, hargs, rfl⟩ := Option.map_eq_some_iff.mp h
      exact .quoted hname (derives_argTokens args hargs)
    · cases h
  | apply false name args, k, h => by
    rw [kind?_named] at h
    obtain ⟨ks, hargs, hnamed⟩ := Option.bind_eq_some_iff.mp h
    exact .named (derives_argTokens args hargs) hnamed

theorem derives_argTokens : (args : List Term) → {ks : List Kind} → kinds? placeholders args = some ks →
    DerivesArgs placeholders (argTokens args) ks
  | [], ks, h => by
    cases h
    exact .none
  | first :: others, ks, h => by
    obtain ⟨k, ks, hfirst, hothers, rfl⟩ := kinds?_cons.mp h
    obtain ⟨ts, hts, hmany⟩ := derives_moreTokens others hothers (derives_tokens first hfirst)
    rw [argTokens, hts]
    exact .bracketed hmany

theorem derives_moreTokens : (others : List Term) → {k : Kind} → {ks : List Kind} → {ts : List Token} →
    kinds? placeholders others = some ks → Derives placeholders ts k →
    ∃ all, ts ++ moreTokens others = all ++ [.closing] ∧ DerivesMany placeholders all (k :: ks)
  | [], k, ks, ts, h, hk => by
    cases h
    exact ⟨ts, rfl, .one hk⟩
  | next :: others, k, ks, ts, h, hk => by
    obtain ⟨k', ks, hnext, hothers, rfl⟩ := kinds?_cons.mp h
    obtain ⟨all, hall, hmany⟩ := derives_moreTokens others hothers (derives_tokens next hnext)
    refine ⟨ts ++ .comma :: all, ?_, .more hk hmany⟩
    rw [moreTokens, hall, List.append_assoc, List.cons_append]

end

mutual

theorem Derives.term {ts : List Token} {k : Kind} : Derives placeholders ts k →
    ∃ t : Term, t.tokens = ts ∧ kind? placeholders t = some k
  | .quoted hname hargs => by
    obtain ⟨args, rfl, hkinds⟩ := hargs.terms
    refine ⟨apply true _ args, rfl, ?_⟩
    rw [kind?, if_pos hname, hkinds]
    rfl
  | .named hargs hnamed => by
    obtain ⟨args, rfl, hkinds⟩ := hargs.terms
    refine ⟨apply false _ args, rfl, ?_⟩
    rw [kind?_named, hkinds]
    exact hnamed

theorem DerivesArgs.terms {ts : List Token} {ks : List Kind} : DerivesArgs placeholders ts ks →
    ∃ args : List Term, argTokens args = ts ∧ kinds? placeholders args = some ks
  | .none => ⟨[], rfl, rfl⟩
  | .bracketed hmany => by
    obtain ⟨first, others, hts, hkinds⟩ := hmany.terms
    refine ⟨first :: others, ?_, hkinds⟩
    rw [argTokens, hts]

theorem DerivesMany.terms {ts : List Token} {ks : List Kind} : DerivesMany placeholders ts ks →
    ∃ (first : Term) (others : List Term), first.tokens ++ moreTokens others = ts ++ [.closing] ∧
      kinds? placeholders (first :: others) = some ks
  | .one hk => by
    obtain ⟨t, rfl, hkind⟩ := hk.term
    exact ⟨t, [], rfl, kinds?_cons.mpr ⟨_, [], hkind, rfl, rfl⟩⟩
  | .more hk hmany => by
    obtain ⟨t, rfl, hkind⟩ := hk.term
    obtain ⟨next, others, hts, hkinds⟩ := hmany.terms
    refine ⟨t, next :: others, ?_, kinds?_cons.mpr ⟨_, _, hkind, hkinds, rfl⟩⟩
    rw [moreTokens, hts, List.append_assoc, List.cons_append]

end

/-- What tokens derive is what they mean when they are read. -/
theorem derives_iff {ts : List Token} {k : Kind} :
    Derives placeholders ts k ↔ ofTokens? ts >>= kind? placeholders = some k := by
  rw [Option.bind_eq_bind, Option.bind_eq_some_iff]
  simp only [ofTokens?_eq_some_iff]
  constructor
  · exact Derives.term
  · rintro ⟨t, rfl, hk⟩
    exact derives_tokens t hk

/-! ## What names mean -/

theorem record_of_unreserved {name : String} {args : List Kind} {k : Kind}
    (h : (if reservedNames.contains name then none
      else if startsRecordName name then some (Kind.record name args) else none) = some k) :
    name ∉ reservedNames ∧ k = .record name args := by
  split at h
  · cases h
  next hfree =>
    split at h
    · exact ⟨fun hmem => hfree (List.contains_iff_mem.mpr hmem), (Option.some.inj h).symm⟩
    · cases h

theorem bareKind?_cases {name : String} {k : Kind} (h : bareKind? placeholders name = some k) :
    (isNothing name = true ∧ k = .nothing) ∨ (name ∈ placeholders ∧ k = .placeholder name) ∨
      (∃ v, ValueKind.ofName? name = some v ∧ k = .leaf v) ∨
      (ValueKind.ofName? name = none ∧ name ∉ reservedNames ∧ k = .record name []) := by
  unfold bareKind? at h
  split at h
  · next hnothing => exact .inl ⟨hnothing, (Option.some.inj h).symm⟩
  split at h
  · next hknown => exact .inr (.inl ⟨List.contains_iff_mem.mp hknown, (Option.some.inj h).symm⟩)
  split at h
  · next v hv => exact .inr (.inr (.inl ⟨v, hv, (Option.some.inj h).symm⟩))
  · next hnone =>
    have hunknown := Option.eq_none_iff_forall_ne_some.mpr hnone
    exact .inr (.inr (.inr ⟨hunknown, record_of_unreserved h⟩))

theorem appliedKind?_cases {name : String} {args : List Kind} {k : Kind}
    (h : appliedKind? name args = some k) :
    (∃ item, args = [item] ∧ name ∈ ["List", "list", "Sequence", "Optional"] ∧
        (k = .list item ∨ k = item.optional)) ∨
      (name = "Union" ∧ k = .union args) ∨
      (name ∉ reservedNames ∧ ¬(name = "list" ∧ args.length = 1) ∧ k = .record name args) := by
  unfold appliedKind? at h
  split at h
  · next item =>
    split at h
    · next hlist =>
      have hmem : name ∈ ["List", "list", "Sequence"] := List.contains_iff_mem.mp hlist
      have hsub : ["List", "list", "Sequence"] ⊆ ["List", "list", "Sequence", "Optional"] := by decide
      exact .inl ⟨item, rfl, hsub hmem, .inl (Option.some.inj h).symm⟩
    next hlist =>
      split at h
      · next hoptional => exact .inl ⟨item, rfl, by simp [hoptional], .inr (Option.some.inj h).symm⟩
      split at h
      · next hunion => exact .inr (.inl ⟨hunion, (Option.some.inj h).symm⟩)
      obtain ⟨hfree, hk⟩ := record_of_unreserved h
      refine .inr (.inr ⟨hfree, ?_, hk⟩)
      rintro ⟨rfl, _⟩
      exact hlist (by decide)
  · next hmany =>
    split at h
    · next hunion => exact .inr (.inl ⟨hunion, (Option.some.inj h).symm⟩)
    obtain ⟨hfree, hk⟩ := record_of_unreserved h
    refine .inr (.inr ⟨hfree, ?_, hk⟩)
    rintro ⟨_, hone⟩
    obtain ⟨item, hitem⟩ := List.length_eq_one_iff.mp hone
    exact hmany item hitem

/-! ## Placeholders -/

/-- Kinds that name no placeholders but these. -/
def Places (placeholders : List String) (k : Kind) : Prop :=
  k.Throughout fun part => ∀ p, part = .placeholder p → p ∈ placeholders

theorem places_list {k : Kind} : Places placeholders (.list k) ↔ Places placeholders k :=
  Kind.throughout_list.trans (and_iff_right (by simp))

theorem places_union {ks : List Kind} :
    Places placeholders (.union ks) ↔ ∀ k ∈ ks, Places placeholders k :=
  Kind.throughout_union.trans (and_iff_right (by simp))

theorem places_record {name : String} {args : List Kind} :
    Places placeholders (.record name args) ↔ ∀ arg ∈ args, Places placeholders arg :=
  Kind.throughout_record.trans (and_iff_right (by simp))

theorem places_forward {name : String} {args : List Kind} :
    Places placeholders (.forward name args) ↔ ∀ arg ∈ args, Places placeholders arg :=
  Kind.throughout_forward.trans (and_iff_right (by simp))

theorem places_namedKind? {name : String} {args : List Kind} {k : Kind}
    (hargs : ∀ arg ∈ args, Places placeholders arg) (h : namedKind? placeholders name args = some k) :
    Places placeholders k := by
  have hrecord : Places placeholders (.record name args) := places_record.mpr hargs
  cases args with
  | nil =>
    rcases bareKind?_cases h with ⟨_, rfl⟩ | ⟨hknown, rfl⟩ | ⟨v, _, rfl⟩ | ⟨_, _, rfl⟩
    · simp [Places, Kind.Throughout, Kind.parts]
    · simp [Places, Kind.Throughout, Kind.parts, hknown]
    · simp [Places, Kind.Throughout, Kind.parts]
    · exact hrecord
  | cons arg args =>
    rcases appliedKind?_cases h with ⟨item, heq, _, rfl | rfl⟩ | ⟨_, rfl⟩ | ⟨_, _, rfl⟩
    · exact places_list.mpr (hargs item (by simp [heq]))
    · have hnothing : Places placeholders .nothing := by simp [Places, Kind.Throughout, Kind.parts]
      exact places_union.mpr (List.forall_mem_cons.mpr
        ⟨hargs item (by simp [heq]), List.forall_mem_singleton.mpr hnothing⟩)
    · exact places_union.mpr hargs
    · exact hrecord

mutual

theorem Derives.places {ts : List Token} {k : Kind} : Derives placeholders ts k →
    Places placeholders k
  | .quoted _ hargs => places_forward.mpr hargs.places
  | .named hargs hnamed => places_namedKind? hargs.places hnamed

theorem DerivesArgs.places {ts : List Token} {ks : List Kind} : DerivesArgs placeholders ts ks →
    ∀ k ∈ ks, Places placeholders k
  | .none => List.forall_mem_nil _
  | .bracketed hmany => hmany.places

theorem DerivesMany.places {ts : List Token} {ks : List Kind} : DerivesMany placeholders ts ks →
    ∀ k ∈ ks, Places placeholders k
  | .one hk => List.forall_mem_singleton.mpr hk.places
  | .more hk hmany => List.forall_mem_cons.mpr ⟨hk.places, hmany.places⟩

end

end

end Term

/-! ## Reading -/

namespace Kind

open Term

variable {placeholders : List String} {text : String} {k : Kind}

theorem parse_eq_ok_iff :
    parse text placeholders = .ok k ↔ ∃ ts, Reads text.toList ts [] ∧ Derives placeholders ts k := by
  have hread : parse text placeholders = .ok k ↔
      tokens? text.toList >>= (ofTokens? · >>= kind? placeholders) = some k := by
    rw [parse, bind_assoc]
    cases tokens? text.toList >>= (ofTokens? · >>= kind? placeholders) with
    | none => exact iff_of_false nofun nofun
    | some found => rw [Except.ok.injEq, Option.some.injEq]
  rw [hread, Option.bind_eq_bind, Option.bind_eq_some_iff]
  simp only [tokens?_eq_some_iff, derives_iff]

/-- Either a text means a kind, or it is refused as it stands. -/
theorem parse_cases (text : String) (placeholders : List String) :
    (∃ k, parse text placeholders = .ok k) ∨
      parse text placeholders = .error (.unsupportedKind text) := by
  unfold parse
  split
  · next k _ => exact .inl ⟨k, rfl⟩
  · exact .inr rfl

/-- Texts of the same tokens have the same answer, but for the text in it. -/
theorem parse_of_tokens? {other : String} (h : tokens? other.toList = tokens? text.toList) :
    parse other placeholders =
      (parse text placeholders).mapError fun _ => .unsupportedKind other := by
  unfold parse
  rw [h]
  cases tokens? text.toList >>= ofTokens? >>= kind? placeholders <;> rfl

/-- Reading accepts the texts that the grammar derives and refuses all others as they stand. What is read
is settled by the text, names only placeholders that are known, and does not depend on the blanks
between tokens. -/
theorem parse_accepts_grammar (text : String) (placeholders : List String) :
    (∀ k, parse text placeholders = .ok k ↔
      ∃ ts, Reads text.toList ts [] ∧ Derives placeholders ts k) ∧
    (∀ ts ts' k k', Reads text.toList ts [] → Reads text.toList ts' [] → Derives placeholders ts k →
      Derives placeholders ts' k' → ts = ts' ∧ k = k') ∧
    (∀ ts k, Reads text.toList ts [] → Derives placeholders ts k →
      ∀ p, .placeholder p ∈ k.parts → p ∈ placeholders) ∧
    ((¬∃ ts k, Reads text.toList ts [] ∧ Derives placeholders ts k) →
      parse text placeholders = .error (.unsupportedKind text)) ∧
    ∀ front gap back ts, text.toList = front ++ back → Reads (front ++ back) ts back →
      (∀ c ∈ gap, Text.isBlank c = true) →
      parse (String.ofList (front ++ (gap ++ back))) placeholders =
        (parse text placeholders).mapError fun _ =>
          .unsupportedKind (String.ofList (front ++ (gap ++ back))) := by
  refine ⟨fun k => parse_eq_ok_iff, ?_, ?_, ?_, ?_⟩
  · intro ts ts' k k' hts hts' hk hk'
    have hsame : ts = ts' :=
      Option.some.inj ((tokens?_eq_some_iff.mpr hts).symm.trans (tokens?_eq_some_iff.mpr hts'))
    subst hsame
    exact ⟨rfl, Option.some.inj ((derives_iff.mp hk).symm.trans (derives_iff.mp hk'))⟩
  · intro ts k _ hk p hp
    exact hk.places _ hp p rfl
  · intro hnone
    rcases parse_cases text placeholders with ⟨k, hk⟩ | herror
    · obtain ⟨ts, hts, hderives⟩ := parse_eq_ok_iff.mp hk
      exact absurd ⟨ts, k, hts, hderives⟩ hnone
    · exact herror
  · intro front gap back ts htext hts hgap
    refine parse_of_tokens? ?_
    rw [String.toList_ofList, htext]
    exact tokens?_insert hts hgap

theorem parse_accepts_grammar_pair :
    parse "Pair[T,'Node']" ["T"] = .ok (.record "Pair" [.placeholder "T", .forward "Node" []]) ∧
      (∀ p, .placeholder p ∈ (record "Pair" [.placeholder "T", .forward "Node" []]).parts →
        p ∈ ["T"]) ∧
      parse (String.ofList ("Pair[T,".toList ++ ([' '] ++ "'Node']".toList))) ["T"] =
        (parse "Pair[T,'Node']" ["T"]).mapError (fun _ =>
          .unsupportedKind (String.ofList ("Pair[T,".toList ++ ([' '] ++ "'Node']".toList)))) ∧
      parse "]" [] = .error (.unsupportedKind "]") := by
  have hlatin : ∀ c ∈ Text.latin, startsName c = true := fun c hc => by
    simp [startsName, Text.isAlphanumeric, Text.isAlphabetic_of_mem_latin hc]
  have hmarks : ∀ c ∈ ['[', ','], continuesName c = false := fun c hc => by
    have hmem : c ∈ Text.punctuation ∧ c ≠ '.' := by
      simp only [List.mem_cons, List.not_mem_nil, or_false] at hc
      rcases hc with rfl | rfl <;> decide
    simp [continuesName, startsName_eq_false_of_mem_punctuation hmem.1, hmem.2]
  have hletters : ∀ x ∈ ['a', 'i', 'r', 'N', 'o', 'd', 'e'], continuesName x = true := fun x hx => by
    have hsub : ['a', 'i', 'r', 'N', 'o', 'd', 'e'] ⊆ Text.latin := by decide
    simp [continuesName, hlatin x (hsub hx)]
  have hair : ['a', 'i', 'r'] ⊆ ['a', 'i', 'r', 'N', 'o', 'd', 'e'] := by decide
  have hnode : ['N', 'o', 'd', 'e'] ⊆ ['a', 'i', 'r', 'N', 'o', 'd', 'e'] := by decide
  have hPair : Spelling (.name "Pair") ['P', 'a', 'i', 'r'] :=
    .name (hlatin 'P' (by decide)) fun x hx => hletters x (hair hx)
  have hT : Spelling (.name "T") ['T'] := .name (hlatin 'T' (by decide)) (List.forall_mem_nil _)
  have hNode : Spelling (.quoted "Node") ('\'' :: (['N', 'o', 'd', 'e'] ++ ['\''])) := by
    have htrim : String.ofList (Text.trim ['N', 'o', 'd', 'e']) = "Node" := by decide +kernel
    exact htrim ▸ .quoted (.inl rfl) (by decide)
  have hends {n : String} {c : Char} {cs : List Char} (hc : c ∈ ['[', ',']) :
      (Token.name n).EndsBefore (c :: cs) := by
    rintro _ _ _ ⟨⟩
    exact hmarks c hc
  have hfront {ts : List Token} {back rest : List Char} (h : Reads back ts rest) :
      Reads ("Pair[T,".toList ++ back) (.name "Pair" :: .opening :: .name "T" :: .comma :: ts) rest :=
    show Reads (['P', 'a', 'i', 'r'] ++ (['['] ++ (['T'] ++ ([','] ++ back)))) _ rest from
      .token hPair (hends (by decide)) (.token .opening (by simp)
        (.token hT (hends (by decide)) (.token .comma (by simp) h)))
  have hback : Reads "'Node']".toList [.quoted "Node", .closing] [] :=
    show Reads ('\'' :: (['N', 'o', 'd', 'e'] ++ ['\'']) ++ ([']'] ++ [])) _ _ from
      .token hNode (by simp) (.token .closing (by simp) (.done []))
  have hreference : isReference "Node" = true :=
    Bool.and_eq_true_iff.mpr ⟨rfl, List.all_eq_true.mpr fun x hx => hletters x (hnode hx)⟩
  have hrecord : namedKind? ["T"] "Pair" [.placeholder "T", .forward "Node" []] =
      some (.record "Pair" [.placeholder "T", .forward "Node" []]) := by
    simp [namedKind?, appliedKind?, reservedNames, startsRecordName,
      Text.isAlphabetic_of_mem_latin (c := 'P') (by decide)]
  have hplaceholder : namedKind? ["T"] "T" [] = some (.placeholder "T") := rfl
  have hderives := Derives.named (.bracketed (.more (.named .none hplaceholder)
    (.one (.quoted hreference .none)))) hrecord
  have hblank : ∀ x, x = ' ' → Text.isBlank x = true := by
    rintro _ rfl
    decide +kernel
  have hpair := parse_accepts_grammar "Pair[T,'Node']" ["T"]
  refine ⟨(hpair.1 _).mpr ⟨_, hfront hback, hderives⟩, hpair.2.2.1 _ _ (hfront hback) hderives,
    hpair.2.2.2.2 _ [' '] _ _ rfl (hfront (.done _)) (fun x hx => hblank x (List.mem_singleton.mp hx)),
    (parse_accepts_grammar "]" []).2.2.2.1 ?_⟩
  rintro ⟨ts, k, hts, hk⟩
  have hclosing : Reads "]".toList [.closing] [] :=
    show Reads ([']'] ++ []) _ _ from .token .closing (by simp) (.done [])
  have hsame := (tokens?_eq_some_iff.mpr hts).symm.trans (tokens?_eq_some_iff.mpr hclosing)
  obtain rfl := Option.some.inj hsame
  cases hk

end Kind

end Conform
