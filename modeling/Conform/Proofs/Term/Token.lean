import Conform.Kind.Term
import Conform.Proofs.Text.CharClass
import Conform.Proofs.Text.Listing
/-!
How tokens are written. A text is cut into tokens in at most one way, and that is how it is read; blanks
between two tokens may be added and left out.
-/

namespace Conform.Term

/-- The characters of a token. -/
inductive Spelling : Token → List Char → Prop
  | opening : Spelling .opening ['[']
  | closing : Spelling .closing [']']
  | comma : Spelling .comma [',']
  | name {c : Char} {cs : List Char} : startsName c = true → (∀ x ∈ cs, continuesName x = true) →
    Spelling (.name (String.ofList (c :: cs))) (c :: cs)
  | quoted {q : Char} {cs : List Char} : q = '\'' ∨ q = '"' → q ∉ cs →
    Spelling (.quoted (String.ofList (Text.trim cs))) (q :: (cs ++ [q]))

/-- What follows the token is no more of it: a name is as long as can be. -/
def Token.EndsBefore (t : Token) (cs : List Char) : Prop :=
  ∀ n, t = .name n → ∀ c ∈ cs.head?, continuesName c = false

@[simp] theorem Token.opening_endsBefore (cs : List Char) : Token.opening.EndsBefore cs := nofun
@[simp] theorem Token.closing_endsBefore (cs : List Char) : Token.closing.EndsBefore cs := nofun
@[simp] theorem Token.comma_endsBefore (cs : List Char) : Token.comma.EndsBefore cs := nofun
@[simp] theorem Token.quoted_endsBefore (n : String) (cs : List Char) :
    (Token.quoted n).EndsBefore cs := nofun

/-- The tokens are read off the front of a text, with the blanks before and between them, and what
is left of it. -/
inductive Reads : List Char → List Token → List Char → Prop
  | done (rest : List Char) : Reads rest [] rest
  | blank {c : Char} {cs rest : List Char} {ts : List Token} : Text.isBlank c = true →
    Reads cs ts rest → Reads (c :: cs) ts rest
  | token {t : Token} {spelt cs rest : List Char} {ts : List Token} : Spelling t spelt →
    t.EndsBefore cs → Reads cs ts rest → Reads (spelt ++ cs) (t :: ts) rest

/-! ## Characters -/

theorem continuesName_eq_false_of_isBlank {c : Char} (h : Text.isBlank c = true) :
    continuesName c = false := by
  have hother : c ≠ '_' ∧ c ≠ '.' := by
    constructor <;> rintro rfl <;> exact absurd h (by decide +kernel)
  simp [continuesName, startsName, Text.isAlphanumeric_eq_false_of_isBlank h, hother]

theorem startsName_eq_false_of_mem_punctuation {c : Char} (h : c ∈ Text.punctuation) :
    startsName c = false := by
  have hother : c ≠ '_' := by
    rintro rfl
    exact absurd h (by decide)
  simp [startsName, Text.isAlphanumeric_eq_false_of_mem_punctuation h, hother]

theorem isBlank_eq_false_of_startsName {c : Char} (h : startsName c = true) :
    Text.isBlank c = false := by
  rw [Bool.eq_false_iff]
  intro hblank
  have hnot := continuesName_eq_false_of_isBlank hblank
  rw [continuesName, h] at hnot
  cases hnot

/-! ## One token -/

variable {t : Token} {ts : List Token} {c : Char} {cs rest spelt : List Char}

theorem eq_of_mem_head?_dropWhile {p : Char → Bool} (h : c ∈ (cs.dropWhile p).head?) :
    p c = false := by
  have hnot := List.head?_dropWhile_not p cs
  rw [h] at hnot
  exact hnot

/-- A text that has a character falls into what stands before it, and what stands behind it. -/
theorem takeWhile_append_of_mem (h : c ∈ cs) :
    cs = cs.takeWhile (· ≠ c) ++ c :: (cs.dropWhile (· ≠ c)).drop 1 := by
  have hsplit := (List.takeWhile_append_dropWhile (p := (· ≠ c)) (l := cs)).symm
  cases hdrop : cs.dropWhile (· ≠ c) with
  | nil =>
    have hnone := List.dropWhile_eq_nil_iff.mp hdrop c h
    simp at hnone
  | cons x rest =>
    have hhead : x ∈ (cs.dropWhile (· ≠ c)).head? := by
      rw [hdrop]
      rfl
    have hx : x = c := by simpa using eq_of_mem_head?_dropWhile hhead
    rwa [hdrop, hx] at hsplit

theorem mark?_eq_some {t : Token} (h : mark? c = some t) : Spelling t [c] := by
  unfold mark? at h
  split at h <;> cases h <;> constructor

/-- A blank stands at the front, or a token as it is written. -/
theorem front?_cases {token : Option Token} {h : rest.length ≤ cs.length}
    (hfront : front? c cs = some (token, ⟨rest, h⟩)) :
    (token = none ∧ Text.isBlank c = true ∧ rest = cs) ∨
      ∃ t spelt, token = some t ∧ Spelling t spelt ∧ t.EndsBefore rest ∧ c :: cs = spelt ++ rest := by
  unfold front? at hfront
  split at hfront
  · next hblank =>
    cases hfront
    exact .inl ⟨rfl, hblank, rfl⟩
  refine .inr ?_
  split at hfront
  · next mark hmark =>
    cases hfront
    refine ⟨mark, [c], rfl, mark?_eq_some hmark, ?_, rfl⟩
    rintro n rfl
    unfold mark? at hmark
    split at hmark <;> cases hmark
  split at hfront
  · next hquote =>
    split at hfront
    · next hcloses =>
      cases hfront
      refine ⟨_, _, rfl, .quoted hquote ?_, Token.quoted_endsBefore _ _, ?_⟩
      · exact fun hin => by simpa using List.mem_takeWhile_imp hin
      · rw [List.cons_append, List.append_assoc]
        exact congrArg (c :: ·) (takeWhile_append_of_mem (List.contains_iff_mem.mp hcloses))
    · cases hfront
  split at hfront
  · next hstarts =>
    cases hfront
    refine ⟨_, _, rfl, .name hstarts fun x hx => List.mem_takeWhile_imp hx, ?_, ?_⟩
    · exact fun _ _ _ hx => eq_of_mem_head?_dropWhile hx
    · rw [List.cons_append, List.takeWhile_append_dropWhile]
  · cases hfront

theorem front?_name (hstarts : startsName c = true) (hspelt : ∀ x ∈ spelt, continuesName x = true)
    (hrest : ∀ x ∈ rest.head?, continuesName x = false) :
    front? c (spelt ++ rest) =
      some (some (.name (String.ofList (c :: spelt))),
        ⟨rest, (List.suffix_append spelt rest).length_le⟩) := by
  obtain ⟨htake, hdrop⟩ := Text.takeWhile_append_of_head? hspelt hrest
  have hother : c ∉ Text.punctuation := fun hmem => by
    cases hstarts.symm.trans (startsName_eq_false_of_mem_punctuation hmem)
  have hmark : mark? c = none := by
    unfold mark?
    split
    · exact absurd (by decide) hother
    · exact absurd (by decide) hother
    · exact absurd (by decide) hother
    · rfl
  have hquote : ¬(c = '\'' ∨ c = '"') := by
    rintro (rfl | rfl) <;> exact absurd (by decide) hother
  unfold front?
  simp [isBlank_eq_false_of_startsName hstarts, hmark, hquote, hstarts, htake, hdrop]

theorem front?_quoted (hquote : c = '\'' ∨ c = '"') (hspelt : c ∉ spelt) :
    front? c (spelt ++ [c] ++ rest) =
      some (some (.quoted (String.ofList (Text.trim spelt))),
        ⟨rest, (List.suffix_append (spelt ++ [c]) rest).length_le⟩) := by
  have hbefore : ∀ x ∈ spelt, decide (x ≠ c) = true := fun x hx =>
    decide_eq_true fun heq => hspelt (heq ▸ hx)
  have hclosing : ∀ x ∈ (c :: rest).head?, decide (x ≠ c) = false := by simp
  obtain ⟨htake, hdrop⟩ := Text.takeWhile_append_of_head? hbefore hclosing
  have hmark : mark? c = none := by
    rcases hquote with rfl | rfl <;> rfl
  have hblank : Text.isBlank c = false := by
    rcases hquote with rfl | rfl <;> exact Text.isBlank_eq_false_of_mem (by decide)
  unfold front?
  simp at htake hdrop ⊢
  simp [hblank, hmark, hquote, htake, hdrop]

/-- A token is read as it is written, if it ends before what follows. -/
theorem front?_of_spelling {t : Token} (h : Spelling t (c :: spelt)) (hends : t.EndsBefore rest) :
    front? c (spelt ++ rest) = some (some t, ⟨rest, (List.suffix_append spelt rest).length_le⟩) := by
  cases h with
  | opening | closing | comma =>
    unfold front?
    rw [Text.isBlank_eq_false_of_mem (by decide)]
    rfl
  | name hstarts hspelt => exact front?_name hstarts hspelt (hends _ rfl)
  | quoted hquote hspelt => exact front?_quoted hquote hspelt

/-! ## Whole texts -/

theorem tokens?_cons : tokens? (c :: cs) =
    match front? c cs with
    | none => none
    | some (token, ⟨rest, _⟩) => (token.toList ++ ·) <$> tokens? rest :=
  tokens?.eq_2 c cs

theorem tokens?_blank (h : Text.isBlank c = true) : tokens? (c :: cs) = tokens? cs := by
  rw [tokens?_cons, front?, if_pos h]
  simp

theorem tokens?_token {t : Token} (h : Spelling t spelt) (hends : t.EndsBefore rest) :
    tokens? (spelt ++ rest) = (t :: ·) <$> tokens? rest := by
  obtain ⟨c, spelt, rfl⟩ : ∃ c cs, spelt = c :: cs := by
    cases h <;> exact ⟨_, _, rfl⟩
  rw [List.cons_append, tokens?_cons, front?_of_spelling h hends]
  rfl

/-- Tokens that can be read off a text are those that are read first. -/
theorem Reads.tokens? (h : Reads cs ts rest) : Term.tokens? cs = (ts ++ ·) <$> Term.tokens? rest := by
  induction h with
  | done rest => simp
  | blank hblank _ ih => rw [tokens?_blank hblank, ih]
  | token hspelt hends _ ih =>
    rw [tokens?_token hspelt hends, ih]
    simp [Function.comp_def]

theorem reads_of_tokens? : {cs : List Char} → {ts : List Token} → Term.tokens? cs = some ts →
    Reads cs ts []
  | [], ts, h => by
    rw [Term.tokens?] at h
    cases h
    exact .done []
  | c :: cs, ts, h => by
    rw [tokens?_cons] at h
    cases hfront : front? c cs with
    | none =>
      rw [hfront] at h
      cases h
    | some found =>
      obtain ⟨token, rest, hshort⟩ := found
      rw [hfront] at h
      obtain ⟨more, hmore, rfl⟩ := Option.map_eq_some_iff.mp h
      have hreads : Reads rest more [] := reads_of_tokens? hmore
      rcases front?_cases hfront with ⟨rfl, hblank, rfl⟩ | ⟨t, spelt, rfl, hspelt, hends, hsplit⟩
      · exact .blank hblank hreads
      · rw [hsplit]
        exact .token hspelt hends hreads
termination_by cs => cs.length
decreasing_by exact Nat.lt_succ_of_le hshort

/-- A text has the tokens that it is read as, and no others. -/
theorem tokens?_eq_some_iff : Term.tokens? cs = some ts ↔ Reads cs ts [] := by
  refine ⟨reads_of_tokens?, fun h => ?_⟩
  rw [h.tokens?, Term.tokens?]
  simp

/-! ## Blanks between tokens -/

/-- What was read off the front of a text is read off it before another text as well, if that does not
go on with a name. -/
theorem Reads.before (h : Reads cs ts rest) :
    ∃ front, cs = front ++ rest ∧ ∀ other : List Char,
      (∀ x ∈ other.head?, continuesName x = false) → Reads (front ++ other) ts other := by
  induction h with
  | done rest => exact ⟨[], rfl, fun other _ => .done other⟩
  | @blank c _ _ _ hblank _ ih =>
    obtain ⟨front, rfl, hother⟩ := ih
    exact ⟨c :: front, rfl, fun other hhead => .blank hblank (hother other hhead)⟩
  | @token t spelt _ _ _ hspelt hends _ ih =>
    obtain ⟨front, rfl, hother⟩ := ih
    refine ⟨spelt ++ front, (List.append_assoc _ _ _).symm, fun other hhead => ?_⟩
    rw [List.append_assoc]
    refine .token hspelt (fun n hn x hx => ?_) (hother other hhead)
    cases front with
    | nil => exact hhead x hx
    | cons y front => exact hends n hn x hx

theorem tokens?_blanks {gap : List Char} (h : ∀ c ∈ gap, Text.isBlank c = true) (cs : List Char) :
    Term.tokens? (gap ++ cs) = Term.tokens? cs := by
  induction gap with
  | nil => rfl
  | cons c gap ih =>
    rw [List.cons_append, tokens?_blank (h c List.mem_cons_self),
      ih fun x hx => h x (List.mem_cons_of_mem c hx)]

/-- Blanks where a token ends, or at either end, change no token. -/
theorem tokens?_insert {front back gap : List Char} (h : Reads (front ++ back) ts back)
    (hgap : ∀ c ∈ gap, Text.isBlank c = true) :
    Term.tokens? (front ++ (gap ++ back)) = Term.tokens? (front ++ back) := by
  obtain ⟨front', heq, hother⟩ := h.before
  obtain rfl := List.append_cancel_right heq
  cases gap with
  | nil => rfl
  | cons c gap =>
    have hhead : ∀ x ∈ (c :: gap ++ back).head?, continuesName x = false := by
      rintro x ⟨⟩
      exact continuesName_eq_false_of_isBlank (hgap _ List.mem_cons_self)
    rw [(hother _ hhead).tokens?, tokens?_blanks hgap, h.tokens?]

end Conform.Term
