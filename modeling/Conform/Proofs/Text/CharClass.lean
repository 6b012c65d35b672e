import Conform.Proofs.Text.Listing
import Conform.Text.CharClass
/-!
Characters that mean something in terms, and the classes that they are in. What is in a class is read off
its table, character by character.
-/

namespace Conform

namespace CharSet

theorem exists_range_of_search {ranges : Array (Nat × Nat)} {n low high : Nat}
    (h : search ranges n low high = true) : ∃ r ∈ ranges.toList, r.1 ≤ n ∧ n ≤ r.2 := by
  fun_induction search ranges n low high with
  | case1 => cases h
  | case2 low high _ middle first last _ _ ih => exact ih h
  | case3 low high _ middle first last _ _ _ ih => exact ih h
  | case4 low high _ middle first last hrange hfirst hlast =>
    exact ⟨(first, last), Array.mem_toList_iff.mpr (Array.mem_of_getElem? hrange), Nat.le_of_not_lt hfirst,
      Nat.le_of_not_lt hlast⟩
  | case5 => cases h

/-- What is in a set is among the characters of its ranges. -/
theorem forall_of_contains {s : CharSet} {p : Char → Prop}
    (h : ∀ r ∈ s.ranges.toList, ∀ n ∈ List.range' r.1 (r.2 + 1 - r.1), p (Char.ofNat n)) {c : Char}
    (hc : s.contains c = true) : p c := by
  obtain ⟨r, hr, hlow, hhigh⟩ := exists_range_of_search hc
  have hn : c.toNat ∈ List.range' r.1 (r.2 + 1 - r.1) := List.mem_range'_1.mpr ⟨hlow, by omega⟩
  have hp := h r hr c.toNat hn
  rwa [Char.ofNat_toNat] at hp

theorem map_toList_cons {line : List Char} {lines : List String} {spelt : List (List Char)}
    (h : lines.map String.toList = spelt) :
    (String.ofList line :: lines).map String.toList = line :: spelt := by
  rw [List.map_cons, h, String.toList_ofList]

/-- A set that is read from lines of characters, not of text. -/
def ofSpelt (spelt : List (List Char)) : CharSet :=
  ⟨((([' '].intercalate spelt).splitOn ' ').filter (!·.isEmpty) |>.map readRange).toArray⟩

theorem of_spelt (p : CharSet → Prop) {lines : List String} {spelt : List (List Char)}
    (hlines : lines.map String.toList = spelt) (h : p (ofSpelt spelt)) : p (ofLines lines) := by
  unfold ofLines ofText
  rw [String.toList_intercalate, hlines]
  exact h

end CharSet

namespace Text

/-- The marks of terms, and quotes. -/
def punctuation : List Char := ['[', ']', ',', '\'', '"']

def latin : List Char := ((List.range' 65 26 ++ List.range' 97 26).map Char.ofNat)

/-- No blank, no mark and no quote is in the set. -/
def Spares (s : CharSet) : Prop :=
  (∀ r ∈ blanks.ranges.toList, ∀ n ∈ List.range' r.1 (r.2 + 1 - r.1),
    s.contains (Char.ofNat n) = false) ∧ ∀ c ∈ punctuation, s.contains c = false

instance (s : CharSet) : Decidable (Spares s) :=
  letI := List.decidableBAll (fun c => s.contains c = false) punctuation
  inferInstanceAs (Decidable (_ ∧ _))

theorem spares_alphabetic : Spares alphabetic ∧ latin.all alphabetic.contains = true := by
  unfold alphabetic
  dsimp only
  apply CharSet.of_spelt fun s => Spares s ∧ latin.all s.contains = true
  · repeat (first | exact List.map_nil | apply CharSet.map_toList_cons)
  · decide +kernel

theorem spares_numeric : Spares numeric := by
  unfold numeric
  apply CharSet.of_spelt
  · repeat (first | exact List.map_nil | apply CharSet.map_toList_cons)
  · decide +kernel

theorem isAlphabetic_of_mem_latin {c : Char} (h : c ∈ latin) : isAlphabetic c = true :=
  List.all_eq_true.mp spares_alphabetic.2 c h

theorem isAlphanumeric_eq_false_of_isBlank {c : Char} (h : isBlank c = true) :
    isAlphanumeric c = false := by
  refine CharSet.forall_of_contains (p := fun c => isAlphanumeric c = false) (fun r hr n hn => ?_) h
  exact Bool.or_eq_false_iff.mpr
    ⟨spares_alphabetic.1.1 r hr n hn, spares_numeric.1 r hr n hn⟩

theorem isAlphanumeric_eq_false_of_mem_punctuation {c : Char} (h : c ∈ punctuation) :
    isAlphanumeric c = false :=
  Bool.or_eq_false_iff.mpr ⟨spares_alphabetic.1.2 c h, spares_numeric.2 c h⟩

/-- Neither marks nor quotes, nor what joins the parts of a name, are blanks. -/
theorem isBlank_eq_false_of_mem {c : Char} (h : c ∈ '_' :: '.' :: punctuation) :
    isBlank c = false := by
  have hall : ('_' :: '.' :: punctuation).all (fun c => !isBlank c) = true := by decide +kernel
  simpa using List.all_eq_true.mp hall c h

/-- What stands between blanks and has none of its own. -/
theorem trim_append {front cs back : List Char} (hfront : ∀ c ∈ front, isBlank c = true)
    (hback : ∀ c ∈ back, isBlank c = true) (hcs : ∀ c ∈ cs, isBlank c = false) (hne : cs ≠ []) :
    trim (front ++ (cs ++ back)) = cs := by
  have hhead : ∀ c ∈ (cs ++ back).head?, isBlank c = false := by
    obtain ⟨d, ds, rfl⟩ := List.exists_cons_of_ne_nil hne
    rintro _ ⟨⟩
    exact hcs d List.mem_cons_self
  have hlast : ∀ c ∈ cs.reverse.head?, isBlank c = false := fun c hc =>
    hcs c (List.mem_reverse.mp (List.mem_of_mem_head? hc))
  have hblanks : ∀ c ∈ back.reverse, isBlank c = true := fun c hc => hback c (List.mem_reverse.mp hc)
  rw [trim, (takeWhile_append_of_head? hfront hhead).2, List.reverse_append,
    (takeWhile_append_of_head? hblanks hlast).2, List.reverse_reverse]

end Text

end Conform
