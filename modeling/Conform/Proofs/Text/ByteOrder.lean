import Mathlib.Data.String.Basic
/-!
The order of texts by their bytes in UTF-8. It is the order by code points: the bytes of a character tell
it apart from every other before they end.
-/

namespace Conform.Text

/-- The bytes of the one text, in UTF-8, come before those of the other. -/
def Precedes (s t : String) : Prop := s.toUTF8.data.toList < t.toUTF8.data.toList

theorem lt_ofNat_iff {m n : Nat} (hm : m < 256) (hn : n < 256) :
    UInt8.ofNat m < UInt8.ofNat n ↔ m < n := by
  rw [UInt8.lt_iff_toNat_lt, UInt8.toNat_ofNat', UInt8.toNat_ofNat', Nat.mod_eq_of_lt hm,
    Nat.mod_eq_of_lt hn]

theorem ofNat_inj {m n : Nat} (hm : m < 256) (hn : n < 256) :
    UInt8.ofNat m = UInt8.ofNat n ↔ m = n := by
  rw [← UInt8.toNat_inj, UInt8.toNat_ofNat', UInt8.toNat_ofNat', Nat.mod_eq_of_lt hm,
    Nat.mod_eq_of_lt hn]

/-- Of two characters the lesser one has the lesser bytes, whatever follows them. -/
theorem utf8EncodeChar_append_lt {c d : Char} (h : c < d) (bs bs' : List UInt8) :
    String.utf8EncodeChar c ++ bs < String.utf8EncodeChar d ++ bs' := by
  have hlt : c.val.toNat < d.val.toNat := UInt32.lt_iff_toNat_lt.mp h
  have hmax : d.val.toNat < 0x110000 := by
    have hvalid := d.valid
    simp only [UInt32.isValidChar, Nat.isValidChar] at hvalid
    omega
  unfold String.utf8EncodeChar
  generalize c.val.toNat = m at hlt
  generalize d.val.toNat = n at hlt hmax
  dsimp only
  have hdigits : ∀ k < 0x110000, k / 64 / 64 = k / 4096 ∧ k / 4096 / 64 = k / 262144 ∧
      k / 262144 % 8 = k / 262144 := by
    intro k hk
    refine ⟨Nat.div_div_eq_div_mul k 64 64, Nat.div_div_eq_div_mul k 4096 64, ?_⟩
    exact Nat.mod_eq_of_lt (by omega)
  obtain ⟨hm, hm', hm''⟩ := hdigits m (by omega)
  obtain ⟨hn, hn', hn''⟩ := hdigits n hmax
  -- One case for each pair of lengths; the lesser character is never the longer one.
  split_ifs
  all_goals
    simp (disch := omega) only [List.cons_append, List.nil_append, List.cons_lt_cons_iff,
      lt_ofNat_iff, ofNat_inj]
    omega

theorem bytes_lt_of_lt {cs ds : List Char} (h : cs < ds) :
    cs.flatMap String.utf8EncodeChar < ds.flatMap String.utf8EncodeChar := by
  induction h with
  | @nil d ds =>
    rw [List.flatMap_nil, List.flatMap_cons]
    cases hd : String.utf8EncodeChar d with
    | nil => exact absurd hd String.utf8EncodeChar_ne_nil
    | cons b bs => exact List.nil_lt_cons b _
  | cons _ ih =>
    rw [List.flatMap_cons, List.flatMap_cons]
    exact List.append_left_lt ih
  | rel hcd =>
    rw [List.flatMap_cons, List.flatMap_cons]
    exact utf8EncodeChar_append_lt hcd _ _

theorem toUTF8_toList (s : String) :
    s.toUTF8.data.toList = s.toList.flatMap String.utf8EncodeChar := by
  rw [String.toUTF8_eq_toByteArray, ← String.utf8Encode_toList]
  exact List.toList_data_toByteArray

/-- Texts come in the order of their characters. -/
theorem precedes_iff {s t : String} : Precedes s t ↔ s < t := by
  have hlt : ∀ {s t : String}, s < t → Precedes s t := by
    intro s t h
    rw [Precedes, toUTF8_toList, toUTF8_toList]
    exact bytes_lt_of_lt (String.lt_iff_toList_lt.mp h)
  refine ⟨fun h => ?_, hlt⟩
  rcases lt_trichotomy s t with hst | rfl | hts
  · exact hst
  · exact absurd h (List.lt_irrefl _)
  · exact absurd (hlt hts) (List.lt_asymm h)

end Conform.Text
