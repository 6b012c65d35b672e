import Conform.Proofs.Text.Listing
import Conform.Text.Quoted
/-!
Quoted strings read back. No character's escape begins another one's, and none begins with the quote that
closes a string, so that where a quoted string ends, and which string it is, can be told from the text.
-/

namespace Conform.Text

/-! ## Hexadecimal digits -/

theorem digitChar_injective {m n : Nat} (hm : m < 16) (hn : n < 16)
    (h : m.digitChar = n.digitChar) : m = n := by
  have hall : ∀ m < 16, ∀ n < 16, Nat.digitChar m = Nat.digitChar n → m = n := by decide
  exact hall m hm n hn h

theorem toDigits_injective {m n : Nat} (h : Nat.toDigits 16 m = Nat.toDigits 16 n) : m = n := by
  induction m using Nat.strongRecOn generalizing n with
  | ind m ih =>
    have hlonger : ∀ k c d, Nat.toDigits 16 k ++ [c] ≠ [d] := by
      intro k c d h
      rcases List.append_eq_singleton_iff.mp h with ⟨hnil, _⟩ | ⟨_, hnil⟩
      · exact Nat.toDigits_ne_nil hnil
      · cases hnil
    rw [Nat.toDigits_eq_if (by decide), Nat.toDigits_eq_if (n := n) (by decide)] at h
    split at h <;> split at h
    next hm hn => exact digitChar_injective hm hn (List.singleton_inj.mp h)
    next => exact absurd h.symm (hlonger _ _ _)
    next => exact absurd h (hlonger _ _ _)
    next hm hn =>
      obtain ⟨hmore, hlast⟩ := List.append_inj' h rfl
      have hdiv := ih (m / 16) (Nat.div_lt_self (by omega) (by decide)) hmore
      have hmod := digitChar_injective (Nat.mod_lt m (by decide)) (Nat.mod_lt n (by decide))
        (List.singleton_inj.mp hlast)
      omega

/-- The brace that ends an escape is no digit of it. -/
theorem brace_notMem_toDigits (n : Nat) : '}' ∉ Nat.toDigits 16 n := by
  induction n using Nat.strongRecOn with
  | ind n ih =>
    have hdigit : ∀ k, '}' ∉ [Nat.digitChar k] := fun k hmem =>
      Nat.digitChar_ne '}' rfl (List.mem_singleton.mp hmem).symm
    rw [Nat.toDigits_eq_if (by decide)]
    split
    · exact hdigit n
    · rw [List.mem_append, not_or]
      exact ⟨ih (n / 16) (Nat.div_lt_self (by omega) (by decide)), hdigit _⟩

/-! ## Escapes -/

/-- The characters that have an escape of their own, behind the letter or mark that stands for each. -/
def marks : List (Char × Char) :=
  [('"', '"'), ('\\', '\\'), ('n', '\n'), ('r', '\r'), ('t', '\t'), ('0', '\x00')]

/-- The ways that a character is written between quotes. -/
inductive Escape : Char → List Char → Prop
  | itself {c : Char} : c ≠ '"' → c ≠ '\\' → Escape c [c]
  | mark {c mark : Char} : (mark, c) ∈ marks → Escape c ['\\', mark]
  | code (c : Char) : Escape c ('\\' :: 'u' :: '{' :: (Nat.toDigits 16 c.toNat ++ ['}']))

theorem escape_escape (c : Char) : Escape c (escape c).toList := by
  unfold escape
  split
  case h_7 _ hquote hslash _ _ _ _ =>
    split
    · rw [Char.toString_eq_singleton, String.toList_singleton]
      exact .itself hquote hslash
    · simpa [codeEscape] using Escape.code c
  all_goals exact .mark (by decide)

theorem eq_of_mem_marks {mark c d : Char} (hc : (mark, c) ∈ marks) (hd : (mark, d) ∈ marks) :
    c = d := by
  have hall : ∀ p ∈ marks, ∀ q ∈ marks, p.1 = q.1 → p.2 = q.2 := by decide
  exact hall _ hc _ hd rfl

theorem u_notMem_marks {c : Char} : ('u', c) ∉ marks := by
  have hall : ∀ p ∈ marks, p.1 ≠ 'u' := by decide
  exact fun h => hall _ h rfl

section
variable {c d : Char} {cs ds s t : List Char}

/-- No escape begins another one. -/
theorem Escape.append_injective (hc : Escape c cs) (hd : Escape d ds) (h : cs ++ s = ds ++ t) :
    c = d ∧ s = t := by
  cases hc with
  | itself hquote hslash =>
    cases hd with
    | itself => simpa using h
    | mark | code => exact absurd (List.cons.inj h).1 hslash
  | mark hmark =>
    cases hd with
    | itself hquote hslash => exact absurd (List.cons.inj h).1.symm hslash
    | mark hmark' =>
      obtain ⟨rfl, rfl⟩ : _ = _ ∧ s = t := by simpa using h
      exact ⟨eq_of_mem_marks hmark hmark', rfl⟩
    | code =>
      obtain ⟨rfl, _⟩ : _ = 'u' ∧ _ := by simpa using h
      exact absurd hmark u_notMem_marks
  | code =>
    cases hd with
    | itself hquote hslash => exact absurd (List.cons.inj h).1.symm hslash
    | mark hmark =>
      obtain ⟨rfl, _⟩ : 'u' = _ ∧ _ := by simpa using h
      exact absurd hmark u_notMem_marks
    | code =>
      simp only [List.cons_append, List.append_assoc, List.nil_append, List.cons.injEq, true_and] at h
      have hdigit : ∀ n, ∀ c ∈ Nat.toDigits 16 n, (c != '}') = true := fun n c hmem =>
        bne_iff_ne.mpr fun heq => brace_notMem_toDigits n (heq ▸ hmem)
      obtain ⟨hdigits, hrest⟩ := append_injective_of_all (hdigit _) (hdigit _)
        (s := '}' :: s) (t := '}' :: t) (by simp) (by simp) h
      exact ⟨Char.toNat_inj.mp (toDigits_injective hdigits), (List.cons.inj hrest).2⟩

theorem Escape.eq_cons (h : Escape c cs) : ∃ e rest, cs = e :: rest ∧ e ≠ '"' := by
  cases h with
  | itself hquote => exact ⟨_, _, rfl, hquote⟩
  | mark | code => exact ⟨_, _, rfl, by decide⟩

end

/-! ## Strings -/

theorem toList_quoted (s : String) :
    (quoted s).toList = '"' :: (s.toList.flatMap (fun c => (escape c).toList) ++ ['"']) := by
  simp [quoted, String.toList_join, List.flatMap_map]

/-- Behind the opening quote the characters can be told, up to the quote that closes. -/
theorem escapes_append_injective {cs ds s t : List Char}
    (h : cs.flatMap (fun c => (escape c).toList) ++ '"' :: s =
      ds.flatMap (fun c => (escape c).toList) ++ '"' :: t) : cs = ds ∧ s = t := by
  have hquote : ∀ {c : Char} {s t : List Char}, (escape c).toList ++ s ≠ '"' :: t := by
    intro c s t h
    obtain ⟨e, rest, heq, hne⟩ := (escape_escape c).eq_cons
    rw [heq] at h
    exact hne (List.cons.inj h).1
  induction cs generalizing ds with
  | nil =>
    cases ds with
    | nil => exact ⟨rfl, (List.cons.inj h).2⟩
    | cons d ds =>
      rw [List.flatMap_cons, List.append_assoc] at h
      exact absurd h.symm hquote
  | cons c cs ih =>
    cases ds with
    | nil =>
      rw [List.flatMap_cons, List.append_assoc] at h
      exact absurd h hquote
    | cons d ds =>
      rw [List.flatMap_cons, List.flatMap_cons, List.append_assoc, List.append_assoc] at h
      obtain ⟨rfl, hrest⟩ := (escape_escape c).append_injective (escape_escape d) h
      obtain ⟨rfl, rfl⟩ := ih hrest
      exact ⟨rfl, rfl⟩

/-- The string that a text begins with, and what follows it, can be told. -/
theorem quoted_append_injective {a b : String} {s t : List Char}
    (h : (quoted a).toList ++ s = (quoted b).toList ++ t) : a = b ∧ s = t := by
  rw [toList_quoted, toList_quoted] at h
  simp only [List.cons_append, List.append_assoc, List.nil_append, List.cons.injEq, true_and] at h
  obtain ⟨hchars, hrest⟩ := escapes_append_injective h
  exact ⟨String.toList_inj.mp hchars, hrest⟩

end Conform.Text
