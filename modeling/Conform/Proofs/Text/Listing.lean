import Mathlib.Data.List.TakeWhile
/-!
Texts in a row. Where a text stops is told by the character behind it; and a list between brackets, with
commas in between, can be taken apart again if each of its members can be told from what stops it.
-/

namespace Conform.Text

/-! ## Two texts -/

section
variable {p : Char → Bool} {cs ds s t : List Char}

theorem takeWhile_append_of_head? (hcs : ∀ x ∈ cs, p x = true) (hs : ∀ x ∈ s.head?, p x = false) :
    (cs ++ s).takeWhile p = cs ∧ (cs ++ s).dropWhile p = s := by
  have hnone : s.takeWhile p = [] ∧ s.dropWhile p = s := by
    cases s with
    | nil => exact ⟨rfl, rfl⟩
    | cons x s => simp [hs x rfl]
  constructor
  · rw [List.takeWhile_append_of_pos hcs, hnone.1, List.append_nil]
  · rw [List.dropWhile_append_of_pos hcs, hnone.2]

/-- Of two texts the first ends where a property of all its characters ends. -/
theorem append_injective_of_all (hcs : ∀ x ∈ cs, p x = true) (hds : ∀ x ∈ ds, p x = true)
    (hs : ∀ x ∈ s.head?, p x = false) (ht : ∀ x ∈ t.head?, p x = false) (h : cs ++ s = ds ++ t) :
    cs = ds ∧ s = t := by
  obtain ⟨hfirst, hrest⟩ := takeWhile_append_of_head? hcs hs
  obtain ⟨hfirst', hrest'⟩ := takeWhile_append_of_head? hds ht
  exact ⟨by rw [← hfirst, h, hfirst'], by rw [← hrest, h, hrest']⟩

end

/-! ## Lists -/

/-- What follows the first text of a list, up to the bracket that closes. -/
def listed (closer : Char) : List String → List Char
  | [] => [closer]
  | s :: ss => ',' :: ' ' :: (s.toList ++ listed closer ss)

/-- The texts of a list, with commas in between, and the bracket that closes. -/
def enclosed (closer : Char) : List String → List Char
  | [] => [closer]
  | s :: ss => s.toList ++ listed closer ss

theorem toList_intercalate_append (closer : Char) (ss : List String) :
    (", ".intercalate ss).toList ++ [closer] = enclosed closer ss := by
  cases ss with
  | nil => rfl
  | cons s ss =>
    rw [enclosed]
    induction ss generalizing s with
    | nil =>
      rw [String.intercalate_singleton]
      rfl
    | cons s' ss ih =>
      rw [String.intercalate_cons_cons, String.toList_append, List.append_assoc, ih s',
        String.toList_append, List.append_assoc]
      rfl

/-- The characters that stop a member of a list. -/
def stops : List Char := [',', ']', ')', '\x7d']

/-- What stands behind a text stops it, if anything stands there. -/
def Stopped (rest : List Char) : Prop := ∀ c ∈ rest.head?, c ∈ stops

/-- The text begins, and not as if a list stopped there. -/
def Begins (s : String) : Prop := ∃ c cs, s.toList = c :: cs ∧ c ∉ stops

section
variable {α : Type} {text : α → String} {closer : Char} {xs ys : List α} {s t : List Char}

/-- Where it is stopped, the text is that of no other among `ys`. -/
def Told (text : α → String) (ys : List α) (x : α) : Prop :=
  ∀ y ∈ ys, ∀ s t, Stopped s → Stopped t → (text x).toList ++ s = (text y).toList ++ t → x = y ∧ s = t

theorem stopped_listed (hcloser : closer ∈ stops) (ss : List String) (s : List Char) :
    Stopped (listed closer ss ++ s) := by
  cases ss with
  | nil =>
    rintro _ ⟨⟩
    exact hcloser
  | cons =>
    rintro _ ⟨⟩
    decide

theorem listed_append_injective (hcloser : closer ∈ stops) (hcomma : closer ≠ ',')
    (hxs : ∀ x ∈ xs, Told text ys x)
    (h : listed closer (xs.map text) ++ s = listed closer (ys.map text) ++ t) : xs = ys ∧ s = t := by
  induction xs generalizing ys with
  | nil =>
    cases ys with
    | nil => exact ⟨rfl, (List.cons.inj h).2⟩
    | cons y ys => exact absurd (List.cons.inj h).1 hcomma
  | cons x xs ih =>
    cases ys with
    | nil => exact absurd (List.cons.inj h).1.symm hcomma
    | cons y ys =>
      obtain ⟨hx, hrest⟩ := List.forall_mem_cons.mp hxs
      simp only [List.map_cons, listed, List.cons_append, List.append_assoc, List.cons.injEq,
        true_and] at h
      obtain ⟨rfl, hmore⟩ := hx y List.mem_cons_self _ _ (stopped_listed hcloser _ _)
        (stopped_listed hcloser _ _) h
      obtain ⟨rfl, rfl⟩ := ih (fun x' hx' y' hy' => hrest x' hx' y' (List.mem_cons_of_mem _ hy')) hmore
      exact ⟨rfl, rfl⟩

/-- The members of a list, and what follows it, can be told. -/
theorem enclosed_append_injective (hcloser : closer ∈ stops) (hcomma : closer ≠ ',')
    (hbegins : ∀ x ∈ xs ++ ys, Begins (text x)) (hxs : ∀ x ∈ xs, Told text ys x)
    (h : enclosed closer (xs.map text) ++ s = enclosed closer (ys.map text) ++ t) :
    xs = ys ∧ s = t := by
  have hempty : ∀ {x : α} {cs s : List Char}, Begins (text x) →
      closer :: s ≠ (text x).toList ++ cs := by
    rintro x cs s ⟨c, ds, hx, hc⟩ heq
    rw [hx] at heq
    exact hc ((List.cons.inj heq).1 ▸ hcloser)
  cases xs with
  | nil =>
    cases ys with
    | nil => exact ⟨rfl, (List.cons.inj h).2⟩
    | cons y ys =>
      rw [List.map_cons, enclosed, List.append_assoc] at h
      exact absurd h (hempty (hbegins y (by simp)))
  | cons x xs =>
    cases ys with
    | nil =>
      rw [List.map_cons, enclosed, List.append_assoc] at h
      exact absurd h.symm (hempty (hbegins x (by simp)))
    | cons y ys =>
      obtain ⟨hx, hrest⟩ := List.forall_mem_cons.mp hxs
      simp only [List.map_cons, enclosed, List.append_assoc] at h
      obtain ⟨rfl, hmore⟩ := hx y List.mem_cons_self _ _ (stopped_listed hcloser _ _)
        (stopped_listed hcloser _ _) h
      obtain ⟨rfl, rfl⟩ := listed_append_injective hcloser hcomma
        (fun x' hx' y' hy' => hrest x' hx' y' (List.mem_cons_of_mem _ hy')) hmore
      exact ⟨rfl, rfl⟩

end

end Conform.Text
