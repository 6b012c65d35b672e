import Conform.Proofs.Value.Order
/-!
Sorting by the order of all values. It only moves what is there, and what it comes to is ascending wherever
the order is a total one.
-/

namespace Conform.Value

theorem insertDescending_perm (v : Value) (ws : List Value) :
    (insertDescending v ws).Perm (v :: ws) := by
  induction ws with
  | nil => exact .refl _
  | cons w ws ih =>
    rw [insertDescending]
    split
    · exact (ih.cons w).trans (.swap v w ws)
    · exact .refl _

theorem foldl_insertDescending_perm (vs sorted : List Value) :
    (vs.foldl (fun sorted v => insertDescending v sorted) sorted).Perm (vs ++ sorted) := by
  induction vs generalizing sorted with
  | nil => exact .refl _
  | cons v vs ih =>
    rw [List.foldl_cons]
    exact (ih _).trans (((insertDescending_perm v sorted).append_left vs).trans List.perm_middle)

theorem sort_perm (vs : List Value) : (sort vs).Perm vs := by
  have h := foldl_insertDescending_perm vs []
  rw [List.append_nil] at h
  exact (List.reverse_perm _).trans h

section
variable {p : Value → Prop} {v : Value} {vs sorted : List Value}

/-- No value in the list is less than one after it. -/
def Descending (vs : List Value) : Prop := vs.Pairwise fun v w => (totalCompare w v).isLE

theorem isLE_of_not_lt {w : Value} (h : totalCompare v w ≠ .lt) : (totalCompare w v).isLE := by
  rw [totalCompare_swap v w]
  cases hvw : totalCompare v w with
  | lt => exact absurd hvw h
  | eq | gt => rfl

theorem Descending.insert (hp : Unblurred p) (hv : v.MadeOf p) (hsorted : ∀ w ∈ sorted, w.MadeOf p)
    (h : Descending sorted) : Descending (insertDescending v sorted) := by
  induction sorted with
  | nil => exact List.pairwise_singleton _ _
  | cons w ws ih =>
    obtain ⟨hw, hws⟩ := List.forall_mem_cons.mp hsorted
    obtain ⟨hle, hrest⟩ := List.pairwise_cons.mp h
    rw [insertDescending]
    split
    next hlt =>
      refine List.pairwise_cons.mpr ⟨fun u hu => ?_, ih hws hrest⟩
      rcases List.mem_cons.mp ((insertDescending_perm v ws).mem_iff.mp hu) with rfl | hu
      · rw [hlt]
        rfl
      · exact hle u hu
    next hge =>
      have hwv := isLE_of_not_lt hge
      refine List.pairwise_cons.mpr ⟨fun u hu => ?_, h⟩
      rcases List.mem_cons.mp hu with rfl | hu
      · exact hwv
      · exact (hp.settle (hws u hu) hw hv).isLE (hle u hu) hwv

theorem Descending.foldl (hp : Unblurred p) (hvs : ∀ v ∈ vs, v.MadeOf p)
    (hsorted : ∀ w ∈ sorted, w.MadeOf p) (h : Descending sorted) :
    Descending (vs.foldl (fun sorted v => insertDescending v sorted) sorted) := by
  induction vs generalizing sorted with
  | nil => exact h
  | cons v vs ih =>
    obtain ⟨hv, hvs⟩ := List.forall_mem_cons.mp hvs
    refine ih hvs (fun w hw => ?_) (h.insert hp hv hsorted)
    rcases List.mem_cons.mp ((insertDescending_perm v sorted).mem_iff.mp hw) with rfl | hw
    · exact hv
    · exact hsorted w hw

/-- Where no float is the rounding of two integers, sorting leaves nothing before what is less. -/
theorem sort_pairwise (hp : Unblurred p) (hvs : ∀ v ∈ vs, v.MadeOf p) :
    (sort vs).Pairwise fun v w => (totalCompare v w).isLE :=
  List.pairwise_reverse.mpr (Descending.foldl hp hvs (fun _ hw => absurd hw List.not_mem_nil) .nil)

end

end Conform.Value
