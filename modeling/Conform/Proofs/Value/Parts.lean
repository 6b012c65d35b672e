import Conform.Path
import Conform.Proofs.Spec.Normal
/-!
Parts of values. A path leads from a value to a part of it; where no object has a key twice, every
pair is at the end of a path.
-/

namespace Conform

namespace Value

/-! ## Paths into values -/

/-- The part that one step leads to. -/
def step? (v : Value) : PathStep → Option Value
  | .key name => v.get? name
  | .index n => v.items?.bind (·[n]?)

/-- The part that the steps lead to, from the outside in. -/
def at? : Value → List PathStep → Option Value
  | v, [] => some v
  | v, step :: steps => (v.step? step).bind (·.at? steps)

theorem at?_cons {v w : Value} {step : PathStep} (h : v.step? step = some w)
    (steps : List PathStep) : v.at? (step :: steps) = w.at? steps := by
  simp only [at?, h, Option.bind_some]

/-! ## Distinct keys -/

mutual

/-- No object in the value has a key twice. -/
def DistinctKeys : Value → Prop
  | list items | tuple items => AllDistinctKeys items
  | object pairs => (pairs.map (·.1)).Nodup ∧ PairsDistinctKeys pairs
  | null | bool _ | int _ | float _ | string _ | bytes _ => True

def AllDistinctKeys : List Value → Prop
  | [] => True
  | v :: vs => DistinctKeys v ∧ AllDistinctKeys vs

def PairsDistinctKeys : List (String × Value) → Prop
  | [] => True
  | (_, v) :: pairs => DistinctKeys v ∧ PairsDistinctKeys pairs

end

theorem allDistinctKeys_iff {vs : List Value} : AllDistinctKeys vs ↔ ∀ v ∈ vs, v.DistinctKeys := by
  induction vs with
  | nil => simp [AllDistinctKeys]
  | cons v vs ih => simp [AllDistinctKeys, ih]

theorem pairsDistinctKeys_iff {pairs : List (String × Value)} :
    PairsDistinctKeys pairs ↔ ∀ pair ∈ pairs, pair.2.DistinctKeys := by
  induction pairs with
  | nil => simp [PairsDistinctKeys]
  | cons pair pairs ih => simp [PairsDistinctKeys, ih]

namespace DistinctKeys

variable {v w : Value} {pairs : List (String × Value)}

theorem items (h : v.DistinctKeys) {items : List Value} (hitems : v.items? = some items) :
    ∀ w ∈ items, w.DistinctKeys := by
  cases v with
  | list vs | tuple vs =>
    cases hitems
    exact allDistinctKeys_iff.mp (by simpa only [DistinctKeys] using h)
  | null | bool | int | float | string | bytes | object => cases hitems

theorem keys (h : (object pairs).DistinctKeys) : (pairs.map (·.1)).Nodup := by
  unfold DistinctKeys at h
  exact h.1

theorem members (h : (object pairs).DistinctKeys) : ∀ pair ∈ pairs, pair.2.DistinctKeys := by
  unfold DistinctKeys at h
  exact pairsDistinctKeys_iff.mp h.2

theorem get? (h : v.DistinctKeys) {key : String} (hw : v.get? key = some w) : w.DistinctKeys := by
  cases v with
  | object pairs => exact h.members (key, w) (mem_of_lookup_pair hw)
  | null | bool | int | float | string | bytes | list | tuple => cases hw

/-- Every pair of an object is at the end of a step. -/
theorem step? (h : (object pairs).DistinctKeys) {pair : String × Value} (hpair : pair ∈ pairs) :
    (object pairs).step? (.key pair.1) = some pair.2 :=
  lookup_of_mem_pair h.keys hpair

end DistinctKeys

end Value

end Conform
