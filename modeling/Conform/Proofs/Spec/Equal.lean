import Conform.Proofs.Value.Congruence
import Conform.Session.Check
/-!
Equality of specs. Two criteria are joined in it, that of being one instance and that of equal identities; the
second one is symmetric and transitive by itself, and specs that have equal identities accept the same values.
-/

namespace Conform.Spec

/-! ## Identities -/

namespace Identity

/-- Identities of one form that have equal values, or the same kind, in it. -/
inductive Equal : Identity → Identity → Prop
  | equalTo {v w : Value} : v.equal w = true → Equal (.equalTo v) (.equalTo w)
  | isInstance (kind : ValueKind) : Equal (.isInstance kind) (.isInstance kind)
  | isIn {vs ws : List Value} : (Value.list vs).equal (.list ws) = true → Equal (.isIn vs) (.isIn ws)

variable {i j k : Identity}

theorem equal_iff : i.equal j = true ↔ Equal i j := by
  constructor
  · intro h
    cases i with
    | equalTo v =>
      cases j with
      | equalTo w => exact .equalTo h
      | isInstance | isIn => cases h
    | isInstance m =>
      cases j with
      | isInstance n =>
        obtain rfl : m = n := of_decide_eq_true h
        exact .isInstance m
      | equalTo | isIn => cases h
    | isIn vs =>
      cases j with
      | isIn ws => exact .isIn h
      | equalTo | isInstance => cases h
  · intro h
    cases h with
    | equalTo h => exact h
    | isInstance kind => exact decide_eq_true rfl
    | isIn h => exact h

theorem Equal.symm (h : Equal i j) : Equal j i := by
  cases h with
  | equalTo h => exact .equalTo (Value.equal_symm h)
  | isInstance kind => exact .isInstance kind
  | isIn h => exact .isIn (Value.equal_symm h)

theorem Equal.trans (h : Equal i j) (h' : Equal j k) : Equal i k := by
  cases h with
  | equalTo h =>
    cases h' with
    | equalTo h' => exact .equalTo (Value.equal_trans h h')
  | isInstance kind => exact h'
  | isIn h =>
    cases h' with
    | isIn h' => exact .isIn (Value.equal_trans h h')

/-! ### Acceptance -/

/-- What specs of the identity accept. -/
def accepts : Identity → Value → Bool
  | equalTo expected, v => v.looselyEqual expected
  | isInstance kind, v => v.kind = kind
  | isIn members, v => isMember members v

theorem isMember_congr {members members' : List Value}
    (h : List.Forall₂ (fun m m' => m.equal m' = true) members members') (v : Value) :
    isMember members v = isMember members' v := by
  induction h with
  | nil => rfl
  | @cons m m' ms ms' hm _ ih =>
    have hfirst : m.looselyEqual v = m'.looselyEqual v := by
      rw [Value.looselyEqual_comm m, Value.looselyEqual_comm m', Value.looselyEqual_congr v hm]
    rw [isMember, List.any_cons, hfirst]
    exact congrArg (m'.looselyEqual v || ·) ih

/-- Equal identities accept the same. -/
theorem Equal.accepts_eq (h : Equal i j) (v : Value) : i.accepts v = j.accepts v := by
  cases h with
  | equalTo h => exact Value.looselyEqual_congr v h
  | isInstance kind => rfl
  | isIn h => exact isMember_congr (Value.equalBy_list.mp h) v

end Identity

/-! ## Specs -/

variable {a b c : Spec}

/-- The two specs have equal identities. -/
def Identified (a b : Spec) : Prop :=
  ∃ i j, a.identity? = some i ∧ b.identity? = some j ∧ Identity.Equal i j

theorem Identified.symm (h : Identified a b) : Identified b a := by
  obtain ⟨i, j, hi, hj, hij⟩ := h
  exact ⟨j, i, hj, hi, hij.symm⟩

theorem Identified.trans (h : Identified a b) (h' : Identified b c) : Identified a c := by
  obtain ⟨i, j, hi, hj, hij⟩ := h
  obtain ⟨j', k, hj', hk, hjk⟩ := h'
  obtain rfl := Option.some.inj (hj.symm.trans hj')
  exact ⟨i, k, hi, hk, hij.trans hjk⟩

theorem equal_iff : a.equal b = true ↔ a.id = b.id ∨ Identified a b := by
  rw [equal, Bool.or_eq_true_iff]
  refine or_congr decide_eq_true_iff ⟨fun h => ?_, ?_⟩
  · split at h
    next i j hi hj => exact ⟨i, j, hi, hj, Identity.equal_iff.mp h⟩
    next => cases h
  · rintro ⟨i, j, hi, hj, hij⟩
    rw [hi, hj]
    exact Identity.equal_iff.mpr hij

/-- A spec that has an identity answers from that alone. -/
theorem conform_of_identity {i : Identity} (h : a.identity? = some i) (v : Value) (s : Session) :
    Check.conform a v s = some (.ofBool (i.accepts v) v, s) := by
  cases a with
  | equalTo | isInstance | isIn =>
    cases h
    rfl
  | _ => cases h

theorem Identified.conform_eq (h : Identified a b) (v : Value) (s : Session) :
    Check.conform a v s = Check.conform b v s := by
  obtain ⟨i, j, hi, hj, hij⟩ := h
  rw [conform_of_identity hi, conform_of_identity hj, hij.accepts_eq]

end Conform.Spec
