import Conform.Proofs.Check.Blame
import Conform.Proofs.Check.Consistency
import Conform.Proofs.Check.Walk
/-!
Blame is sound. The spec that a problem names rejects the value that the problem names: whichever of a
coerced value, the output of an earlier stage, an item or the value itself was explained, and whichever
of the specs below the explained one, or a spec implied by a placeholder group, was held against it. A
key that was not expected is the exception, since no spec but the owner's says anything about it.
-/

namespace Conform

open Check (Ensures)

namespace Problem

/-- If a lazy reference is blamed, a call that is made now finds behind it what is foreseen. -/
def Foreseen (f : Forecast) (p : Problem) (t : Session) : Prop :=
  ∀ i reference, p.spec = .deferred i reference → ((Session.resolve reference).run t).1 = f reference

/-- Calls that find what is foreseen conform the blamed value to nothing. -/
def Rejected (f : Forecast) (p : Problem) : Prop :=
  ∀ t, p.Foreseen f t → ∃ t', Check.conform p.spec p.value t = some (.invalid, t')

theorem Raised.isUnexpectedKey_or_rejected {p : Problem} (h : p.Raised) (f : Forecast) :
    p.IsUnexpectedKey ∨ p.Rejected f :=
  h.imp_right fun hrejects t _ => ⟨t, congrFun (hrejects _) t⟩

/-- A reference behind which an error is foreseen rejects every value. -/
theorem rejected_unresolved {f : Forecast} {reference : Reference} {e : SpecError}
    (he : f reference = .error e) (i : Instance) (path : Path) (v : Value) (reason : String) :
    Rejected f ⟨path, v, .deferred i reference, reason⟩ := by
  intro t ht
  have hfound : ((Session.resolve reference).run t).1 = .error e := (ht i reference rfl).trans he
  have hwithin : ∀ n, (Delegate.within n).resolve = Session.resolveInCheck := by
    intro n
    cases n <;> rfl
  refine ⟨((Session.resolve reference).run t).2, ?_⟩
  unfold Check.conform
  rw [Spec.conformWith_resolve (hwithin _)]
  rcases hrun : (Session.resolve reference).run t with ⟨found, t'⟩
  rw [hrun] at hfound
  obtain rfl : found = .error e := hfound
  rfl

end Problem

namespace Spec

/-- What walks that find the foreseen blame is rejected by itself. The induction is on how many
references are left to go through. -/
theorem finds_foreseeing (f : Forecast) (n : Nat) (s : Spec) (path : Path) (v : Value) :
    Finds (fun p => p.IsUnexpectedKey ∨ p.Rejected f) (explainWith (.foreseeing f n) s path v) := by
  have hlook : ∀ reference, Ensures True (fun _ => True) (Session.resolveAs f reference) fun found =>
      ∀ e, found = .error e → ∀ i path v,
        let p : Problem := ⟨path, v, .deferred i reference, "unresolved reference: " ++ e.message⟩
        p.IsUnexpectedKey ∨ p.Rejected f :=
    fun reference => (Check.resolveAs_ensures f reference).mono fun found hfound e he i path v =>
      .inr (Problem.rejected_unresolved (hfound.symm.trans he) i path v _)
  induction n generalizing s path v with
  | zero =>
    refine finds_of_resolve (fun _ h => h.isUnexpectedKey_or_rejected f) hlook (fun _ _ _ => ?_) s path v
    exact Ensures.of_none trivial fun _ => rfl
  | succ n ih =>
    exact finds_of_resolve (fun _ h => h.isUnexpectedKey_or_rejected f) hlook ih s path v

end Spec

namespace Check

/-- Every problem that a call explains a value with, but a key that was not expected, names a spec and
a value that this spec conforms to nothing, as long as a blamed reference leads where it led. -/
theorem conform_blamed {f : Forecast} {spec : Spec} {path : Path} {v : Value} {s s' t : Session}
    {problems : List Problem} {p : Problem} (h : explain spec path v s = some (problems, s'))
    (hs : ExplainFinds f spec path v s) (hp : p ∈ problems) (hkey : ¬p.IsUnexpectedKey)
    (ht : p.Foreseen f t) : ∃ t', conform p.spec p.value t = some (.invalid, t') := by
  have hgood := ((Spec.finds_foreseeing f _ spec path v).of_some trivial (hs.trans h)).1 p hp
  exact hgood.resolve_left hkey t ht

/-! ## A union behind a reference, a name that is not bound, a key too few and one too many -/

namespace Sample

def nameless : Reference := ⟨1, "never bound", .bound "m"⟩

def keyed : List (String × Spec) :=
  [("m", .deferred (.made 3) nameless), ("n", .deferred (.made 4) lazily), ("k", .anything (.made 5))]

def keyedRecord : Spec := .dict (.made 6) keyed .forbid

def faulty : Value := .object [("m", .null), ("n", .string "one"), ("x", .null)]

/-- What it is rejected for, but for the key that is not expected. -/
def faults : List Problem :=
  [⟨⟨[.key "m"]⟩, .null, .deferred (.made 3) nameless,
      "unresolved reference: " ++ (SpecError.unknownShape "m").message⟩,
    ⟨⟨[.key "n"]⟩, .string "one", .isInstance (.made 0) .int,
      Spec.isInstanceReason .int (.string "one")⟩,
    ⟨⟨[.key "n"]⟩, .string "one", .isInstance (.made 1) .null,
      Spec.isInstanceReason .null (.string "one")⟩,
    ⟨⟨[.key "k"]⟩, .null, keyedRecord, Spec.missingKeyReason "k"⟩]

def found : Forecast := fun reference => ((Session.resolve reference).run unvisited).1

theorem explain_found (n : Nat) :
    keyedRecord.explainWith (.foreseeing found (n + 1)) .root faulty unvisited =
      keyedRecord.explainWith (.within (n + 1)) .root faulty unvisited := by
  have hnameless : Session.resolveAs found nameless unvisited =
      some (.error (.unknownShape "m"), unvisited) := if_pos rfl
  have hlazily : Session.resolveAs found lazily unvisited = some (.ok numberOrNull, visited) :=
    if_pos rfl
  have hpure : ∀ problems : List Problem, (pure problems : Check _) unvisited =
      some (problems, unvisited) := fun _ => rfl
  simp only [keyedRecord, keyed, faulty, Delegate.foreseeing, Delegate.within, Spec.explainWith,
    Spec.explainKeys, Value.get?, List.lookup_cons, String.reduceBEq, bind_apply, hnameless, hlazily,
    hpure, Option.bind_some]
  rfl

theorem not_isUnexpectedKey_of_mem_faults {p : Problem} (hp : p ∈ faults) : ¬p.IsUnexpectedKey := by
  rintro ⟨i, keys, path, key, hspec, hpath, hkey, -⟩
  simp only [faults, List.mem_cons, List.not_mem_nil, or_false] at hp
  rcases hp with rfl | rfl | rfl | rfl
  · cases hspec
  · cases hspec
  · cases hspec
  · cases hspec
    have hsteps : [PathStep.key "k"] = path.steps ++ [.key key] := congrArg Path.steps hpath
    obtain rfl : "k" = key := by simpa using congrArg List.getLast? hsteps
    cases hkey

end Sample

open Sample in
theorem conform_blamed_keyed :
    ∃ unexpected, explain keyedRecord .root faulty unvisited = some (faults ++ [unexpected], visited) ∧
      ∀ p ∈ faults, ∃ t', conform p.spec p.value unvisited = some (.invalid, t') :=
  ⟨_, rfl, fun _ hp => conform_blamed rfl (explain_found _) (List.mem_append_left _ hp)
    (not_isUnexpectedKey_of_mem_faults hp) fun _ _ _ => rfl⟩

end Check

end Conform
