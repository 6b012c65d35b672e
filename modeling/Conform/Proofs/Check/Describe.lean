import Conform.Proofs.Check.Refuse
/-!
Descriptions. A tree is described as it is walked for a value: all that is asked of the session is asked
at its lazy references, so descriptions are in step, and lose nothing, if they are so there.
-/

namespace Conform

open Check (Compositional along_behind)

namespace Spec

section
variable {P : {α : Type} → Check α → Check α → Prop} {d d' : Delegate}

mutual

/-- Trees are described in step if their lazy references are. -/
theorem describe_of_lazily (hP : Compositional P)
    (hlazy : ∀ i reference,
      P (describeWith d (deferred i reference)) (describeWith d' (deferred i reference))) :
    ∀ s : Spec, P (describeWith d s) (describeWith d' s)
  | anything _ | never _ | predicate _ _ | equalTo _ _ | isInstance _ _ | isIn _ _ | unbound _ _
  | consistency _ _ => by
    unfold describeWith
    exact hP.pure _
  | decorated _ s description => by
    unfold describeWith
    cases description with
    | some text => exact hP.pure text
    | none => exact describe_of_lazily hP hlazy s
  | coerce _ _ s _ => by
    unfold describeWith
    exact describe_of_lazily hP hlazy s
  | oneOf _ ss | allOf _ ss => by
    unfold describeWith
    exact hP.bind (describeEach_of_lazily hP hlazy ss) fun _ => hP.pure _
  | collOf _ item => by
    unfold describeWith
    exact hP.bind (describe_of_lazily hP hlazy item) fun _ => hP.pure _
  | dict _ keys _ => by
    unfold describeWith
    exact hP.bind (describeKeys_of_lazily hP hlazy keys) fun _ => hP.pure _
  | deferred i reference => hlazy i reference

theorem describeEach_of_lazily (hP : Compositional P)
    (hlazy : ∀ i reference,
      P (describeWith d (deferred i reference)) (describeWith d' (deferred i reference))) :
    ∀ ss : List Spec, P (describeEach d ss) (describeEach d' ss)
  | [] => by
    unfold describeEach
    exact hP.pure _
  | s :: ss => by
    unfold describeEach
    exact hP.bind (describe_of_lazily hP hlazy s) fun _ =>
      hP.bind (describeEach_of_lazily hP hlazy ss) fun _ => hP.pure _

theorem describeKeys_of_lazily (hP : Compositional P)
    (hlazy : ∀ i reference,
      P (describeWith d (deferred i reference)) (describeWith d' (deferred i reference))) :
    ∀ keys : List (String × Spec), P (describeKeys d keys) (describeKeys d' keys)
  | [] => by
    unfold describeKeys
    exact hP.pure _
  | (_, s) :: keys => by
    unfold describeKeys
    exact hP.bind (describe_of_lazily hP hlazy s) fun _ =>
      hP.bind (describeKeys_of_lazily hP hlazy keys) fun _ => hP.pure _

end

end

theorem describeWith_looks {d : Delegate} {look : Build Spec} {reference : Reference}
    (hd : ∀ s, d.resolve reference s = some (look.run s)) (i : Instance) (s : Session) :
    describeWith d (deferred i reference) s =
      match look.run s with
      | (.ok spec, t) => d.describe spec t
      | (.error _, t) => some ("unresolved reference to " ++ reference.label, t) := by
  conv => lhs; unfold describeWith
  rw [Check.bind_apply, hd]
  change Option.bind (some (look.run s)) _ = _
  rcases look.run s with ⟨e | spec, t⟩ <;> rfl

theorem describe_along {P : Session → Session → Prop} (hP : Session.Course P) (n : Nat) (s : Spec) :
    Check.Along P (describeWith (.within n) s) (describeWith (.within n) s) := by
  induction n generalizing s with
  | zero =>
    refine describe_of_lazily (Check.compositional_along hP) (fun i reference => ?_) s
    exact along_behind hP (describeWith_looks (fun _ => rfl) i) fun _ _ _ _ h => by cases h
  | succ n ih =>
    refine describe_of_lazily (Check.compositional_along hP) (fun i reference => ?_) s
    exact along_behind hP (describeWith_looks (fun _ => rfl) i) ih

theorem describe_advancing (n : Nat) (s : Spec) :
    Check.Advancing (describeWith (.within n) s) (describeWith (.within n) s) :=
  describe_along Session.course_advances n s

end Spec

end Conform
