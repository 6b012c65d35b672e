import Conform.Proofs.Session.Lookup
import Mathlib.Logic.Relation
/-!
What derivations are made of. A derivation makes instances and cells, looks into the memo and adds to it,
and does nothing else to a session; so what passes from these steps to the builds they make up holds of
every derivation.
-/

namespace Conform

open Session (newInstance newCell refer memoize deriveKind deriveKinds deriveFields deriveShape recordSpec
  liveRegistry derive specFor find)

/-- The spec that is kept under a key, if specs are kept. -/
def Session.remembered (memoize : Bool) (key : MemoKey) : Build (Option Spec) := do
  let s ← get
  return if memoize then s.memo.lookup key else none

namespace Build

/-- A property of builds that passes from single steps to what they make up. -/
structure Compositional (P : {α : Type} → Build α → Prop) : Prop where
  pure {α : Type} (a : α) : P (Pure.pure a : Build α)
  throw {α : Type} (e : SpecError) : P (MonadExcept.throw e : Build α)
  bind {α β : Type} {x : Build α} {f : α → Build β} : P x → (∀ a, P (f a)) → P (x >>= f)
  newInstance : P newInstance
  newCell : P newCell
  remembered (memoize : Bool) (key : MemoKey) : P (Session.remembered memoize key)
  memoize (key : MemoKey) (spec : Spec) : P (memoize key spec)

namespace Compositional

variable {P : {α : Type} → Build α → Prop} {id : Nat} {deriveRecord : String → List Kind → Build Spec}

theorem lift (hP : Compositional P) {α : Type} (x : Except SpecError α) : P (liftM x : Build α) := by
  cases x with
  | ok a => exact hP.pure a
  | error e => exact hP.throw e

theorem refer (hP : Compositional P) (label : String) (target : Target) : P (refer label target) :=
  hP.bind hP.newCell fun _ => hP.bind hP.newInstance fun _ => hP.pure _

/-! ## Derivations -/

mutual

theorem deriveKind (hP : Compositional P) (h : ∀ name args, P (deriveRecord name args)) :
    ∀ k : Kind, P (deriveKind id deriveRecord k)
  | .leaf _ | .nothing | .placeholder _ => hP.bind hP.newInstance fun _ => hP.pure _
  | .record name args => h name args
  | .forward _ _ => hP.refer _ _
  | .list item =>
    hP.bind (deriveKind hP h item) fun _ => hP.bind hP.newInstance fun _ => hP.pure _
  | .union ks =>
    hP.bind (deriveKinds hP h ks) fun _ => hP.bind hP.newInstance fun _ => hP.pure _

theorem deriveKinds (hP : Compositional P) (h : ∀ name args, P (deriveRecord name args)) :
    ∀ ks : List Kind, P (deriveKinds id deriveRecord ks)
  | [] => hP.pure []
  | k :: ks =>
    hP.bind (deriveKind hP h k) fun _ => hP.bind (deriveKinds hP h ks) fun _ => hP.pure _

end

theorem deriveFields (hP : Compositional P) (h : ∀ name args, P (deriveRecord name args))
    (fields : List Field) : P (deriveFields id deriveRecord fields) := by
  induction fields with
  | nil => exact hP.pure []
  | cons f fields ih =>
    exact hP.bind (hP.deriveKind h f.kind) fun _ => hP.bind ih fun _ => hP.pure _

theorem recordSpec (hP : Compositional P) (config : DeriveConfig) (label : String)
    (groups : List PlaceholderGroup) (keys : List (String × Spec)) :
    P (recordSpec config label groups keys) := by
  unfold Session.recordSpec
  simp only [pure_bind]
  refine hP.bind hP.newInstance fun _ => ?_
  split
  · exact hP.bind hP.newInstance fun _ => hP.bind hP.newInstance fun _ =>
      hP.bind hP.newInstance fun _ => hP.pure _
  · exact hP.bind hP.newInstance fun _ => hP.pure _

/-- A derivation asks the memo first. -/
theorem recalled (hP : Compositional P) {memoize : Bool} {key : MemoKey} {x : Build Spec} (hx : P x) :
    P (do
      let s ← get
      match if memoize then s.memo.lookup key else none with
      | some kept => return kept
      | none => x) := by
  refine hP.bind (f := fun kept => match kept with
    | some kept => (return kept : Build Spec)
    | none => x) (hP.remembered memoize key) fun kept => ?_
  cases kept with
  | some kept => exact hP.pure kept
  | none => exact hx

theorem deriveShape (hP : Compositional P) (id : Nat) (r : Registry) (steps : Nat)
    (stack : List String) (name : String) (args : List Kind) :
    P (deriveShape id r steps stack name args) := by
  induction steps generalizing stack name args with
  | zero =>
    unfold Session.deriveShape
    refine hP.recalled ?_
    split
    · exact hP.refer _ _
    · exact hP.bind (hP.lift _) fun _ => hP.bind (hP.lift _) fun _ => hP.refer _ _
  | succ steps ih =>
    unfold Session.deriveShape
    refine hP.recalled ?_
    split
    · exact hP.refer _ _
    · refine hP.bind (hP.lift _) fun shape => hP.bind (hP.lift _) fun _ => ?_
      refine hP.bind (hP.lift _) fun fields => ?_
      refine hP.bind (hP.deriveFields (ih _) fields) fun keys => ?_
      refine hP.bind (hP.recordSpec _ _ _ keys) fun spec => ?_
      split
      · exact hP.memoize _ spec
      · exact hP.pure spec

/-! ## Builds that read the session -/

theorem liveRegistry (hP : Compositional P) (hget : P (get : Build Session)) (id : Nat) :
    P (liveRegistry id) := by
  refine hP.bind hget fun s => ?_
  split
  · split
    · exact hP.pure _
    · exact hP.throw _
  · exact hP.throw _

theorem derive (hP : Compositional P) (hget : P (get : Build Session)) (id : Nat) (name : String)
    (args : List Kind) : P (derive id name args) :=
  hP.bind (hP.liveRegistry hget id) fun _ => hP.deriveShape _ _ _ _ _ _

theorem specFor (hP : Compositional P) (hget : P (get : Build Session)) (id : Nat) (k : Kind) :
    P (specFor id k) :=
  hP.bind (hP.liveRegistry hget id) fun _ => hP.deriveKind (fun _ _ => hP.deriveShape _ _ _ _ _ _) k

theorem find (hP : Compositional P) (hget : P (get : Build Session)) (target : Target) :
    P (find target) := by
  cases target with
  | shape id name args => exact hP.derive hget id name args
  | forward id name args =>
    refine hP.bind (hP.liveRegistry hget id) fun r => ?_
    split
    · exact hP.derive hget id name args
    · split
      · exact hP.bind hP.newInstance fun _ => hP.pure _
      · exact hP.throw _
  | bound name =>
    refine hP.bind hget fun s => ?_
    split
    · exact hP.pure _
    · exact hP.throw _

end Compositional

end Build

end Conform
