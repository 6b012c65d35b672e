import Conform.Proofs.Registry.Reordered
import Conform.Proofs.Session.Intact
import Conform.Proofs.Session.Trials
/-!
The order of registration. Two sessions whose registries hold the same shapes in different orders go
side by side: whatever is derived, looked up or checked in one has the same outcome in the other, and
leaves the two as they were to each other.
-/

namespace Conform

open Spec (InStep)

namespace Session

/-- The same session, with the shapes of its registries in other orders. -/
inductive Reordered (s : Session) : Session → Prop
  | mk {registries : List Registry} : List.Forall₂ Registry.Reordered s.registries registries →
    Reordered s { s with registries := registries }

variable {s s' : Session}

theorem Reordered.registryAt? (h : s.Reordered s') (id : Nat) :
    (s.registryAt? id = none ∧ s'.registryAt? id = none) ∨
      ∃ r r', s.registryAt? id = some r ∧ s'.registryAt? id = some r' ∧ r.Reordered r' := by
  obtain ⟨hregistries⟩ := h
  have hget := List.forall₂_iff_get.mp hregistries
  unfold Session.registryAt?
  by_cases hid : id < s.registries.length
  · have hid' := hget.1 ▸ hid
    exact .inr ⟨_, _, List.getElem?_eq_getElem hid, List.getElem?_eq_getElem hid', hget.2 id hid hid'⟩
  · have hid' := hget.1 ▸ hid
    exact .inl ⟨List.getElem?_eq_none (Nat.le_of_not_lt hid),
      List.getElem?_eq_none (Nat.le_of_not_lt hid')⟩

theorem Reordered.memoized_eq (h : s.Reordered s') (id : Nat) : s'.memoized id = s.memoized id := by
  obtain ⟨hregistries⟩ := h
  rfl

theorem Reordered.reach_eq (h : s.Reordered s') (v : Value) : Check.reach v s' = Check.reach v s := by
  obtain ⟨hregistries⟩ := h
  rfl

end Session

/-! ## Derivations side by side -/

namespace Build

/-- The build has the same result in sessions that differ in the order of shapes, and leaves sessions
that differ so. -/
def Unaware {α : Type} (x : Build α) : Prop :=
  ∀ s s' : Session, s.Reordered s' →
    (x.run s).1 = (x.run s').1 ∧ (x.run s).2.Reordered (x.run s').2

theorem compositional_unaware : Compositional Unaware where
  pure _ _ _ hs := ⟨rfl, hs⟩
  throw _ _ _ hs := ⟨rfl, hs⟩
  bind {_ _ x f} hx hf s s' hs := by
    have h := hx s s' hs
    rw [run_bind, run_bind]
    rcases hrun : x.run s with ⟨e | a, t⟩ <;> rcases hrun' : x.run s' with ⟨e' | a', t'⟩ <;>
      rw [hrun, hrun'] at h <;> obtain ⟨hsame, ht⟩ := h <;> cases hsame
    · exact ⟨rfl, ht⟩
    · exact hf a t t' ht
  newInstance _ _ hs := by
    obtain ⟨hregistries⟩ := hs
    exact ⟨rfl, ⟨hregistries⟩⟩
  newCell _ _ hs := by
    obtain ⟨hregistries⟩ := hs
    exact ⟨rfl, ⟨hregistries⟩⟩
  remembered _ _ _ _ hs := by
    obtain ⟨hregistries⟩ := hs
    exact ⟨rfl, ⟨hregistries⟩⟩
  memoize key spec s _ hs := by
    obtain ⟨hregistries⟩ := hs
    rw [Session.run_memoize, Session.run_memoize]
    simp only
    cases s.memo.lookup key with
    | some kept => exact ⟨rfl, ⟨hregistries⟩⟩
    | none => exact ⟨rfl, ⟨hregistries⟩⟩

end Build

namespace Session

open Build (Unaware compositional_unaware)

theorem deriveShape_eq {r r' : Registry} (h : r.Reordered r') (id steps : Nat) :
    deriveShape id r' steps = deriveShape id r steps := by
  induction steps with
  | zero =>
    funext stack name args
    simp only [deriveShape, h.config, h.lookup_eq]
  | succ steps ih =>
    funext stack name args
    simp only [deriveShape, h.config, h.lookup_eq, h.effectiveFields_eq, ih]

theorem run_liveRegistry_none {id : Nat} (h : s.registryAt? id = none) :
    (liveRegistry id).run s = (.error .registryDropped, s) := by
  unfold liveRegistry
  rw [Build.run_bind, Build.run_get]
  simp only [h]
  rfl

/-- What is done with a live registry does not see the order of shapes, if it is the same whatever the
order in that registry. -/
theorem unaware_live {α : Type} (id : Nat) {k : Registry → Build α} (hk : ∀ r, Unaware (k r))
    (hsame : ∀ {r r'}, r.Reordered r' → k r' = k r) : Unaware (liveRegistry id >>= k) := by
  intro s s' hs
  have halive : s'.isAlive id = s.isAlive id := by
    obtain ⟨hregistries⟩ := hs
    rfl
  rw [Build.run_bind, Build.run_bind]
  rcases hs.registryAt? id with ⟨hnone, hnone'⟩ | ⟨r, r', hr, hr', hreordered⟩
  · rw [run_liveRegistry_none hnone, run_liveRegistry_none hnone']
    exact ⟨rfl, hs⟩
  · cases hs_alive : s.isAlive id with
    | false =>
      rw [run_liveRegistry_dropped hs_alive, run_liveRegistry_dropped (halive.trans hs_alive)]
      exact ⟨rfl, hs⟩
    | true =>
      rw [run_liveRegistry hr hs_alive, run_liveRegistry hr' (halive.trans hs_alive)]
      simp only
      rw [hsame hreordered]
      exact hk r s s' hs

theorem unaware_derive (id : Nat) (name : String) (args : List Kind) :
    Unaware (derive id name args) :=
  unaware_live id (fun _ => compositional_unaware.deriveShape _ _ _ _ _ _) fun h => by
    rw [h.length_eq, deriveShape_eq h]

theorem unaware_specFor (id : Nat) (k : Kind) : Unaware (specFor id k) :=
  unaware_live id
    (fun _ => compositional_unaware.deriveKind (fun _ _ => compositional_unaware.deriveShape _ _ _ _ _ _) k)
    fun h => by rw [h.length_eq, deriveShape_eq h]

theorem unaware_find (target : Target) : Unaware (find target) := by
  cases target with
  | shape id name args => exact unaware_derive id name args
  | forward id name args =>
    refine unaware_live id (fun r => ?_) fun h => by
      rw [h.contains_eq, h.builtin?_eq, h.unresolved_eq]
    split
    · exact unaware_derive id name args
    · split
      · exact compositional_unaware.bind compositional_unaware.newInstance fun _ =>
          compositional_unaware.pure _
      · exact compositional_unaware.throw _
  | bound name =>
    intro s s' hs
    unfold find
    rw [Build.run_bind, Build.run_bind, Build.run_get, Build.run_get]
    obtain ⟨hregistries⟩ := hs
    simp only [spec?]
    cases s.names.lookup name with
    | some spec => exact ⟨rfl, ⟨hregistries⟩⟩
    | none => exact ⟨rfl, ⟨hregistries⟩⟩

theorem unaware_resolve (reference : Reference) : Unaware (resolve reference) := by
  intro s s' hs
  have hfind := unaware_find reference.target s s' hs
  have hfilled : s'.filled = s.filled := by
    obtain ⟨hregistries⟩ := hs
    rfl
  rw [run_resolve, run_resolve, hfilled]
  cases s.filled.lookup reference.cell with
  | some spec => exact ⟨rfl, hs⟩
  | none =>
    rcases hrun : (find reference.target).run s with ⟨e | spec, t⟩ <;>
      rcases hrun' : (find reference.target).run s' with ⟨e' | spec', t'⟩ <;>
      rw [hrun, hrun'] at hfind <;> obtain ⟨hsame, ht⟩ := hfind <;> cases hsame
    · exact ⟨rfl, ht⟩
    · obtain ⟨hregistries⟩ := ht
      exact ⟨rfl, ⟨hregistries⟩⟩

end Session

/-! ## Checks side by side -/

namespace Check

/-- The first check has the same outcome in a session as the second in one that differs in the order of
shapes, and they leave sessions that differ so. -/
def SideBySide {α : Type} (x y : Check α) : Prop :=
  ∀ s s' : Session, s.Reordered s' →
    (x s = none ∧ y s' = none) ∨
      ∃ a t t', x s = some (a, t) ∧ y s' = some (a, t') ∧ t.Reordered t'

theorem compositional_sideBySide : Compositional SideBySide where
  pure a s s' hs := .inr ⟨a, s, s', rfl, rfl, hs⟩
  bind {_ _ x y f g} hx hf s s' hs := by
    rw [bind_apply, bind_apply]
    rcases hx s s' hs with ⟨hnone, hnone'⟩ | ⟨a, t, t', hrun, hrun', ht⟩
    · rw [hnone, hnone']
      exact .inl ⟨rfl, rfl⟩
    · rw [hrun, hrun']
      exact hf a t t' ht

theorem sideBySide_behind {α : Type} {reference : Reference} {x : Check α} {f : Spec → Check α}
    {missing : SpecError → α}
    (hx : ∀ s, x s =
      match (Session.resolve reference).run s with
      | (.ok spec, t) => f spec t
      | (.error e, t) => some (missing e, t))
    (hf : ∀ spec, SideBySide (f spec) (f spec)) : SideBySide x x := by
  intro s s' hs
  have hresolve := Session.unaware_resolve reference s s' hs
  rw [hx, hx]
  rcases hrun : (Session.resolve reference).run s with ⟨e | spec, t⟩ <;>
    rcases hrun' : (Session.resolve reference).run s' with ⟨e' | spec', t'⟩ <;>
    rw [hrun, hrun'] at hresolve <;> obtain ⟨hsame, ht⟩ := hresolve <;> cases hsame
  · exact .inr ⟨missing e, t, t', rfl, rfl, ht⟩
  · exact hf spec t t' ht

end Check

open Check (SideBySide sideBySide_behind)

theorem Spec.sideBySide_within (n : Nat) (s : Spec) (v : Value) :
    InStep SideBySide (.within n) (.within n) s v := by
  induction n generalizing s v with
  | zero =>
    refine inStep_of_lazily Check.compositional_sideBySide (fun i reference v => ⟨?_, ?_⟩) s v
    · exact sideBySide_behind (conformWith_resolve rfl i reference v) fun _ _ _ _ => .inl ⟨rfl, rfl⟩
    · exact fun path => sideBySide_behind (explainWith_resolve rfl i reference path v)
        fun _ _ _ _ => .inl ⟨rfl, rfl⟩
  | succ n ih =>
    refine inStep_of_lazily Check.compositional_sideBySide (fun i reference v => ⟨?_, ?_⟩) s v
    · exact sideBySide_behind (conformWith_deferred n i reference v) fun spec => (ih spec v).conform
    · exact fun path => sideBySide_behind (explainWith_deferred n i reference path v)
        fun spec => (ih spec v).explain path

/-! ## Callers side by side -/

/-- What a caller asks for, where it may also ask whether all references mean something. -/
inductive Inquiry where
  | call (x : Call)
  | references

inductive Reply where
  | answered (answer : Answer)
  | checked (outcome : Except SpecError Unit)

namespace Caller

def inquire (id : Nat) (c : Caller) : Inquiry → Reply × Caller
  | .call x => ((.answered (c.call id x).1), (c.call id x).2)
  | .references =>
    match c.session.registryAt? id with
    | some r => (.checked r.checkReferences, c)
    | none => (.checked (.error .registryDropped), c)

/-- The replies to all inquiries, each with the number of specs that are kept then. -/
def replies (id : Nat) : Caller → List Inquiry → List (Reply × Nat)
  | _, [] => []
  | c, inquiry :: inquiries =>
    let (reply, c) := c.inquire id inquiry
    (reply, c.session.memoized id) :: replies id c inquiries

/-- The same specs, in sessions that differ in the order of shapes. -/
structure Reordered (c c' : Caller) : Prop where
  session : c.session.Reordered c'.session
  specs : c'.specs = c.specs

namespace Reordered

variable {c c' : Caller} {id : Nat}

theorem specFor (h : c.Reordered c') (k : Kind) :
    (c'.call id (.specFor k)).1 = (c.call id (.specFor k)).1 ∧
      (c.call id (.specFor k)).2.Reordered (c'.call id (.specFor k)).2 := by
  have hmade := Session.unaware_specFor id k c.session c'.session h.session
  rw [call_specFor, call_specFor]
  rcases hrun : (Session.specFor id k).run c.session with ⟨e | spec, t⟩ <;>
    rcases hrun' : (Session.specFor id k).run c'.session with ⟨e' | spec', t'⟩ <;>
    rw [hrun, hrun'] at hmade <;> obtain ⟨hsame, ht⟩ := hmade <;> cases hsame
  · exact ⟨rfl, ht, h.specs⟩
  · exact ⟨rfl, ht, congrArg (· ++ [spec]) h.specs⟩

/-- Every call has the same answer. -/
theorem call (h : c.Reordered c') (id : Nat) (x : Call) :
    (c'.call id x).1 = (c.call id x).1 ∧ (c.call id x).2.Reordered (c'.call id x).2 := by
  cases x with
  | derive name args => exact h.specFor (.record name args)
  | specFor k => exact h.specFor k
  | conform i v =>
    simp only [Caller.call, h.specs]
    cases c.specs[i]? with
    | none => exact ⟨rfl, h⟩
    | some spec =>
      have hwalk := (Spec.sideBySide_within (Check.reach v c.session) spec v).conform _ _ h.session
      simp only [Check.conform, h.session.reach_eq]
      rcases hwalk with ⟨hnone, hnone'⟩ | ⟨outcome, t, t', hrun, hrun', ht⟩
      · rw [hnone, hnone']
        exact ⟨rfl, h⟩
      · rw [hrun, hrun']
        exact ⟨rfl, ht, rfl⟩
  | explain i path v =>
    simp only [Caller.call, h.specs]
    cases c.specs[i]? with
    | none => exact ⟨rfl, h⟩
    | some spec =>
      have hwalk :=
        (Spec.sideBySide_within (Check.reach v c.session) spec v).explain path _ _ h.session
      simp only [Check.explain, h.session.reach_eq]
      rcases hwalk with ⟨hnone, hnone'⟩ | ⟨problems, t, t', hrun, hrun', ht⟩
      · rw [hnone, hnone']
        exact ⟨rfl, h⟩
      · rw [hrun, hrun']
        exact ⟨rfl, ht, rfl⟩

theorem inquire (h : c.Reordered c') (id : Nat) (inquiry : Inquiry) :
    (c'.inquire id inquiry).1 = (c.inquire id inquiry).1 ∧
      (c.inquire id inquiry).2.Reordered (c'.inquire id inquiry).2 := by
  cases inquiry with
  | call x =>
    obtain ⟨hanswer, hc⟩ := h.call id x
    exact ⟨congrArg Reply.answered hanswer, hc⟩
  | references =>
    unfold Caller.inquire
    rcases h.session.registryAt? id with ⟨hnone, hnone'⟩ | ⟨r, r', hr, hr', hreordered⟩
    · rw [hnone, hnone']
      exact ⟨rfl, h⟩
    · simp only [hr, hr', hreordered.checkReferences_eq]
      exact ⟨trivial, h⟩

theorem replies (h : c.Reordered c') (inquiries : List Inquiry) :
    c'.replies id inquiries = c.replies id inquiries := by
  induction inquiries generalizing c c' with
  | nil => rfl
  | cons inquiry inquiries ih =>
    obtain ⟨hreply, hc⟩ := h.inquire id inquiry
    simp only [Caller.replies, hreply, hc.session.memoized_eq, ih hc]

end Reordered

/-! ### Registration -/

theorem register_holding {r : Registry} {shape : Shape} (h : shape.name ∉ r.shapes.map (·.name)) :
    (of r).register 0 shape = of ⟨r.name, r.config, r.shapes ++ [shape]⟩ := by
  have hnew : r.contains shape.name = false := by
    rw [Registry.contains, Option.isSome_eq_false_iff, Option.isNone_iff_eq_none, Registry.shape?,
      List.find?_eq_none]
    intro other hmem heq
    exact h (List.mem_map.mpr ⟨other, hmem, of_decide_eq_true heq⟩)
  have hregister : r.register shape = .ok ⟨r.name, r.config, r.shapes ++ [shape]⟩ := by
    rw [Registry.register, hnew]
    rfl
  have hsession : (Session.holding r).register 0 shape =
      .ok (.holding ⟨r.name, r.config, r.shapes ++ [shape]⟩) := by
    change (r.register shape >>= fun r' => Except.ok _) = _
    rw [hregister]
    rfl
  rw [Caller.register, show (of r).session = .holding r from rfl, hsession]
  rfl

/-- Shapes of different names are all registered. -/
theorem walk_register (shapes : List Shape) {r : Registry}
    (h : ((r.shapes ++ shapes).map (·.name)).Nodup) :
    (of r).walk 0 (shapes.map .register) = of ⟨r.name, r.config, r.shapes ++ shapes⟩ := by
  induction shapes generalizing r with
  | nil => rw [List.append_nil]; rfl
  | cons shape shapes ih =>
    have hnew : shape.name ∉ r.shapes.map (·.name) := by
      rw [List.map_append] at h
      exact fun hmem => (List.nodup_append.mp h).2.2 _ hmem _ List.mem_cons_self rfl
    have hstep : (of r).walk 0 ((shape :: shapes).map .register) =
        ((of r).register 0 shape).walk 0 (shapes.map .register) := rfl
    rw [hstep, register_holding hnew, ih (by simpa using h)]
    simp

/-- Registering shapes of different names in one order or in another makes no difference to anything
that is asked later: every reply is the same, and so is the number of specs that are kept after it. -/
theorem replies_of_perm (name : String) (config : DeriveConfig) {shapes shapes' : List Shape}
    (hperm : shapes.Perm shapes') (hdistinct : (shapes.map (·.name)).Nodup)
    (inquiries : List Inquiry) :
    let c := (of ⟨name, config, []⟩).walk 0 (shapes.map .register)
    let c' := (of ⟨name, config, []⟩).walk 0 (shapes'.map .register)
    c.session.registries = [⟨name, config, shapes⟩] ∧
      c'.session.registries = [⟨name, config, shapes'⟩] ∧
      c'.replies 0 inquiries = c.replies 0 inquiries := by
  have hdistinct' : (shapes'.map (·.name)).Nodup := (hperm.map (·.name)).nodup_iff.mp hdistinct
  have hreordered : (of ⟨name, config, shapes⟩).Reordered (of ⟨name, config, shapes'⟩) :=
    ⟨⟨.cons ⟨rfl, rfl, hperm, hdistinct⟩ .nil⟩, rfl⟩
  simp only [walk_register shapes (r := ⟨name, config, []⟩) hdistinct,
    walk_register shapes' (r := ⟨name, config, []⟩) hdistinct', List.nil_append]
  exact ⟨rfl, rfl, hreordered.replies inquiries⟩

/-- A shape with a member of the other one, and that. -/
def outerAndInner : List Shape :=
  [⟨"Outer", [], [⟨"inner", .record "Inner" []⟩], []⟩, ⟨"Inner", [], [⟨"n", .leaf .int⟩], []⟩]

theorem replies_of_perm_outerAndInner :
    let inquiries : List Inquiry := [.references, .call (.derive "Outer" []), .call (.conform 0 .null)]
    let c := (of ⟨"shapes", .default, []⟩).walk 0 (outerAndInner.map .register)
    let c' := (of ⟨"shapes", .default, []⟩).walk 0 (outerAndInner.reverse.map .register)
    outerAndInner.Perm outerAndInner.reverse ∧ (outerAndInner.map (·.name)).Nodup ∧
      c'.replies 0 inquiries = c.replies 0 inquiries := by
  have hdistinct : (outerAndInner.map (·.name)).Nodup := by decide
  have hperm := (List.reverse_perm outerAndInner).symm
  exact ⟨hperm, hdistinct, (replies_of_perm "shapes" .default hperm hdistinct _).2.2⟩

end Caller

end Conform
