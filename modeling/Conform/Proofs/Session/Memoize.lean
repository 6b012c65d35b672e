import Conform.Proofs.Registry.Memo
import Conform.Proofs.Session.Calls
/-!
Whether callers can tell that specs are kept. They cannot if and only if no shape is ever kept that
could not be derived by itself: such a shape can be had later from a registry that keeps it, and from
no other. Otherwise every answer is the one that needs no session at all.
-/

namespace Conform

/-! ## The same shapes, with specs kept or not -/

namespace Registry

def memoizing (r : Registry) (memoize : Bool) : Registry :=
  { r with config := { r.config with memoize } }

section
variable (r : Registry) (m : Bool)

theorem effectiveFields_memoizing : (r.memoizing m).effectiveFields = r.effectiveFields :=
  r.effectiveFields_under { r.config with memoize := m }

theorem fieldsOf_memoizing : (r.memoizing m).fieldsOf = r.fieldsOf :=
  r.fieldsOf_under { r.config with memoize := m }

theorem attempt_memoizing (memoize : Bool) (steps : Nat) :
    (r.memoizing m).attempt memoize steps = r.attempt memoize steps := by
  induction steps with
  | zero =>
    funext stack a done
    unfold attempt
    rfl
  | succ steps ih =>
    funext stack a done
    unfold attempt
    simp only [ih, effectiveFields_memoizing]
    rfl

theorem start_memoizing : (r.memoizing m).start = r.start := by
  funext memoize a
  unfold start
  rw [attempt_memoizing]
  rfl

theorem alone_memoizing : (r.memoizing m).Alone = r.Alone := by
  funext a
  unfold Alone
  rw [start_memoizing]

theorem keepsAlone_memoizing : (r.memoizing m).KeepsAlone ↔ r.KeepsAlone := by
  unfold KeepsAlone
  rw [start_memoizing, alone_memoizing]

theorem recordMeaning_memoizing (id : Nat) :
    (r.memoizing m).recordMeaning id = r.recordMeaning id := by
  funext refs a
  unfold recordMeaning
  rw [start_memoizing, fieldsOf_memoizing]
  rfl

theorem refs_memoizing (id n : Nat) : (r.memoizing m).refs id n = r.refs id n := by
  induction n with
  | zero => rfl
  | succ n ih =>
    funext target
    cases target with
    | shape registry name args =>
      unfold refs
      rw [recordMeaning_memoizing, ih]
    | forward registry name args =>
      unfold refs
      rw [recordMeaning_memoizing, ih]
      rfl
    | bound name => rfl

end

end Registry

/-! ## Answers without a session -/

namespace Registry

section
variable (r : Registry) (id : Nat)

/-- Every shape is derived for itself, and nothing is kept. -/
def made (kinds : List Kind) (k : Kind) : Answer × List Kind :=
  match forM k.records fun a => (r.start false a []).1 with
  | .ok () => (.made, kinds ++ [k])
  | .error e => (.refused e, kinds)

/-- What a caller is told who has specs of these kinds, and the kinds of the specs after it. -/
def answer (kinds : List Kind) : Call → Answer × List Kind
  | .derive name args => r.made kinds (.record name args)
  | .specFor k => r.made kinds k
  | .conform i v =>
    match kinds[i]? with
    | none => (.unknownSpec, kinds)
    | some k => (.conformed ((k.meaning id (r.refs id (v.depth + 1))).conform v), kinds)
  | .explain i path v =>
    match kinds[i]? with
    | none => (.unknownSpec, kinds)
    | some k =>
      (.explained (((k.meaning id (r.refs id (v.depth + 1))).explain path v).map Problem.report),
        kinds)

def answers : List Kind → List Call → List Answer
  | _, [] => []
  | kinds, call :: calls =>
    (r.answer id kinds call).1 :: answers (r.answer id kinds call).2 calls

variable (m : Bool)

theorem answer_memoizing : (r.memoizing m).answer id = r.answer id := by
  funext kinds call
  cases call with
  | derive | specFor =>
    unfold answer made
    rw [start_memoizing]
  | conform | explain =>
    simp only [answer]
    rw [refs_memoizing]

theorem answers_memoizing (kinds : List Kind) (calls : List Call) :
    (r.memoizing m).answers id kinds calls = r.answers id kinds calls := by
  induction calls generalizing kinds with
  | nil => rfl
  | cons call calls ih =>
    unfold answers
    rw [answer_memoizing, ih]

end

end Registry

section
variable {id : Nat} {r : Registry} {Q : Target → Prop} {kinds : List Kind} {c : Caller}

theorem Settled.attemptAll {F : Target → Prop} (hS : Settled id r Q F) {as : List Applied}
    (hF : ∀ a ∈ as, F (.shape id a.1 a.2)) {done : List Applied}
    (hdone : ∀ a ∈ done, Q (.shape id a.1 a.2)) :
    (Registry.attemptAll (r.start r.config.memoize) as done).1 =
      forM as fun a => (r.start false a []).1 := by
  induction as generalizing done with
  | nil => rfl
  | cons a as ih =>
    have ha : (r.start r.config.memoize a done).1 = (r.start false a []).1 :=
      hS.seek_eq (.shape id a.1 a.2) done (hF a List.mem_cons_self) rfl hdone
    have hmid : ∀ b ∈ (r.start r.config.memoize a done).2, Q (.shape id b.1 b.2) :=
      hS.seek (.shape id a.1 a.2) done rfl hdone
    cases halone : (r.start false a []).1 with
    | error e =>
      rw [halone] at ha
      rw [Registry.attemptAll_cons_error ha, List.forM_cons, halone]
      rfl
    | ok u =>
      rw [halone] at ha
      rw [Registry.attemptAll_cons_ok ha, List.forM_cons, halone]
      exact ih (fun b hb => hF b (List.mem_cons_of_mem a hb)) hmid

namespace Caller.Sound

/-- Where references are settled, a call is answered as without a session. -/
theorem call_eq (hS : Settled id r Q fun _ => True) (h : c.Sound id r Q kinds) (x : Call) :
    (c.call id x).1 = (r.answer id kinds x).1 ∧
      (c.call id x).2.Sound id r Q (r.answer id kinds x).2 := by
  have hspecFor : ∀ k, (c.call id (.specFor k)).1 = (r.made kinds k).1 ∧
      (c.call id (.specFor k)).2.Sound id r Q (r.made kinds k).2 := by
    intro k
    have hkept : ∀ a ∈ c.session.kept id, Q (.shape id a.1 a.2) := fun _ ha => h.kept ha
    have hmade : (Registry.attemptAll (r.start r.config.memoize) k.records (c.session.kept id)).1 =
        forM k.records fun a => (r.start false a []).1 := hS.attemptAll (fun _ _ => trivial) hkept
    unfold Registry.made
    rcases h.specFor (hS.toClosed.attemptAll k.records hkept) with
      ⟨hok, c', hcall, hc'⟩ | ⟨e, herror, c', hcall, hc'⟩
    · rw [← hmade, hok, hcall]
      exact ⟨rfl, hc'⟩
    · rw [← hmade, herror, hcall]
      exact ⟨rfl, hc'⟩
  cases x with
  | derive name args => exact hspecFor (.record name args)
  | specFor k => exact hspecFor k
  | conform i v =>
    simp only [Registry.answer]
    rcases h.conform i v (fun _ hstands hv =>
        (hstands.implements_meaning hS (fun _ _ => trivial) hv (Nat.lt_succ_self _)).conform) with
      ⟨hkind, hcall⟩ | ⟨k, outcome, c', hkind, hcall, houtcome, hc'⟩
    · rw [hkind, hcall]
      exact ⟨rfl, h⟩
    · rw [hkind, hcall]
      exact ⟨congrArg Answer.conformed houtcome, hc'⟩
  | explain i path v =>
    simp only [Registry.answer]
    rcases h.explain i path v (fun _ hstands hv =>
        (hstands.implements_meaning hS (fun _ _ => trivial) hv (Nat.lt_succ_self _)).explain path) with
      ⟨hkind, hcall⟩ | ⟨k, problems, c', hkind, hcall, hproblems, hc'⟩
    · rw [hkind, hcall]
      exact ⟨rfl, h⟩
    · rw [hkind, hcall]
      exact ⟨congrArg Answer.explained hproblems, hc'⟩

theorem run_eq (hS : Settled id r Q fun _ => True) (h : c.Sound id r Q kinds) (calls : List Call) :
    (c.run id calls).1 = r.answers id kinds calls := by
  induction calls generalizing c kinds with
  | nil => rfl
  | cons x calls ih =>
    obtain ⟨hanswer, hsound⟩ := h.call_eq hS x
    change (c.call id x).1 :: ((c.call id x).2.run id calls).1 = _
    rw [hanswer, ih hsound]
    rfl

end Caller.Sound

end

/-! ## If only shapes are kept that can be derived by themselves -/

namespace Registry

section
variable {id : Nat} {r : Registry}

/-- What is built into specs, or found to be builtin, where only such shapes are kept. -/
def Standalone (r : Registry) : Target → Prop
  | .shape _ name args => r.Alone (name, args)
  | .forward _ name _ => r.contains name = false
  | .bound _ => True

theorem KeepsAlone.seek_agree (hr : r.KeepsAlone) (memoize : Bool) (target : Target)
    {done : List Applied} (hdone : ∀ a ∈ done, r.Alone a) :
    (r.seek memoize target done).1 = (r.seek false target []).1 ∧
      ∀ a ∈ (r.seek memoize target done).2, r.Alone a := by
  cases target with
  | shape registry name args => exact start_agree hr memoize (name, args) hdone
  | bound name => exact ⟨rfl, hdone⟩
  | forward registry name args =>
    simp only [seek]
    by_cases hname : r.contains name = true
    · rw [if_pos hname, if_pos hname]
      exact start_agree hr memoize (name, args) hdone
    · rw [if_neg hname, if_neg hname]
      cases r.builtin? name args <;> exact ⟨rfl, hdone⟩

theorem KeepsAlone.settled (hr : r.KeepsAlone) : Settled id r r.Standalone fun _ => True where
  builtin _ _ hname := hname
  seek target _ _ hdone := (hr.seek_agree r.config.memoize target hdone).2
  seek_eq target _ _ _ hdone := (hr.seek_agree r.config.memoize target hdone).1
  alone _ _ h := h
  notBuiltin _ _ h := h
  fields _ _ _ _ _ _ := trivial
  forward _ _ := trivial

/-- Whether specs are kept or not, every answer is then the one that needs no session. -/
theorem KeepsAlone.run_eq (hr : r.KeepsAlone) (memoize : Bool) (calls : List Call) :
    ((Caller.of (r.memoizing memoize)).run 0 calls).1 = r.answers 0 [] calls := by
  have hr' : (r.memoizing memoize).KeepsAlone := (r.keepsAlone_memoizing memoize).mpr hr
  rw [(Caller.Sound.of (r.memoizing memoize) _).run_eq hr'.settled, answers_memoizing]

end

end Registry

/-! ## If a shape is kept that cannot -/

section
variable {id : Nat} {r : Registry} {kinds : List Kind} {c : Caller}

theorem Caller.Sound.made_iff (h : c.Sound id r (fun _ => True) kinds) (a : Applied) :
    (c.call id (.derive a.1 a.2)).1 = .made ↔
      (r.start r.config.memoize a (c.session.kept id)).1 = .ok () := by
  have hall := Registry.attemptAll_singleton (r.start r.config.memoize) a
  rw [← hall, Caller.call_derive]
  rcases h.specFor (k := .record a.1 a.2) fun _ _ => trivial with
    ⟨hok, c', hcall, _⟩ | ⟨e, herror, c', hcall, _⟩
  · rw [hcall]
    exact iff_of_true rfl hok
  · rw [hcall]
    refine iff_of_false (fun h => by cases h) fun hok => ?_
    cases herror.symm.trans hok

namespace Session

theorem derive_arrives (r : Registry) (a : Applied) :
    ∃ cells, Arrives 0 r (fun _ => True) (.holding r) [] ((derive 0 a.1 a.2).run (.holding r))
      (r.start r.config.memoize a []) (fun cells s => StandsRecord 0 r (fun _ => True) cells a s)
      cells :=
  derive_follows a.1 a.2 [] (.holding r) [] [] (List.prefix_refl _) (sound_holding r _)
    (tallies_kept (.holding r)) fun _ _ => trivial

/-- What a first derivation leaves behind is what the attempt is done with. -/
theorem mem_kept_derive (r : Registry) (a b : Applied) :
    b ∈ ((derive 0 a.1 a.2).run (.holding (r.memoizing true))).2.kept 0 ↔
      b ∈ (r.start true a []).2 := by
  obtain ⟨cells, h⟩ := derive_arrives (r.memoizing true) a
  rw [mem_kept, ← h.tallies rfl b, Registry.start_memoizing]
  rfl

end Session

namespace Registry

/-- The shape can be derived first of all, and from a registry that keeps nothing. -/
def Derivable (r : Registry) (a : Applied) : Prop :=
  ∃ spec s, (Session.derive 0 a.1 a.2).run (.holding (r.memoizing false)) = (.ok spec, s)

theorem derivable_iff (r : Registry) (a : Applied) : r.Derivable a ↔ r.Alone a := by
  obtain ⟨cells, h⟩ := Session.derive_arrives (r.memoizing false) a
  have houtcome := h.outcome
  rw [start_memoizing] at houtcome
  unfold Derivable Alone
  change _ ↔ (r.start (r.memoizing false).config.memoize a []).1 = .ok ()
  rcases hrun : (Session.derive 0 a.1 a.2).run (.holding (r.memoizing false)) with ⟨e | spec, s⟩
  · rw [houtcome, hrun]
    constructor
    · rintro ⟨spec, t, h⟩
      cases h
    · intro h
      cases h
  · rw [houtcome, hrun]
    exact iff_of_true ⟨spec, s, rfl⟩ rfl

/-- No shape is ever kept that could not be derived first of all. -/
def KeepsDerivable (r : Registry) : Prop :=
  ∀ name args, ∀ a ∈ ((Session.derive 0 name args).run (.holding (r.memoizing true))).2.kept 0,
    r.Derivable a

theorem keepsDerivable_iff (r : Registry) : r.KeepsDerivable ↔ r.KeepsAlone := by
  unfold KeepsDerivable KeepsAlone
  simp only [derivable_iff]
  constructor
  · intro h root a ha
    exact h root.1 root.2 a ((Session.mem_kept_derive r root a).mpr ha)
  · intro h name args a ha
    exact h (name, args) a ((Session.mem_kept_derive r (name, args) a).mp ha)

end Registry

/-- Such a shape is had after the derivation that kept it, if specs are kept, and else it is not. -/
theorem Registry.keepsAlone_of_run_eq
    (h : ∀ calls, ((Caller.of (r.memoizing true)).run 0 calls).1 =
      ((Caller.of (r.memoizing false)).run 0 calls).1) : r.KeepsAlone := by
  intro root a ha
  have hboth : ∀ m, ∃ kinds, ((Caller.of (r.memoizing m)).call 0 (.derive root.1 root.2)).2.Sound 0
      (r.memoizing m) (fun _ => True) kinds := by
    intro m
    obtain ⟨more, hsound⟩ :=
      (Caller.Sound.of (r.memoizing m) _).call (closed_trivial _ _) (.derive root.1 root.2)
    exact ⟨_, hsound⟩
  obtain ⟨_, hkeeping⟩ := hboth true
  obtain ⟨_, hunkept⟩ := hboth false
  have hsecond := congrArg (·[1]?) (h [.derive root.1 root.2, .derive a.1 a.2])
  have hmade : (((Caller.of (r.memoizing true)).call 0 (.derive root.1 root.2)).2.call 0
      (.derive a.1 a.2)).1 = .made := by
    rw [hkeeping.made_iff a]
    have hkept : a ∈ ((Caller.of (r.memoizing true)).call 0
        (.derive root.1 root.2)).2.session.kept 0 := by
      change a ∈ ((Caller.of (r.memoizing true)).keep _).2.session.kept 0
      rw [Caller.keep_session]
      exact (Session.mem_kept_derive r root a).mpr ha
    unfold start attempt
    rw [if_pos ⟨rfl, hkept⟩]
  have hmade' : (((Caller.of (r.memoizing false)).call 0 (.derive root.1 root.2)).2.call 0
      (.derive a.1 a.2)).1 = .made := (Option.some.inj hsecond).symm.trans hmade
  rw [hunkept.made_iff a, start_memoizing] at hmade'
  change (r.start false a _).1 = .ok () at hmade'
  rcases hrun : r.start false a (((Caller.of (r.memoizing false)).call 0
    (.derive root.1 root.2)).2.session.kept 0) with ⟨o, mid⟩
  obtain rfl : o = .ok () := by rwa [hrun] at hmade'
  exact attempt_ok_of_le hrun (Nat.le_refl _) (List.nil_subset _)

end

/-! ## Transparency -/

namespace Registry

/-- Callers cannot tell whether specs are kept if and only if no shape is ever kept that could not
be derived first of all. -/
theorem run_memoizing_eq_iff (r : Registry) :
    (∀ calls, ((Caller.of (r.memoizing true)).run 0 calls).1 =
      ((Caller.of (r.memoizing false)).run 0 calls).1) ↔ r.KeepsDerivable := by
  rw [keepsDerivable_iff]
  constructor
  · exact keepsAlone_of_run_eq
  · intro hr calls
    rw [hr.run_eq true, hr.run_eq false]

end Registry

/-- Two shapes that mention each other, of which the first also mentions one that is not there. -/
def Registry.dangling : Registry :=
  ⟨"shapes", .default,
    [⟨"A", [], [⟨"b", .record "B" []⟩, ⟨"m", .record "Missing" []⟩], []⟩,
      ⟨"B", [], [⟨"a", .optional (.record "A" [])⟩], []⟩]⟩

/-- The derivation of the first fails, but only after the second has been kept. -/
theorem Registry.run_memoizing_dangling_ne :
    ((Caller.of (dangling.memoizing true)).run 0 [.derive "A" [], .derive "B" []]).1 ≠
      ((Caller.of (dangling.memoizing false)).run 0 [.derive "A" [], .derive "B" []]).1 := by
  have hkept : ((Caller.of (dangling.memoizing true)).run 0 [.derive "A" [], .derive "B" []]).1 =
      [.refused (.unknownShape "Missing"), .made] := by
    decide +kernel
  have hunkept : ((Caller.of (dangling.memoizing false)).run 0 [.derive "A" [], .derive "B" []]).1 =
      [.refused (.unknownShape "Missing"), .refused (.unknownShape "Missing")] := by
    decide +kernel
  rw [hkept, hunkept]
  decide

end Conform
