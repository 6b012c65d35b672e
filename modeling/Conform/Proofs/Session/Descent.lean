import Conform.Proofs.Session.Events
/-!
Checks of derived specs descend. Behind a lazy reference of a derived spec there is never another one,
only a record or a builtin kind, and in a record references are met at members of the value. So from
one reference to the next the value gets smaller, and a walk that goes on only as long as it does needs
no other bound: it is defined by recursion on the value, and is the walk that a check makes.
-/

namespace Conform

open Session (Intact IntactOver resolveInCheck)
open Spec (InStep)

/-! ## Walks that descend -/

def Spec.isDeferred : Spec → Bool
  | deferred _ _ => true
  | _ => false

namespace Delegate

open Classical in
/-- Walks behind a reference that was met at `u`. They go on behind further ones as long as these are
met at proper parts of `u` and lead to no reference themselves; else they have no result. -/
noncomputable def inside (u : Value) : Delegate :=
  ⟨resolveInCheck,
    fun s v =>
      if _ : v.Within u ∧ s.isDeferred = false then s.conformWith (inside v) v else fun _ => none,
    fun s path v =>
      if _ : v.Within u ∧ s.isDeferred = false then s.explainWith (inside v) path v
      else fun _ => none,
    fun _ _ => none⟩
termination_by u.depth
decreasing_by all_goals next h => exact h.1.depth_lt

/-- Walks that go on behind a reference at any value, and behind further ones at proper parts of the
value that the one before was met at. -/
noncomputable def descending : Delegate :=
  ⟨resolveInCheck,
    fun s v => if s.isDeferred = false then s.conformWith (inside v) v else fun _ => none,
    fun s path v => if s.isDeferred = false then s.explainWith (inside v) path v else fun _ => none,
    fun _ _ => none⟩

variable {u v : Value} {s : Spec}

theorem conform_inside (hv : v.Within u) (hs : s.isDeferred = false) :
    (inside u).conform s v = s.conformWith (inside v) v := by
  rw [inside]
  exact dif_pos ⟨hv, hs⟩

theorem explain_inside (hv : v.Within u) (hs : s.isDeferred = false) (path : Path) :
    (inside u).explain s path v = s.explainWith (inside v) path v := by
  rw [inside]
  exact dif_pos ⟨hv, hs⟩

theorem conform_descending (hs : s.isDeferred = false) :
    descending.conform s v = s.conformWith (inside v) v :=
  if_pos hs

theorem explain_descending (hs : s.isDeferred = false) (path : Path) :
    descending.explain s path v = s.explainWith (inside v) path v :=
  if_pos hs

end Delegate

/-! ## What is behind references -/

section
variable {id : Nat} {r : Registry} {Q : Target → Prop} {cells : List Target}

/-- Behind a reference there is a record or a builtin kind, and no reference. -/
theorem Answers.isDeferred {target : Target} {s : Spec} (h : Answers id r Q cells target s) :
    s.isDeferred = false := by
  have hrecord : ∀ {a : Applied}, StandsRecord id r Q cells a s → s.isDeferred = false := by
    intro a h
    cases h with
    | mk _ _ _ hform => cases hform <;> rfl
  cases h with
  | shape h => exact hrecord h
  | forward _ h => exact hrecord h
  | builtin => rfl

theorem Session.Intact.isDeferred {s : Session} (h : Intact id r cells s) {cell : Nat} {spec : Spec}
    (hfilled : s.filled.lookup cell = some spec) : spec.isDeferred = false := by
  obtain ⟨target, _, hanswers⟩ := h.filled hfilled
  exact hanswers.isDeferred

end

/-! ## Checks descend -/

section
variable {id : Nat} {r : Registry} {cells : List Target} {n : Nat} {u v : Value}

/-- Walks behind references of which one only goes on at proper parts of the value that the last
reference was met at. -/
def Descends (id : Nat) (r : Registry) (n : Nat) (u : Value) : Prop :=
  ∀ cells, LazyInStepAmong (Answering id r cells) (.within n) (.inside u) id (fun _ => True) cells
    (·.Within u)

/-- Two walks are in step at a reference if behind it the one goes on at proper parts of the value
only. -/
theorem Descends.behind (h : Descends id r n v) {d : Delegate} (hresolve : d.resolve = resolveInCheck)
    (hconform : ∀ s : Spec, s.isDeferred = false → d.conform s v = s.conformWith (.inside v) v)
    (hexplain : ∀ s : Spec, s.isDeferred = false → ∀ path,
      d.explain s path v = s.explainWith (.inside v) path v)
    (i : Instance) {reference : Reference} (hcell : cells[reference.cell]? = some reference.target)
    (htarget : reference.target.IsOf id) :
    InStep (Answering id r cells) (.within (n + 1)) d (.deferred i reference) v := by
  have hnothing := spared_nothing id r
  have hwalk : ∀ {cells' : List Target} {spec : Spec},
      Answers id r (fun _ => True) cells' reference.target spec →
      InStep (Answering id r cells') (.within n) (.inside v) spec v :=
    fun hanswers => hanswers.inStepAmong (compositional_answering _) hnothing.inwards
      (fun hw hx => .trans hx hw) (h _) trivial (fun _ _ _ _ => trivial) v fun _ hw => hw
  constructor
  · refine answering_behind hnothing hcell htarget trivial (Spec.conformWith_deferred n i reference v)
      (Spec.conformWith_resolve hresolve i reference v) fun hanswers => ?_
    rw [hconform _ hanswers.isDeferred]
    exact (hwalk hanswers).conform
  · intro path
    refine answering_behind hnothing hcell htarget trivial
      (Spec.explainWith_deferred n i reference path v)
      (Spec.explainWith_resolve hresolve i reference path v) fun hanswers => ?_
    rw [hexplain _ hanswers.isDeferred]
    exact (hwalk hanswers).explain path

/-- The induction is on how many references the other walk may go through. -/
theorem descends (id : Nat) (r : Registry) (n : Nat) (hu : u.depth ≤ n) : Descends id r n u := by
  induction n generalizing u with
  | zero =>
    intro _ _ _ v _ _ _ hv
    exact absurd (Nat.lt_of_lt_of_le hv.depth_lt hu) (Nat.not_lt_zero _)
  | succ n ih =>
    intro cells i reference v hcell htarget _ hv
    have hdepth : v.depth ≤ n := Nat.le_of_lt_succ (Nat.lt_of_lt_of_le hv.depth_lt hu)
    refine (ih hdepth).behind (by rw [Delegate.inside]) ?_ ?_ i hcell htarget
    · exact fun s hs => Delegate.conform_inside hv hs
    · exact fun s hs path => Delegate.explain_inside hv hs path

theorem deferred_descending (n : Nat) (cells : List Target) :
    LazyInStep (Answering id r cells) (.within n) .descending id (fun _ => True) cells n := by
  cases n with
  | zero => exact fun _ _ _ _ _ _ hv => absurd hv (Nat.not_lt_zero _)
  | succ n =>
    intro i reference v hcell htarget _ hv
    refine (descends id r n (Nat.le_of_lt_succ hv)).behind rfl ?_ ?_ i hcell htarget
    · exact fun s hs => Delegate.conform_descending hs
    · exact fun s hs path => Delegate.explain_descending hs path

/-- A derived spec is walked by descent, and so it is walked with any bound on references that the
value is not too deep for. -/
theorem Stands.descending {k : Kind} {spec : Spec} (h : Stands id r (fun _ => True) cells k spec)
    (hv : v.depth < n) : InStep (Answering id r cells) (.within n) .descending spec v :=
  h.inStep (compositional_answering cells) (spared_nothing id r).inwards (deferred_descending n cells)
    (fun _ _ => trivial) v hv

end

/-! ## Calls -/

/-- From one session to the other the walk comes to its answer by descent, and within any bound on
references that the value is not too deep for; what was found behind references is none. -/
structure Check.EndsByDescent {α : Type} (walk : Delegate → Check α) (v : Value) (s : Session)
    (answer : α) (t : Session) : Prop where
  descending : walk .descending s = some (answer, t)
  within : ∀ n, v.depth < n → walk (.within n) s = some (answer, t)
  found : ∀ cell spec, t.filled.lookup cell = some spec → spec.isDeferred = false

open Check (EndsByDescent)

theorem Session.Intact.endsByDescent {id : Nat} {r : Registry} {cells : List Target} {s : Session}
    (hs : Intact id r cells s) {α : Type} (walk : Delegate → Check α) {v : Value}
    (hwalk : ∀ n, v.depth < n → Answering id r cells (walk (.within n)) (walk .descending)) :
    ∃ answer t, EndsByDescent walk v s answer t := by
  have hover : IntactOver id r cells s := ⟨cells, List.prefix_refl _, hs⟩
  obtain ⟨answer, t, _, hdescending, more, _, ht⟩ := hwalk _ (Nat.lt_succ_self _) s hover
  refine ⟨answer, t, hdescending, fun n hn => ?_, fun _ _ hfilled => ht.isDeferred hfilled⟩
  obtain ⟨_, _, hwithin, hsame, _⟩ := hwalk n hn s hover
  rw [hwithin, ← hsame, hdescending]

/-- Whatever happened before and after a kind was asked for, checks of its spec end by descent. -/
theorem History.check_endsByDescent {t : History} (hmade : t.derived.1 = .made) (v : Value)
    (path : Path) :
    ∃ spec, t.caller.specs[t.opening.specs.length]? = some spec ∧
      (∃ outcome c,
        t.caller.call 0 (.conform t.opening.specs.length v) = (.conformed outcome, c) ∧
        EndsByDescent (fun d => spec.conformWith d v) v t.caller.session outcome c.session) ∧
      ∃ problems c,
        t.caller.call 0 (.explain t.opening.specs.length path v) =
          (.explained (problems.map Problem.report), c) ∧
        EndsByDescent (fun d => spec.explainWith d path v) v t.caller.session problems c.session := by
  obtain ⟨r, kinds, _, ⟨cells, hintact, hspecs⟩, hkind⟩ := History.intact_made hmade
  obtain ⟨spec, hspec, hstands⟩ := hspecs.of_kind hkind
  have hreach := Check.depth_lt_reach v t.caller.session
  refine ⟨spec, hspec, ?_, ?_⟩
  · obtain ⟨outcome, s, hends⟩ :=
      hintact.endsByDescent (fun d => spec.conformWith d v) fun n hn =>
        (hstands.descending hn).conform
    have hcheck : Check.conform spec v t.caller.session = some (outcome, s) := hends.within _ hreach
    refine ⟨outcome, ⟨s, t.caller.specs⟩, ?_, hends⟩
    simp only [Caller.call, hspec, hcheck]
  · obtain ⟨problems, s, hends⟩ :=
      hintact.endsByDescent (fun d => spec.explainWith d path v) fun n hn =>
        (hstands.descending hn).explain path
    have hcheck : Check.explain spec path v t.caller.session = some (problems, s) :=
      hends.within _ hreach
    refine ⟨problems, ⟨s, t.caller.specs⟩, ?_, hends⟩
    simp only [Caller.call, hspec, hcheck]

/-- Nodes whose arguments grow from one to the next, and are derived anew for each check. -/
def History.growing : History where
  name := "shapes"
  config := { DeriveConfig.default with memoize := false }
  before := [.step (.register ⟨"Node", ["T"],
    [⟨"value", .placeholder "T"⟩,
      ⟨"next", .optional (.record "Node" [.list (.placeholder "T")])⟩], []⟩)]
  kind := .record "Node" [.leaf .int]
  after := []

theorem History.check_endsByDescent_growing :
    let v := Value.object [("value", .int 1),
      ("next", .object [("value", .list [.int 2]), ("next", .null)])]
    let t := growing
    t.derived.1 = .made ∧ ∃ spec, t.caller.specs[t.opening.specs.length]? = some spec ∧
      (∃ outcome c,
        t.caller.call 0 (.conform t.opening.specs.length v) = (.conformed outcome, c) ∧
        EndsByDescent (fun d => spec.conformWith d v) v t.caller.session outcome c.session) ∧
      ∃ problems c,
        t.caller.call 0 (.explain t.opening.specs.length .root v) =
          (.explained (problems.map Problem.report), c) ∧
        EndsByDescent (fun d => spec.explainWith d .root v) v t.caller.session problems c.session :=
  have hmade : growing.derived.1 = .made := by decide +kernel
  ⟨hmade, check_endsByDescent hmade _ _⟩

end Conform
