import Conform.Proofs.Kind.Meaning
/-!
Callers of one registry. A caller derives specs, keeps them, and holds values against them, in any
order; each call is answered from the session as the calls before it left it.
-/

namespace Conform

/-- What a caller asks for. Specs are told apart by the order they were handed out in. -/
inductive Call where
  | derive (name : String) (args : List Kind)
  | specFor (kind : Kind)
  | conform (spec : Nat) (v : Value)
  | explain (spec : Nat) (path : Path) (v : Value)

inductive Answer where
  | made
  | refused (e : SpecError)
  | conformed (c : Conformed)
  | explained (problems : List Report)
  /-- No spec was handed out with that number. -/
  | unknownSpec
  /-- The check does not come to an end. -/
  | unending
  deriving DecidableEq

/-- A session with one registry in it, from which nothing was derived. -/
def Session.holding (r : Registry) : Session := ⟨[], [("registry", 0)], [r], [], [], 0, 0⟩

structure Caller where
  session : Session
  specs : List Spec

namespace Caller

def of (r : Registry) : Caller := ⟨.holding r, []⟩

/-- Keeps the spec that was made, if one was. -/
def keep (c : Caller) : Except SpecError Spec × Session → Answer × Caller
  | (.ok spec, s) => (.made, ⟨s, c.specs ++ [spec]⟩)
  | (.error e, s) => (.refused e, ⟨s, c.specs⟩)

def call (id : Nat) (c : Caller) : Call → Answer × Caller
  | .derive name args => c.keep ((Session.derive id name args).run c.session)
  | .specFor kind => c.keep ((Session.specFor id kind).run c.session)
  | .conform i v =>
    match c.specs[i]? with
    | none => (.unknownSpec, c)
    | some spec =>
      match Check.conform spec v c.session with
      | some (outcome, s) => (.conformed outcome, ⟨s, c.specs⟩)
      | none => (.unending, c)
  | .explain i path v =>
    match c.specs[i]? with
    | none => (.unknownSpec, c)
    | some spec =>
      match Check.explain spec path v c.session with
      | some (problems, s) => (.explained (problems.map Problem.report), ⟨s, c.specs⟩)
      | none => (.unending, c)

/-- The answers to all calls, and the caller after them. -/
def run (id : Nat) : Caller → List Call → List Answer × Caller
  | c, [] => ([], c)
  | c, call :: calls =>
    let (answer, c) := c.call id call
    let (answers, c) := run id c calls
    (answer :: answers, c)

theorem keep_session (c : Caller) (made : Except SpecError Spec × Session) :
    (c.keep made).2.session = made.2 := by
  rcases made with ⟨e | spec, s⟩ <;> rfl

theorem call_specFor (id : Nat) (c : Caller) (k : Kind) :
    c.call id (.specFor k) = c.keep ((Session.specFor id k).run c.session) := rfl

theorem call_derive (id : Nat) (c : Caller) (name : String) (args : List Kind) :
    c.call id (.derive name args) = c.call id (.specFor (.record name args)) := rfl

/-- A call asks for a spec, makes a check that has an answer, or leaves the caller as it is. -/
theorem call_leaves {id : Nat} {c : Caller} {R : Caller → Prop} (hsame : R c)
    (hspecFor : ∀ k, R (c.call id (.specFor k)).2)
    (hconform : ∀ {i : Nat} {spec v outcome s}, c.specs[i]? = some spec →
      Check.conform spec v c.session = some (outcome, s) → R ⟨s, c.specs⟩)
    (hexplain : ∀ {i : Nat} {spec path v problems s}, c.specs[i]? = some spec →
      Check.explain spec path v c.session = some (problems, s) → R ⟨s, c.specs⟩)
    (x : Call) : R (c.call id x).2 := by
  cases x with
  | derive name args => exact hspecFor (.record name args)
  | specFor k => exact hspecFor k
  | conform i v =>
    cases hspec : c.specs[i]? with
    | none =>
      simp only [call, hspec]
      exact hsame
    | some spec =>
      cases hrun : Check.conform spec v c.session with
      | none =>
        simp only [call, hspec, hrun]
        exact hsame
      | some answer =>
        simp only [call, hspec, hrun]
        exact hconform hspec hrun
  | explain i path v =>
    cases hspec : c.specs[i]? with
    | none =>
      simp only [call, hspec]
      exact hsame
    | some spec =>
      cases hrun : Check.explain spec path v c.session with
      | none =>
        simp only [call, hspec, hrun]
        exact hsame
      | some answer =>
        simp only [call, hspec, hrun]
        exact hexplain hspec hrun

end Caller

/-! ## Sound callers -/

/-- A shape that is registered changes the registry and nothing else. -/
theorem Session.register_ok {id : Nat} {shape : Shape} {s t : Session}
    (h : s.register id shape = .ok t) :
    ∃ r r', s.registryAt? id = some r ∧ r.register shape = .ok r' ∧
      t = { s with registries := s.registries.set id r' } := by
  unfold Session.register at h
  cases hr : s.registryAt? id with
  | none =>
    rw [hr] at h
    cases h
  | some r =>
    rw [hr] at h
    obtain ⟨r', hr', ht⟩ := Registry.bind_eq_ok.mp h
    exact ⟨r, r', rfl, hr', (Except.ok.inj ht).symm⟩

theorem Session.sound_holding (r : Registry) (Q : Target → Prop) :
    Sound 0 r Q [] (.holding r) where
  registry := rfl
  alive := rfl
  count := rfl
  memo h := by cases h
  filled h := by cases h

section
variable {id : Nat} {r : Registry} {Q : Target → Prop} {cells : List Target} {ks : List Kind}
  {ss : List Spec}

theorem StandAll.getElem? (h : StandAll id r Q cells ks ss) (i : Nat) :
    (ks[i]? = none ∧ ss[i]? = none) ∨
      ∃ k s, ks[i]? = some k ∧ ss[i]? = some s ∧ Stands id r Q cells k s := by
  induction ks generalizing ss i with
  | nil =>
    cases h
    exact .inl ⟨rfl, rfl⟩
  | cons k ks ih =>
    cases h with
    | cons h hs =>
      cases i with
      | zero => exact .inr ⟨k, _, rfl, rfl, h⟩
      | succ i => exact ih hs i

/-- What is handed out for a kind stands for it. -/
theorem StandAll.of_kind (h : StandAll id r Q cells ks ss) {i : Nat} {k : Kind}
    (hk : ks[i]? = some k) : ∃ s, ss[i]? = some s ∧ Stands id r Q cells k s := by
  rcases h.getElem? i with ⟨hnone, _⟩ | ⟨k', s, hk', hs, hstands⟩
  · cases hk.symm.trans hnone
  · cases hk.symm.trans hk'
    exact ⟨s, hs, hstands⟩

/-- What was handed out stands for some kind. -/
theorem StandAll.of_spec (h : StandAll id r Q cells ks ss) {i : Nat} {s : Spec}
    (hs : ss[i]? = some s) : ∃ k, Stands id r Q cells k s := by
  rcases h.getElem? i with ⟨_, hnone⟩ | ⟨k, s', _, hs', hstands⟩
  · cases hs.symm.trans hnone
  · cases hs.symm.trans hs'
    exact ⟨k, hstands⟩

theorem StandAll.length_eq (h : StandAll id r Q cells ks ss) : ks.length = ss.length := by
  induction ks generalizing ss with
  | nil =>
    cases h
    rfl
  | cons k ks ih =>
    cases h with
    | cons _ hs => exact congrArg (· + 1) (ih hs)

/-- The next spec that stands for a kind keeps its number. -/
theorem StandAll.kind_of_next (h : StandAll id r Q cells ks ss) (k : Kind) (more : List Kind) :
    (ks ++ [k] ++ more)[ss.length]? = some k := by
  rw [← h.length_eq, List.append_assoc, List.getElem?_append_right (Nat.le_refl _), Nat.sub_self]
  rfl

theorem StandAll.concat {k : Kind} {s : Spec} (hs : StandAll id r Q cells ks ss)
    (h : Stands id r Q cells k s) : StandAll id r Q cells (ks ++ [k]) (ss ++ [s]) := by
  induction ks generalizing ss with
  | nil =>
    cases hs
    exact .cons h .nil
  | cons k' ks ih =>
    cases hs with
    | cons h' hs => exact .cons h' (ih hs)

end

section
variable {id : Nat} {r : Registry} {Q : Target → Prop}

theorem Closed.attemptAll (hQ : Closed id r Q) (as : List Applied) {done : List Applied}
    (hdone : ∀ a ∈ done, Q (.shape id a.1 a.2)) :
    ∀ a ∈ (Registry.attemptAll (r.start r.config.memoize) as done).2, Q (.shape id a.1 a.2) := by
  refine Registry.attemptAll_forall (p := fun a => Q (.shape id a.1 a.2)) (fun a _ => ?_) rfl hdone
  intro done o done' hrun hdone
  have h := hQ.seek (.shape id a.1 a.2) done rfl hdone
  have hseek : r.seek r.config.memoize (.shape id a.1 a.2) done = (o, done') := hrun
  rw [hseek] at h
  exact h

/-- The caller's specs stand for the kinds, and the session is sound. -/
def Caller.Sound (id : Nat) (r : Registry) (Q : Target → Prop) (kinds : List Kind) (c : Caller) :
    Prop :=
  ∃ cells, Session.Sound id r Q cells c.session ∧ StandAll id r Q cells kinds c.specs

namespace Caller.Sound

variable {kinds : List Kind} {c : Caller}

theorem of (r : Registry) (Q : Target → Prop) : Caller.Sound 0 r Q [] (.of r) :=
  ⟨[], Session.sound_holding r Q, .nil⟩

theorem kept (h : c.Sound id r Q kinds) {a : Applied} (ha : a ∈ c.session.kept id) :
    Q (.shape id a.1 a.2) := by
  obtain ⟨cells, hsound, _⟩ := h
  exact hsound.kept ha

/-- The next spec that is handed out keeps its number. -/
theorem kind_of_next (h : c.Sound id r Q kinds) (k : Kind) (more : List Kind) :
    (kinds ++ [k] ++ more)[c.specs.length]? = some k := by
  obtain ⟨cells, _, hspecs⟩ := h
  exact hspecs.kind_of_next k more

/-- The call that asks for the spec of a kind is answered as the attempt goes. -/
theorem specFor (h : c.Sound id r Q kinds) {k : Kind}
    (hQ : ∀ a ∈ (Registry.attemptAll (r.start r.config.memoize) k.records (c.session.kept id)).2,
      Q (.shape id a.1 a.2)) :
    ((Registry.attemptAll (r.start r.config.memoize) k.records (c.session.kept id)).1 = .ok () ∧
      ∃ c', c.call id (.specFor k) = (.made, c') ∧ c'.Sound id r Q (kinds ++ [k])) ∨
    ∃ e, (Registry.attemptAll (r.start r.config.memoize) k.records (c.session.kept id)).1 = .error e ∧
      ∃ c', c.call id (.specFor k) = (.refused e, c') ∧ c'.Sound id r Q kinds := by
  obtain ⟨cells, hsound, hspecs⟩ := h
  obtain ⟨cells', h⟩ := Session.specFor_follows k cells c.session cells (c.session.kept id)
    (List.prefix_refl _) hsound (Session.tallies_kept _) hQ
  have hspecs' := hspecs.mono (.refl r) h.cells
  rcases hrun : (Session.specFor id k).run c.session with ⟨e | spec, s⟩
  · obtain ⟨_, h₂, _, _, _, h₆, -⟩ := hrun ▸ h
    refine .inr ⟨e, h₆, ⟨s, c.specs⟩, ?_, cells', h₂, hspecs'⟩
    rw [Caller.call_specFor, hrun]
    rfl
  · obtain ⟨_, h₂, _, _, _, h₆, h₇⟩ := hrun ▸ h
    refine .inl ⟨h₆, ⟨s, c.specs ++ [spec]⟩, ?_, cells', h₂, hspecs'.concat (h₇ spec rfl)⟩
    rw [Caller.call_specFor, hrun]
    rfl

/-- A value is held against the spec of a kind with the outcome that the walk ensures. -/
theorem conform (h : c.Sound id r Q kinds) (i : Nat) (v : Value) {R : Kind → Conformed → Prop}
    (hwalk : ∀ {k s cells n}, kinds[i]? = some k → Stands id r Q cells k s → v.depth < n →
      Check.Ensures False (Session.SoundOver id r Q cells) (s.conformWith (.within n) v) (R k)) :
    (kinds[i]? = none ∧ c.call id (.conform i v) = (.unknownSpec, c)) ∨
      ∃ k outcome c', kinds[i]? = some k ∧ c.call id (.conform i v) = (.conformed outcome, c') ∧
        R k outcome ∧ c'.Sound id r Q kinds := by
  obtain ⟨cells, hsound, hspecs⟩ := h
  rcases hspecs.getElem? i with ⟨hkind, hspec⟩ | ⟨k, spec, hkind, hspec, hstands⟩
  · refine .inl ⟨hkind, ?_⟩
    simp only [Caller.call, hspec]
  · obtain ⟨outcome, s, hrun, houtcome, more, hmore, hsound'⟩ :=
      (hwalk hkind hstands (Check.depth_lt_reach v c.session)).exists_some
        ⟨cells, List.prefix_refl _, hsound⟩
    refine .inr ⟨k, outcome, ⟨s, c.specs⟩, hkind, ?_, houtcome, more, hsound',
      hspecs.mono (.refl r) hmore⟩
    have hcheck : Check.conform spec v c.session = some (outcome, s) := hrun
    simp only [Caller.call, hspec, hcheck]

theorem explain (h : c.Sound id r Q kinds) (i : Nat) (path : Path) (v : Value)
    {R : Kind → List Problem → Prop}
    (hwalk : ∀ {k s cells n}, kinds[i]? = some k → Stands id r Q cells k s → v.depth < n →
      Check.Ensures False (Session.SoundOver id r Q cells) (s.explainWith (.within n) path v)
        (R k)) :
    (kinds[i]? = none ∧ c.call id (.explain i path v) = (.unknownSpec, c)) ∨
      ∃ k problems c', kinds[i]? = some k ∧
        c.call id (.explain i path v) = (.explained (problems.map Problem.report), c') ∧
        R k problems ∧ c'.Sound id r Q kinds := by
  obtain ⟨cells, hsound, hspecs⟩ := h
  rcases hspecs.getElem? i with ⟨hkind, hspec⟩ | ⟨k, spec, hkind, hspec, hstands⟩
  · refine .inl ⟨hkind, ?_⟩
    simp only [Caller.call, hspec]
  · obtain ⟨problems, s, hrun, hproblems, more, hmore, hsound'⟩ :=
      (hwalk hkind hstands (Check.depth_lt_reach v c.session)).exists_some
        ⟨cells, List.prefix_refl _, hsound⟩
    refine .inr ⟨k, problems, ⟨s, c.specs⟩, hkind, ?_, hproblems, more, hsound',
      hspecs.mono (.refl r) hmore⟩
    have hcheck : Check.explain spec path v c.session = some (problems, s) := hrun
    simp only [Caller.call, hspec, hcheck]

/-- Every call leaves a sound caller sound; it may have one spec more. -/
theorem call (hQ : Closed id r Q) (h : c.Sound id r Q kinds) (x : Call) :
    ∃ more, (c.call id x).2.Sound id r Q (kinds ++ more) := by
  have hsame : ∀ {c' : Caller}, c'.Sound id r Q kinds → c'.Sound id r Q (kinds ++ []) := by
    intro c' h'
    rwa [List.append_nil]
  have hspecFor : ∀ k, ∃ more, (c.call id (.specFor k)).2.Sound id r Q (kinds ++ more) := by
    intro k
    rcases h.specFor (hQ.attemptAll k.records fun _ ha => h.kept ha) with
      ⟨_, c', hcall, hc'⟩ | ⟨e, _, c', hcall, hc'⟩
    · rw [hcall]
      exact ⟨[k], hc'⟩
    · rw [hcall]
      exact ⟨[], hsame hc'⟩
  cases x with
  | derive name args => exact hspecFor (.record name args)
  | specFor k => exact hspecFor k
  | conform i v =>
    rcases h.conform i v (fun _ hstands hv => (hstands.ends hQ hv).conform) with
      ⟨_, hcall⟩ | ⟨_, _, c', _, hcall, _, hc'⟩
    · rw [hcall]
      exact ⟨[], hsame h⟩
    · rw [hcall]
      exact ⟨[], hsame hc'⟩
  | explain i path v =>
    rcases h.explain i path v (fun _ hstands hv => (hstands.ends hQ hv).explain path) with
      ⟨_, hcall⟩ | ⟨_, _, c', _, hcall, _, hc'⟩
    · rw [hcall]
      exact ⟨[], hsame h⟩
    · rw [hcall]
      exact ⟨[], hsame hc'⟩

theorem run (hQ : Closed id r Q) (h : c.Sound id r Q kinds) (calls : List Call) :
    ∃ more, (c.run id calls).2.Sound id r Q (kinds ++ more) := by
  induction calls generalizing c kinds with
  | nil => exact ⟨[], by rwa [List.append_nil]⟩
  | cons x calls ih =>
    obtain ⟨more, hcall⟩ := h.call hQ x
    obtain ⟨more', hrun⟩ := ih hcall
    exact ⟨more ++ more', by rw [← List.append_assoc]; exact hrun⟩

end Caller.Sound

end

end Conform
