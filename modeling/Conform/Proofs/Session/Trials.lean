import Conform.Proofs.Session.Memoize
import Conform.Proofs.Session.Repeat
/-!
Checks made twice. Shapes are registered, specs are derived and values are held against them, in any
order; then a value is held against one of the specs twice, with nothing in between. The second
answer is the first one, and an explanation finds what made the value invalid, if specs are not
kept. If they are, it takes that the first check keeps no shape that could not be derived by itself.
-/

namespace Conform

inductive Step where
  | register (shape : Shape)
  | call (x : Call)

namespace Caller

/-- A shape that is refused changes nothing. -/
def register (id : Nat) (c : Caller) (shape : Shape) : Caller :=
  match c.session.register id shape with
  | .ok s => ⟨s, c.specs⟩
  | .error _ => c

def step (id : Nat) (c : Caller) : Step → Caller
  | .register shape => c.register id shape
  | .call x => (c.call id x).2

def walk (id : Nat) (c : Caller) (steps : List Step) : Caller := steps.foldl (step id) c

end Caller

/-! ## Sound callers -/

section
variable {id : Nat} {r : Registry} {Q : Target → Prop} {kinds : List Kind} {c : Caller}

theorem Session.Sound.register {cells : List Target} {s s' : Session} (h : Sound id r Q cells s)
    {shape : Shape} (hs : s.register id shape = .ok s') :
    ∃ r', r.Extends r' ∧ Sound id r' Q cells s' := by
  obtain ⟨_, r', hr, hr', rfl⟩ := register_ok hs
  obtain rfl := Option.some.inj (h.registry.symm.trans hr)
  have hextends := Registry.Extends.of_register hr'
  obtain ⟨hlt, _⟩ := List.getElem?_eq_some_iff.mp h.registry
  refine ⟨r', hextends, List.getElem?_set_self hlt, h.alive, h.count, fun hmemo => ?_,
    fun hfilled => ?_⟩
  · exact (h.memo hmemo).mono hextends (List.prefix_refl _)
  · obtain ⟨target, htarget, hanswers⟩ := h.filled hfilled
    exact ⟨target, htarget, hanswers.mono hextends (List.prefix_refl _)⟩

namespace Caller.Sound

theorem register (h : c.Sound id r Q kinds) (shape : Shape) :
    ∃ r', r.Extends r' ∧ (c.register id shape).Sound id r' Q kinds := by
  obtain ⟨cells, hsound, hspecs⟩ := h
  unfold Caller.register
  cases hregister : c.session.register id shape with
  | error e => exact ⟨r, .refl r, cells, hsound, hspecs⟩
  | ok s =>
    obtain ⟨r', hextends, hsound'⟩ := hsound.register hregister
    exact ⟨r', hextends, cells, hsound', hspecs.mono hextends (List.prefix_refl _)⟩

theorem step (h : c.Sound id r (fun _ => True) kinds) (x : Step) :
    ∃ r' more, r.Extends r' ∧ (c.step id x).Sound id r' (fun _ => True) (kinds ++ more) := by
  cases x with
  | register shape =>
    obtain ⟨r', hextends, hsound⟩ := h.register shape
    exact ⟨r', [], hextends, by rwa [List.append_nil]⟩
  | call x =>
    obtain ⟨more, hsound⟩ := h.call (closed_trivial id r) x
    exact ⟨r, more, .refl r, hsound⟩

theorem walk (h : c.Sound id r (fun _ => True) kinds) (steps : List Step) :
    ∃ r' more, r.Extends r' ∧ (c.walk id steps).Sound id r' (fun _ => True) (kinds ++ more) := by
  induction steps generalizing c r kinds with
  | nil => exact ⟨r, [], .refl r, by rwa [List.append_nil]⟩
  | cons x steps ih =>
    obtain ⟨r', more, hextends, hstep⟩ := h.step x
    obtain ⟨r'', more', hextends', hwalk⟩ := ih hstep
    exact ⟨r'', more ++ more', hextends.trans hextends', by rw [← List.append_assoc]; exact hwalk⟩

end Caller.Sound

end

/-! ## Trials -/

/-- A value that is held against a spec which was derived somewhere in a run. -/
structure Trial where
  name : String
  config : DeriveConfig
  before : List Step
  kind : Kind
  after : List Step
  value : Value

namespace Trial

section
variable (t : Trial)

def opening : Caller := (Caller.of ⟨t.name, t.config, []⟩).walk 0 t.before

def derived : Answer × Caller := t.opening.call 0 (.specFor t.kind)

def caller : Caller := t.derived.2.walk 0 t.after

def checked : Answer × Caller := t.caller.call 0 (.conform t.opening.specs.length t.value)

/-- The spec was made, and no union in it is without alternatives. -/
structure Fair : Prop where
  made : t.derived.1 = .made
  alternatives : ∀ r, t.caller.session.registryAt? 0 = some r → t.kind.HasAlternatives r

/-- The same check has the same answer again, and an invalid value is explained. -/
def Repeats : Prop :=
  ∃ outcome, t.checked.1 = .conformed outcome ∧
    (t.checked.2.call 0 (.conform t.opening.specs.length t.value)).1 = .conformed outcome ∧
    (outcome = .invalid → ∀ path, ∃ problems, problems ≠ [] ∧
      (t.checked.2.call 0 (.explain t.opening.specs.length path t.value)).1 = .explained problems)

/-- If specs are kept, the check keeps no shape that could not be derived first of all. -/
def KeepsDerivable : Prop :=
  t.config.memoize = true → ∀ r, t.caller.session.registryAt? 0 = some r →
    ∀ a ∈ t.checked.2.session.kept 0, a ∉ t.caller.session.kept 0 → r.Derivable a

end

variable {t : Trial}

/-- The spec that was derived stands for its kind when the value is held against it. -/
theorem Fair.stands (h : t.Fair) :
    ∃ r cells spec, r.config = t.config ∧ t.caller.specs[t.opening.specs.length]? = some spec ∧
      Session.Sound 0 r (fun _ => True) cells t.caller.session ∧
      Stands 0 r (fun _ => True) cells t.kind spec := by
  obtain ⟨r, kinds, hextends, hopening⟩ :=
    (Caller.Sound.of ⟨t.name, t.config, []⟩ fun _ => True).walk t.before
  rw [List.nil_append] at hopening
  rcases hopening.specFor (k := t.kind) fun _ _ => trivial with
    ⟨_, c, hcall, hderived⟩ | ⟨e, _, c, hcall, _⟩
  · obtain ⟨r', more, hextends', cells, hsound, hspecs⟩ := hderived.walk t.after
    have hcaller : t.caller = c.walk 0 t.after :=
      congrArg (fun p : Answer × Caller => p.2.walk 0 t.after) hcall
    obtain ⟨spec, hspec, hstands⟩ := hspecs.of_kind (hopening.kind_of_next t.kind more)
    rw [hcaller]
    exact ⟨r', cells, spec, (hextends.trans hextends').config, hspec, hsound, hstands⟩
  · have hmade : t.derived.1 = .refused e := congrArg Prod.fst hcall
    cases hmade.symm.trans h.made

/-- A check is repeated if it keeps no shape but such that can be derived by themselves. -/
theorem Fair.repeats (h : t.Fair) (hkeeps : t.KeepsDerivable) : t.Repeats := by
  obtain ⟨r, cells, spec, hconfig, hspec, hsound, hstands⟩ := h.stands
  obtain ⟨c, s, hrun, hagain⟩ := hstands.repeats (closed_trivial 0 r)
    (h.alternatives r hsound.registry) hsound t.value
  have hchecked : t.checked = (.conformed c, ⟨s, t.caller.specs⟩) := by
    simp only [checked, Caller.call, hspec, hrun]
  have hkept : r.config.memoize = true → r.KeptAlone (t.caller.session.kept 0) (s.kept 0) := by
    intro hmemoize a ha hnew
    refine (r.derivable_iff a).mp (hkeeps (hconfig ▸ hmemoize) r hsound.registry a ?_ hnew)
    rw [hchecked]
    exact ha
  obtain ⟨⟨s', hrun'⟩, hblamed⟩ := hagain hkept
  unfold Repeats
  rw [hchecked]
  refine ⟨c, rfl, ?_, ?_⟩
  · simp only [Caller.call, hspec, hrun']
  · rintro rfl path
    obtain ⟨problems, s'', hrun'', hne⟩ := hblamed rfl path
    refine ⟨problems.map Problem.report, fun hnil => hne (List.map_eq_nil_iff.mp hnil), ?_⟩
    simp only [Caller.call, hspec, hrun'']

/-- The field is one of two shapes that mention each other, of which the second also mentions one
that is not there. -/
def either : Shape := ⟨"Either", [], [⟨"one", .union [.forward "B" [], .forward "A" []]⟩], []⟩

def dangling (config : DeriveConfig) : Trial where
  name := "shapes"
  config := config
  before := (Registry.dangling.shapes ++ [either]).map .register
  kind := .record "Either" []
  after := []
  value := .object [("one", .object [("a", .null)])]

theorem fair_dangling (config : DeriveConfig) : (dangling config).Fair where
  made := by
    obtain ⟨memoize, checkPlaceholders, builtinNames, extra⟩ := config
    cases memoize <;> cases checkPlaceholders <;> cases builtinNames <;> cases extra <;>
      decide +kernel
  alternatives r hr := by
    have hshapes : ((dangling config).caller.session.registryAt? 0).map (·.shapes) =
        some (Registry.dangling.shapes ++ [either]) := by
      obtain ⟨memoize, checkPlaceholders, builtinNames, extra⟩ := config
      cases memoize <;> cases checkPlaceholders <;> cases builtinNames <;> cases extra <;>
        decide +kernel
    rw [hr] at hshapes
    have hr : r.shapes = Registry.dangling.shapes ++ [either] := Option.some.inj hshapes
    refine Kind.hasAlternatives_of_throughout ?_ (k := .record "Either" []) (by decide)
    rw [hr]
    decide

theorem checked_dangling {config : DeriveConfig} (h : config.memoize = true) :
    (dangling config).checked.1 = .conformed .invalid ∧
    ((dangling config).checked.2.call 0 (.conform 0 (dangling config).value)).1 =
      .conformed (.valid (dangling config).value) ∧
    ((dangling config).checked.2.call 0 (.explain 0 .root (dangling config).value)).1 =
      .explained [] := by
  obtain ⟨memoize, checkPlaceholders, builtinNames, extra⟩ := config
  obtain rfl : memoize = true := h
  cases checkPlaceholders <;> cases builtinNames <;> cases extra <;> decide +kernel

/-- The second look behind the name of the one finds what the first look behind the name of the
other has kept. -/
theorem not_repeats_dangling {config : DeriveConfig} (h : config.memoize = true) :
    ¬ (dangling config).Repeats := by
  rintro ⟨outcome, hfirst, hsecond, _⟩
  obtain ⟨hinvalid, hvalid, _⟩ := checked_dangling h
  cases hinvalid.symm.trans hfirst
  cases hvalid.symm.trans hsecond

/-- Checks are repeated for as long as they keep no shape that could not be derived first of all, and
so always if no specs are kept; if specs are kept, there are checks that are not repeated. -/
theorem repeats_of_keepsDerivable_sharp (config : DeriveConfig) :
    (∀ t : Trial, t.config = config → t.Fair → t.KeepsDerivable → t.Repeats) ∧
      (config.memoize = true → ∃ t : Trial, t.config = config ∧ t.Fair ∧ ¬ t.Repeats) :=
  ⟨fun _ _ hfair hkeeps => hfair.repeats hkeeps,
    fun h => ⟨dangling config, rfl, fair_dangling config, not_repeats_dangling h⟩⟩

/-- The check that is not repeated, with the options as they are by default. -/
theorem dangling_default_not_repeats :
    (dangling .default).Fair ∧ ¬ (dangling .default).Repeats ∧
      (dangling .default).checked.1 = .conformed .invalid ∧
      ((dangling .default).checked.2.call 0 (.explain 0 .root (dangling .default).value)).1 =
        .explained [] :=
  ⟨fair_dangling _, not_repeats_dangling rfl, (checked_dangling rfl).1, (checked_dangling rfl).2.2⟩

/-- A point that is referred to by its name, and only registered once the reference is there. -/
def pinned : Trial where
  name := "shapes"
  config := .default
  before := [.register ⟨"Pin", [], [⟨"at", .forward "Point" []⟩], []⟩, .call (.derive "Point" [])]
  kind := .record "Pin" []
  after := [.register ⟨"Point", [], [⟨"x", .leaf .int⟩], []⟩]
  value := .object [("at", .object [("x", .null)])]

theorem fair_pinned : pinned.Fair where
  made := by decide +kernel
  alternatives := by
    have h : ∀ r ∈ pinned.caller.session.registryAt? 0, ∀ shape ∈ r.shapes, ∀ k ∈ shape.kinds,
        k.Throughout (· ≠ .union []) := by
      decide +kernel
    exact fun r hr => Kind.hasAlternatives_of_throughout (h r hr) (by decide)

/-- The check keeps the shape of the point, which can be derived by itself. -/
theorem keepsDerivable_pinned : pinned.KeepsDerivable := by
  have h : ∀ r ∈ pinned.caller.session.registryAt? 0, ∀ a ∈ pinned.checked.2.session.kept 0,
      (r.start false a []).1 = .ok () := by
    decide +kernel
  exact fun _ r hr a ha _ => (r.derivable_iff a).mpr (h r hr a ha)

theorem repeats_pinned : pinned.Fair ∧ pinned.KeepsDerivable ∧ pinned.Repeats :=
  ⟨fair_pinned, keepsDerivable_pinned,
    (repeats_of_keepsDerivable_sharp .default).1 pinned rfl fair_pinned keepsDerivable_pinned⟩

end Trial

end Conform
