import Conform.Proofs.Session.Events
import Conform.Proofs.Session.Matching
import Conform.Proofs.Session.Normal
/-!
Values that a check has made, checked again. Something happens to a registry, a spec is derived from
it, more happens, and a value is held against the spec; calls are made, and what the check has made of
the value is held against the spec in turn. It is left as it is, if specs are not kept. If they are, it
takes that no shape is kept meanwhile that the kind leads to and that could not be derived by itself;
in a well-formed registry no kind that is well-formed itself leads to such a shape.
-/

namespace Conform

open Session (Intact Since KeptByItself)

theorem Session.Intact.contains_of_kept {id : Nat} {r : Registry} {cells : List Target}
    {s : Session} (h : Intact id r cells s) {a : Applied} (ha : a ∈ s.kept id) :
    r.contains a.1 = true := by
  obtain ⟨spec, hspec⟩ := Option.isSome_iff_exists.mp ((Session.mem_kept s id a).mp ha)
  cases h.memo hspec with
  | mk _ hfields => exact Registry.contains_of_fieldsOf hfields

/-! ## Callers -/

/-- The caller's specs stand for the kinds, and the session has grown out of the first one. -/
def Caller.Since (id : Nat) (r : Registry) (first : Session) (base : List Target) (kinds : List Kind)
    (c : Caller) : Prop :=
  ∃ cells, base <+: cells ∧ Session.Since id r first cells c.session ∧
    StandAll id r (fun _ => True) cells kinds c.specs

namespace Caller.Since

variable {id : Nat} {r : Registry} {first : Session} {base : List Target} {kinds : List Kind}
  {c : Caller}

theorem specFor (h : c.Since id r first base kinds) (k : Kind) :
    ∃ more, (c.call id (.specFor k)).2.Since id r first base (kinds ++ more) ∧
      c.session.Grows (c.call id (.specFor k)).2.session := by
  obtain ⟨cells, hcells, hs, hspecs⟩ := h
  cases halive : c.session.isAlive id with
  | false =>
    refine ⟨[], ?_⟩
    rw [call_specFor, Session.run_specFor_dropped halive, List.append_nil]
    exact ⟨⟨cells, hcells, hs, hspecs⟩, .refl _⟩
  | true =>
    obtain ⟨cells', h⟩ := Session.specFor_follows k cells c.session cells (c.session.kept id)
      (List.prefix_refl _) (hs.toIntact.sound halive) (Session.tallies_kept _) fun _ _ => trivial
    have hs' := hs.of_filled h.cells h.grows h.sound.intact h.filled
    have hspecs' := hspecs.mono (.refl r) h.cells
    have hcells' := hcells.trans h.cells
    rw [call_specFor]
    rcases hrun : (Session.specFor id k).run c.session with ⟨e | spec, s⟩
    · rw [hrun] at h hs'
      exact ⟨[], ⟨cells', hcells', hs', by rwa [List.append_nil]⟩, h.grows⟩
    · rw [hrun] at h hs'
      exact ⟨[k], ⟨cells', hcells', hs', hspecs'.concat (h.result spec rfl)⟩, h.grows⟩

/-- A walk of one of the caller's specs has an answer, and leaves the caller as it was but for what the
session has grown by. -/
theorem check (h : c.Since id r first base kinds) {i : Nat} {spec : Spec}
    (hspec : c.specs[i]? = some spec) {α : Type} {x y : Check α}
    (hwalk : ∀ {cells k}, Stands id r (fun _ => True) cells k spec →
      Foretold id r first first cells x y) :
    ∃ a s, x c.session = some (a, s) ∧ Caller.Since id r first base kinds ⟨s, c.specs⟩ ∧
      c.session.Grows s := by
  obtain ⟨cells, hcells, hs, hspecs⟩ := h
  obtain ⟨k, hstands⟩ := hspecs.of_spec hspec
  obtain ⟨a, t, cells', hrun, hcells', ht, hgrows, _⟩ :=
    hwalk hstands c.session cells (List.prefix_refl _) hs
  exact ⟨a, t, hrun, ⟨cells', hcells.trans hcells', ht, hspecs.mono (.refl r) hcells'⟩, hgrows⟩

/-- A value that is held against one of the caller's specs is answered for. -/
theorem conform (h : c.Since id r first base kinds) {i : Nat} {spec : Spec}
    (hspec : c.specs[i]? = some spec) (v : Value) :
    ∃ outcome s, Check.conform spec v c.session = some (outcome, s) ∧
      c.call id (.conform i v) = (.conformed outcome, ⟨s, c.specs⟩) ∧
      Caller.Since id r first base kinds ⟨s, c.specs⟩ ∧ c.session.Grows s := by
  obtain ⟨outcome, s, hrun, hs, hgrows⟩ := h.check hspec fun hstands =>
    (hstands.since (Check.depth_lt_reach v c.session)).conform
  have hcheck : Check.conform spec v c.session = some (outcome, s) := hrun
  refine ⟨outcome, s, hcheck, ?_, hs, hgrows⟩
  simp only [Caller.call, hspec, hcheck]

/-- With every call the session goes on to grow out of the first one; there may be one spec more. -/
theorem call (h : c.Since id r first base kinds) (x : Call) :
    ∃ more, (c.call id x).2.Since id r first base (kinds ++ more) ∧
      c.session.Grows (c.call id x).2.session := by
  have hsame : ∀ {c' : Caller}, c'.Since id r first base kinds → c.session.Grows c'.session →
      ∃ more, c'.Since id r first base (kinds ++ more) ∧ c.session.Grows c'.session :=
    fun h' hgrows => ⟨[], by rwa [List.append_nil], hgrows⟩
  refine call_leaves (R := fun c' => ∃ more, c'.Since id r first base (kinds ++ more) ∧
    c.session.Grows c'.session) (hsame h (.refl _)) h.specFor (fun hspec hrun => ?_)
    (fun hspec hrun => ?_) x
  · obtain ⟨_, _, hrun', hs, hgrows⟩ := h.check hspec fun hstands =>
      (hstands.since (Check.depth_lt_reach _ c.session)).conform
    cases hrun.symm.trans hrun'
    exact hsame hs hgrows
  · obtain ⟨_, _, hrun', hs, hgrows⟩ := h.check hspec fun hstands =>
      (hstands.since (Check.depth_lt_reach _ c.session)).explain _
    cases hrun.symm.trans hrun'
    exact hsame hs hgrows

theorem run (h : c.Since id r first base kinds) (calls : List Call) :
    ∃ more, (c.run id calls).2.Since id r first base (kinds ++ more) ∧
      c.session.Grows (c.run id calls).2.session := by
  induction calls generalizing c kinds with
  | nil => exact ⟨[], by rwa [List.append_nil], .refl _⟩
  | cons x calls ih =>
    obtain ⟨more, hcall, hgrows⟩ := h.call x
    obtain ⟨more', hrun, hgrows'⟩ := ih hcall
    refine ⟨more ++ more', ?_, hgrows.trans hgrows'⟩
    rw [← List.append_assoc]
    exact hrun

end Caller.Since

theorem Caller.Intact.since {id : Nat} {r : Registry} {kinds : List Kind} {c : Caller}
    (h : c.Intact id r kinds) : c.Since id r c.session [] kinds := by
  obtain ⟨cells, hs, hspecs⟩ := h
  exact ⟨cells, List.nil_prefix, hs.since, hspecs⟩

/-! ## Renewals -/

/-- A value that is held against a spec, and calls that are made before what the check has made of it
is held against the same spec. -/
structure Renewal extends History where
  value : Value
  between : List Call

namespace Renewal

section
variable (t : Renewal)

def checked : Answer × Caller := t.caller.call 0 (.conform t.opening.specs.length t.value)

/-- The later check, of what the first one made. -/
def again (w : Value) : Answer × Caller :=
  (t.checked.2.run 0 t.between).2.call 0 (.conform t.opening.specs.length w)

/-- The check has an answer, and what it makes of the value is left as it is later on. -/
def Idempotent : Prop :=
  ∃ outcome, t.checked.1 = .conformed outcome ∧
    ∀ w, outcome = .valid w → (t.again w).1 = .conformed (.valid w)

/-- If specs are kept, all shapes that the kind leads to and that are newly kept from the first check
on could be derived first of all. -/
def KeepsDerivable : Prop :=
  t.config.memoize = true → ∀ r, t.caller.session.registryAt? 0 = some r →
    ∀ w, t.checked.1 = .conformed (.valid w) → t.kind.LeadsOnlyTo r fun a =>
      a ∈ (t.again w).2.session.kept 0 → a ∉ t.caller.session.kept 0 → r.Derivable a

end

variable {t : Renewal} {r : Registry} {kinds : List Kind}

/-- What a check has made of a value is left as it is, if no shape that the kind leads to is kept
meanwhile but such that could be derived by itself. -/
theorem idempotent (hmade : t.derived.1 = .made) (hkeeps : t.KeepsDerivable) : t.Idempotent := by
  obtain ⟨r, kinds, hconfig, hcaller, hkind⟩ := History.intact_made hmade
  obtain ⟨cells, hs, hspecs⟩ := id hcaller
  rcases hspecs.getElem? t.opening.specs.length with ⟨hnone, _⟩ | ⟨k, spec, hk, hspec, hstands⟩
  · cases hkind.symm.trans hnone
  cases hkind.symm.trans hk
  obtain ⟨outcome, s, hfirst, hchecked, hsince, _⟩ := hcaller.since.conform hspec t.value
  have hchecked : t.checked = (.conformed outcome, ⟨s, t.caller.specs⟩) := hchecked
  refine ⟨outcome, congrArg Prod.fst hchecked, ?_⟩
  rintro w rfl
  obtain ⟨c, hc⟩ : ∃ c, (Caller.run 0 ⟨s, t.caller.specs⟩ t.between).2 = c := ⟨_, rfl⟩
  -- The spec still goes by its number when the calls in between have been made.
  have hretains : c.Retains ⟨s, t.caller.specs⟩ := hc ▸ Caller.Retains.of_run _ _
  obtain ⟨_, hsince', _⟩ := hsince.run t.between
  rw [hc] at hsince'
  obtain ⟨outcome', e, hsecond, hcall, _⟩ := hsince'.conform (hretains.getElem? hspec) w
  have hagain : t.again w = (.conformed outcome', ⟨e, c.specs⟩) := by
    unfold again
    rw [hchecked, hc]
    exact hcall
  rw [hagain]
  refine congrArg Answer.conformed (hstands.conform_again hs hfirst ?_ hsecond ?_)
  · intro cells₁ hcells₁ ht
    have hsince₁ : Caller.Since 0 r t.caller.session cells₁ kinds ⟨s, t.caller.specs⟩ :=
      ⟨cells₁, List.prefix_refl _, ht, hspecs.mono (.refl r) hcells₁⟩
    obtain ⟨_, ⟨cells₂, hcells₂, hu, _⟩, hgrows⟩ := hsince₁.run t.between
    rw [hc] at hu hgrows
    exact ⟨cells₂, hcells₂, hu, hgrows⟩
  · intro a ha hmemoize hkept hnew
    refine (r.derivable_iff a).mp ?_
    refine hkeeps (hconfig ▸ hmemoize) r hcaller.registry w (congrArg Prod.fst hchecked) a ha ?_
      hnew
    rw [hagain]
    exact hkept

theorem not_idempotent {w u : Value} (hchecked : t.checked.1 = .conformed (.valid w))
    (hagain : (t.again w).1 = .conformed (.valid u)) (hne : u ≠ w) : ¬ t.Idempotent := by
  rintro ⟨outcome, hfirst, hsame⟩
  cases hchecked.symm.trans hfirst
  cases hagain.symm.trans (hsame w rfl)
  exact hne rfl

/-- In a well-formed registry a well-formed kind leads to no shape that could not be derived by itself. -/
theorem keepsDerivable_of_wellFormed (hmade : t.derived.1 = .made)
    (hregistry : t.caller.session.registryAt? 0 = some r) (hr : r.WellFormed)
    (hk : t.kind.WellFormed r) : t.KeepsDerivable := by
  obtain ⟨r', kinds, _, hcaller, _⟩ := History.intact_made hmade
  obtain rfl := Option.some.inj (hcaller.registry.symm.trans hregistry)
  intro _ r hregistry' w _ a ha hkept _
  obtain rfl := Option.some.inj (hregistry.symm.trans hregistry')
  obtain ⟨_, hchecked, _⟩ := hcaller.since.call (.conform t.opening.specs.length t.value)
  obtain ⟨_, hmiddle, _⟩ := Caller.Since.run hchecked t.between
  obtain ⟨_, ⟨cells, _, hs, _⟩, _⟩ := hmiddle.call (.conform t.opening.specs.length w)
  exact (Registry.derivable_iff _ a).mpr
    (hk.leadsOnlyTo_alone hr a ha (hs.toIntact.contains_of_kept hkept))

end Renewal

/-- Two shapes that mention each other, of which the first also mentions its argument, and one that is
either of them by name, or any object. -/
def Registry.entwined (config : DeriveConfig) : Registry :=
  ⟨"shapes", config,
    [⟨"A", ["T"], [⟨"b", .record "B" [.placeholder "T"]⟩, ⟨"m", .placeholder "T"⟩], []⟩,
      ⟨"B", ["T"], [⟨"a", .optional (.record "A" [.placeholder "T"])⟩, ⟨"c", .nothing⟩], []⟩,
      ⟨"Either", ["T"],
        [⟨"one", .union [.forward "B" [.placeholder "T"], .forward "A" [.placeholder "T"],
          .leaf .object]⟩], []⟩]⟩

theorem Registry.wellFormed_entwined (config : DeriveConfig) : (entwined config).WellFormed := by
  refine .of_parentless (fun shape hshape => ?_) ?_
  · simp only [entwined, List.mem_cons, List.not_mem_nil, or_false] at hshape
    rcases hshape with rfl | rfl | rfl <;> rfl
  · obtain ⟨memoize, checkPlaceholders, builtinNames, extra⟩ := config
    cases memoize <;> cases checkPlaceholders <;> cases builtinNames <;> cases extra <;>
      decide +kernel

namespace Renewal

/-- The argument is a shape that is not there. -/
def entwined (config : DeriveConfig) (more : List (String × Value)) : Renewal where
  name := "shapes"
  config := config
  before := (Registry.entwined config).shapes.map fun shape => .step (.register shape)
  kind := .record "Either" [.record "Missing" []]
  after := []
  value := .object [("one", .object ([("c", .null), ("a", .null)] ++ more))]
  between := []

theorem made_entwined (config : DeriveConfig) :
    (entwined config []).derived.1 = .made ∧
      (entwined config []).caller.session.registryAt? 0 = some (.entwined config) := by
  refine ⟨?_, Registry.eq_some_of_parts ?_⟩
  all_goals
    obtain ⟨memoize, checkPlaceholders, builtinNames, extra⟩ := config
    cases memoize <;> cases checkPlaceholders <;> cases builtinNames <;> cases extra <;>
      decide +kernel

theorem checked_entwined {config : DeriveConfig} (h : config.memoize = true) :
    (entwined config []).checked.1 = .conformed (.valid (entwined config []).value) ∧
    ((entwined config []).again (entwined config []).value).1 =
      .conformed (.valid (.object [("one", .object [("a", .null), ("c", .null)])])) := by
  obtain ⟨memoize, checkPlaceholders, builtinNames, extra⟩ := config
  obtain rfl : memoize = true := h
  cases checkPlaceholders <;> cases builtinNames <;> cases extra <;> decide +kernel

/-- At first neither name means anything, so the object is left as it is; but the second shape has been
kept by then, and makes its own record of it. -/
theorem not_idempotent_entwined {config : DeriveConfig} (h : config.memoize = true) :
    ¬ (entwined config []).Idempotent := by
  obtain ⟨hvalid, hother⟩ := checked_entwined h
  exact not_idempotent hvalid hother (by simp [entwined])

/-- What a check makes of a value it makes of that again for as long as no shape is kept meanwhile that
the kind leads to and that could not be derived first of all. So it is always if no specs are kept, and
if registry and kind are well-formed. If specs are kept it is not for every kind, even in a well-formed
registry. -/
theorem idempotent_of_keepsDerivable_sharp (config : DeriveConfig) :
    (∀ t : Renewal, t.config = config → t.derived.1 = .made → t.KeepsDerivable → t.Idempotent) ∧
    (∀ (t : Renewal) (r : Registry), t.config = config → t.derived.1 = .made →
      t.caller.session.registryAt? 0 = some r → r.WellFormed → t.kind.WellFormed r →
        t.Idempotent) ∧
    (config.memoize = true → ∃ (t : Renewal) (r : Registry), t.config = config ∧
      t.derived.1 = .made ∧ t.caller.session.registryAt? 0 = some r ∧ r.WellFormed ∧
        ¬ t.Idempotent) := by
  refine ⟨fun _ _ hmade hkeeps => idempotent hmade hkeeps, ?_, fun hmemoize => ?_⟩
  · intro t r _ hmade hregistry hr hk
    exact idempotent hmade (keepsDerivable_of_wellFormed hmade hregistry hr hk)
  · obtain ⟨hmade, hregistry⟩ := made_entwined config
    exact ⟨entwined config [], .entwined config, rfl, hmade, hregistry,
      Registry.wellFormed_entwined config, not_idempotent_entwined hmemoize⟩

/-- With the options as they are by default, a key is dropped that the first check has left there. -/
theorem entwined_default_not_idempotent :
    (entwined .default [("z", .int 1)]).derived.1 = .made ∧
      (Registry.entwined .default).WellFormed ∧
      (entwined .default [("z", .int 1)]).caller.session.registryAt? 0 =
        some (.entwined .default) ∧
      (entwined .default [("z", .int 1)]).checked.1 =
        .conformed (.valid (entwined .default [("z", .int 1)]).value) ∧
      ((entwined .default [("z", .int 1)]).again (entwined .default [("z", .int 1)]).value).1 =
        .conformed (.valid (.object [("one", .object [("a", .null), ("c", .null)])])) ∧
      ¬ (entwined .default [("z", .int 1)]).Idempotent := by
  have hvalid : (entwined .default [("z", .int 1)]).checked.1 =
      .conformed (.valid (entwined .default [("z", .int 1)]).value) := by
    decide +kernel
  have hother : ((entwined .default [("z", .int 1)]).again
      (entwined .default [("z", .int 1)]).value).1 =
        .conformed (.valid (.object [("one", .object [("a", .null), ("c", .null)])])) := by
    decide +kernel
  exact ⟨by decide +kernel, Registry.wellFormed_entwined .default,
    Registry.eq_some_of_parts (by decide +kernel), hvalid, hother,
    not_idempotent hvalid hother (by decide)⟩

/-- A point that is referred to by its name, or any object, with notes. The point is only registered
once the reference is there; then it is the first to take the object, and drops and moves keys. -/
def noted : Renewal where
  name := "shapes"
  config := .default
  before := [.step (.register ⟨"Pin", ["T"],
    [⟨"at", .union [.forward "Point" [], .leaf .object]⟩, ⟨"notes", .list (.placeholder "T")⟩], []⟩)]
  kind := .record "Pin" [.forward "str" []]
  after := [.step (.register ⟨"Point", [], [⟨"x", .leaf .int⟩, ⟨"y", .leaf .int⟩], []⟩)]
  value := .object [("more", .null), ("notes", .list [.string "a"]),
    ("at", .object [("z", .int 3), ("y", .int 2), ("x", .int 1)])]
  between := [.explain 0 .root .null, .derive "Point" []]

def pins : Registry :=
  ⟨"shapes", .default,
    [⟨"Pin", ["T"],
      [⟨"at", .union [.forward "Point" [], .leaf .object]⟩, ⟨"notes", .list (.placeholder "T")⟩],
      []⟩,
      ⟨"Point", [], [⟨"x", .leaf .int⟩, ⟨"y", .leaf .int⟩], []⟩]⟩

theorem wellFormed_pins : pins.WellFormed := .of_parentless (by decide) (by decide +kernel)

/-- What the check makes of the value. -/
def trimmed : Value :=
  .object [("at", .object [("x", .int 1), ("y", .int 2)]), ("notes", .list [.string "a"])]

theorem idempotent_noted :
    noted.derived.1 = .made ∧ noted.caller.session.registryAt? 0 = some pins ∧ pins.WellFormed ∧
      noted.kind.WellFormed pins ∧ noted.KeepsDerivable ∧ noted.Idempotent ∧
      noted.checked.1 = .conformed (.valid trimmed) ∧
      (noted.again trimmed).1 = .conformed (.valid trimmed) := by
  have hmade : noted.derived.1 = .made := by decide +kernel
  have hregistry : noted.caller.session.registryAt? 0 = some pins :=
    Registry.eq_some_of_parts (by decide +kernel)
  have hk : noted.kind.WellFormed pins := by decide +kernel
  have hkeeps := keepsDerivable_of_wellFormed hmade hregistry wellFormed_pins hk
  have hchecked : noted.checked.1 = .conformed (.valid trimmed) := by decide +kernel
  have hsharp := idempotent_of_keepsDerivable_sharp .default
  obtain ⟨outcome, hfirst, hsame⟩ :=
    hsharp.2.1 noted pins rfl hmade hregistry wellFormed_pins hk
  cases hchecked.symm.trans hfirst
  exact ⟨hmade, hregistry, wellFormed_pins, hk, hkeeps, hsharp.1 noted rfl hmade hkeeps, hchecked,
    hsame trimmed rfl⟩

end Renewal

end Conform
