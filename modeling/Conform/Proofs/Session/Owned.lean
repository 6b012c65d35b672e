import Conform.Proofs.Check.Refuse
import Conform.Proofs.Registry.Left
import Conform.Proofs.Session.Trials
/-!
Shapes that a session owns: those that were derived by themselves, and not on the way to another. What
is found behind a name is owned or builtin, and stays so whatever is registered, derived and checked
later.
-/

namespace Conform

namespace Session

section
variable (id : Nat) (r : Registry)

/-- The shape is kept, or can be derived by itself if nothing is kept. -/
structure Owns (s : Session) (a : Applied) : Prop where
  kept : r.config.memoize = true → a ∈ s.kept id
  alone : r.config.memoize = false → r.Alone a

/-- If specs are kept, they are of shapes that can be derived by themselves. -/
def AllAlone (s : Session) : Prop := r.config.memoize = true → ∀ a ∈ s.kept id, r.Alone a

/-- The session is sound, and every name that was found to mean a shape means one that it owns. -/
structure Traced (cells : List Target) (s : Session) : Prop
    extends Sound id r (fun _ => True) cells s where
  found : ∀ {cell : Nat} {name : String} {args : List Kind} {spec : Spec},
    s.filled.lookup cell = some spec → cells[cell]? = some (.forward id name args) →
      (∃ i k, spec = .isInstance i k) ∨ s.Owns id r (name, args)

def TracedOver (base : List Target) (s : Session) : Prop :=
  ∃ cells, base <+: cells ∧ Traced id r cells s

end

section
variable {id : Nat} {r r' : Registry} {s t : Session} {cells cells' base : List Target}
  {a : Applied}

theorem Owns.grows (h : s.Owns id r a) (hgrows : s.Grows t) : t.Owns id r a :=
  ⟨fun hmemoize => hgrows.kept id (h.kept hmemoize), h.alone⟩

theorem Owns.extends (h : s.Owns id r a) (hr : r.Extends r') (hmemo : t.memo = s.memo) :
    t.Owns id r' a where
  kept hmemoize := by
    rw [mem_kept, hmemo, ← mem_kept]
    exact h.kept (hr.config ▸ hmemoize)
  alone hmemoize := hr.alone (h.alone (hr.config ▸ hmemoize))

theorem Owns.is_alone (h : s.Owns id r a) (hall : s.AllAlone id r) : r.Alone a := by
  cases hmemoize : r.config.memoize with
  | false => exact h.alone hmemoize
  | true => exact hall hmemoize a (h.kept hmemoize)

theorem AllAlone.of_grows (h : t.AllAlone id r) (hgrows : s.Grows t) : s.AllAlone id r :=
  fun hmemoize a ha => h hmemoize a (hgrows.kept id ha)

/-- A shape that was derived below no other is owned. -/
theorem owns_of_start {before after done : List Applied}
    (hrun : r.start r.config.memoize a before = (.ok (), after)) (hafter : after ⊆ done)
    (htallies : Tallies id r t done) : t.Owns id r a := by
  constructor
  · intro hmemoize
    rw [hmemoize] at hrun
    exact (htallies.mem_kept hmemoize).mp (hafter (Registry.mem_of_start_ok hrun))
  · intro hmemoize
    have hsame := Registry.attempt_unkept r r.shapes.length [] a [] before
    rw [hmemoize] at hrun
    unfold Registry.Alone Registry.start
    rw [hsame]
    exact congrArg Prod.fst hrun

theorem Traced.of_filled (h : Traced id r cells s) (hcells : cells <+: cells') (hgrows : s.Grows t)
    (hsound : Sound id r (fun _ => True) cells' t) (hfilled : t.filled = s.filled) :
    Traced id r cells' t := by
  refine ⟨hsound, fun {cell name args spec} hfound hcell => ?_⟩
  obtain ⟨hfound, hcell⟩ := h.held_before hcells hfilled hfound hcell
  exact (h.found hfound hcell).imp_right fun howns => howns.grows hgrows

theorem traced_holding (r : Registry) : Traced 0 r [] (.holding r) :=
  ⟨sound_holding r _, fun hfilled _ => by cases hfilled⟩

/-! ## References -/

/-- What is found behind a name is builtin, or a shape that is owned then. -/
theorem owns_of_seek {name : String} {args : List Kind} {spec : Spec}
    (hanswers : Answers id r (fun _ => True) cells (.forward id name args) spec)
    (hseek : (r.seek r.config.memoize (.forward id name args) (s.kept id)).1 = .ok ())
    (htallies : Tallies id r t (r.seek r.config.memoize (.forward id name args) (s.kept id)).2) :
    (∃ i k, spec = .isInstance i k) ∨ t.Owns id r (name, args) := by
  cases hanswers with
  | builtin i _ _ => exact .inl ⟨i, _, rfl⟩
  | forward hname _ =>
    simp only [Registry.seek, hname, if_true] at hseek htallies
    exact .inr (owns_of_start (Prod.ext hseek rfl) (List.Subset.refl _) htallies)

theorem Traced.look (h : Traced id r cells s) {reference : Reference}
    (hcell : cells[reference.cell]? = some reference.target) (htarget : reference.target.IsOf id) :
    (∃ spec t cells', (resolve reference).run s = (.ok spec, t) ∧ cells <+: cells' ∧
      Traced id r cells' t ∧ s.Grows t ∧ Answers id r (fun _ => True) cells' reference.target spec ∧
      ∀ name args, reference.target = .forward id name args →
        (∃ i k, spec = .isInstance i k) ∨ t.Owns id r (name, args)) ∨
    ∃ e t cells', (resolve reference).run s = (.error e, t) ∧ cells <+: cells' ∧
      Traced id r cells' t ∧ s.Grows t ∧
      (r.seek r.config.memoize reference.target (s.kept id)).1 = .error e := by
  have hresolved := resolved (fun _ _ _ => trivial) h.toSound (tallies_kept s) hcell htarget
    fun _ _ => trivial
  generalize (resolve reference).run s = o at hresolved ⊢
  cases hresolved with
  | @known spec hfilled hanswers =>
    refine .inl ⟨spec, s, cells, rfl, List.prefix_refl _, h, .refl s, hanswers, ?_⟩
    intro name args hname
    exact h.found hfilled (hname ▸ hcell)
  | @missing e t cells' _ he hcells hsound _ hgrows hfilled =>
    exact .inr ⟨e, t, cells', rfl, hcells, h.of_filled hcells hgrows hsound hfilled, hgrows, he⟩
  | @found spec t cells' _ hok hcells hsound htallies hgrows hfilled hanswers =>
    have howns : ∀ name args, reference.target = .forward id name args →
        (∃ i k, spec = .isInstance i k) ∨ t.Owns id r (name, args) := by
      intro name args hname
      rw [hname] at hanswers hok htallies
      exact owns_of_seek hanswers hok htallies
    refine .inl ⟨spec, t, cells', rfl, hcells, ⟨hsound, ?_⟩, hgrows, hanswers, howns⟩
    intro cell name args found hfound hforward
    rcases h.held_before_or hcells hcell hfilled hfound hforward with
      ⟨hold, hknown⟩ | ⟨rfl, rfl, hname⟩
    · exact (h.found hold hknown).imp_right fun howns => howns.grows hgrows
    · exact howns name args hname.symm

theorem Traced.preserved (id : Nat) (r : Registry) :
    Preserved id r (fun _ => True) (Traced id r) := by
  refine ⟨fun hs hcell htarget => ?_⟩
  rcases hs.look hcell htarget with
    ⟨spec, t, cells', hrun, hcells, ht, _, hanswers, _⟩ | ⟨e, t, cells', hrun, hcells, ht, _⟩
  · exact ⟨_, t, cells', hrun, hcells, ht, fun _ h => Except.ok.inj h ▸ hanswers⟩
  · exact ⟨_, t, cells', hrun, hcells, ht, fun _ h => by cases h⟩

end

end Session

open Check (Compositional)
open Session (Traced TracedOver)
open Spec (InStep)

/-! ## Walks -/

section
variable {id : Nat} {r : Registry} {cells base : List Target} {s : Session}

/-- The walk has an answer, and leaves a traced session that has only grown. -/
def Traces (id : Nat) (r : Registry) (base : List Target) {α : Type} (x _y : Check α) : Prop :=
  ∀ s, TracedOver id r base s → ∃ a t, x s = some (a, t) ∧ TracedOver id r base t ∧ s.Grows t

theorem compositional_traces (base : List Target) : Compositional (Traces id r base) where
  pure a := fun s hs => ⟨a, s, rfl, hs, .refl s⟩
  bind hx hf := fun s hs => by
    obtain ⟨a, t, hrun, ht, hgrows⟩ := hx s hs
    obtain ⟨b, u, hrun', hu, hgrows'⟩ := hf a t ht
    refine ⟨b, u, ?_, hu, hgrows.trans hgrows'⟩
    rw [Check.bind_apply, hrun]
    exact hrun'

theorem Traces.run {α : Type} {x y : Check α} (h : Traces id r base x y) (hcells : base <+: cells)
    (hs : Traced id r cells s) :
    ∃ a t, x s = some (a, t) ∧ TracedOver id r base t ∧ s.Grows t :=
  h s ⟨cells, hcells, hs⟩

/-- Walks only let the session grow, so they trace if they preserve that it is traced. -/
theorem traces_of_preserves {n : Nat} {spec : Spec} {v : Value}
    (h : InStep (Preserves (Traced id r) cells) (.within n) (.within n) spec v) :
    InStep (Traces id r cells) (.within n) (.within n) spec v := by
  have hadvances := Spec.advancing_within n spec v
  constructor
  · intro s hs
    obtain ⟨c, t, hrun, _, ht⟩ := Check.Ensures.exists_some h.conform hs
    exact ⟨c, t, hrun, ht, (hadvances.conform s c t hrun).grows⟩
  · intro path s hs
    obtain ⟨problems, t, hrun, _, ht⟩ := Check.Ensures.exists_some (h.explain path) hs
    exact ⟨problems, t, hrun, ht, (hadvances.explain path s problems t hrun).grows⟩

theorem deferred_traces (n : Nat) (cells : List Target) :
    LazyInStep (Traces id r cells) (.within n) (.within n) id (fun _ => True) cells n :=
  fun i reference v hcell htarget hF hv =>
    traces_of_preserves ((Traced.preserved id r).deferred n cells i reference v hcell htarget hF hv)

theorem Answers.traces {target : Target} {spec : Spec}
    (h : Answers id r (fun _ => True) cells target spec) {n : Nat} {v : Value} (hv : v.depth ≤ n) :
    InStep (Traces id r cells) (.within n) (.within n) spec v :=
  h.inStep (compositional_traces cells) (fun _ _ _ _ _ _ => trivial) (deferred_traces n cells) trivial
    (fun _ _ _ _ => trivial) v hv

theorem Stands.traces {k : Kind} {spec : Spec} (h : Stands id r (fun _ => True) cells k spec) {n : Nat}
    {v : Value} (hv : v.depth < n) : InStep (Traces id r cells) (.within n) (.within n) spec v :=
  traces_of_preserves ((Traced.preserved id r).stands h hv)

end

/-! ## Callers -/

/-- The caller's specs stand for the kinds, and the session is traced. -/
def Caller.Traced (id : Nat) (r : Registry) (kinds : List Kind) (c : Caller) : Prop :=
  ∃ cells, Session.Traced id r cells c.session ∧ StandAll id r (fun _ => True) cells kinds c.specs

namespace Caller.Traced

variable {id : Nat} {r : Registry} {kinds : List Kind} {c : Caller}

theorem sound (h : c.Traced id r kinds) : c.Sound id r (fun _ => True) kinds := by
  obtain ⟨cells, hs, hspecs⟩ := h
  exact ⟨cells, hs.toSound, hspecs⟩

theorem of (r : Registry) : Caller.Traced 0 r [] (.of r) := ⟨[], Session.traced_holding r, .nil⟩

/-- If the spec of a kind is made, the shapes that it mentions are owned from then on. -/
theorem specFor (h : c.Traced id r kinds) (k : Kind) :
    (∃ c', c.call id (.specFor k) = (.made, c') ∧ c'.Traced id r (kinds ++ [k]) ∧
      c.session.Grows c'.session ∧ ∀ a ∈ k.records, c'.session.Owns id r a) ∨
    ∃ e c', c.call id (.specFor k) = (.refused e, c') ∧ c'.Traced id r kinds ∧
      c.session.Grows c'.session := by
  obtain ⟨cells, hs, hspecs⟩ := h
  obtain ⟨cells', h⟩ := Session.specFor_follows k cells c.session cells (c.session.kept id)
    (List.prefix_refl _) hs.toSound (Session.tallies_kept _) fun _ _ => trivial
  have hspecs' := hspecs.mono (.refl r) h.cells
  have ht := hs.of_filled h.cells h.grows h.sound h.filled
  rcases hrun : (Session.specFor id k).run c.session with ⟨e | spec, s⟩
  · rw [hrun] at ht
    refine .inr ⟨e, ⟨s, c.specs⟩, ?_, ⟨cells', ht, hspecs'⟩, (hrun ▸ h).grows⟩
    rw [Caller.call_specFor, hrun]
    rfl
  · rw [hrun] at ht
    obtain ⟨_, _, htallies, hgrows, _, houtcome, hresult⟩ := hrun ▸ h
    refine .inl ⟨⟨s, c.specs ++ [spec]⟩, ?_, ⟨cells', ht, hspecs'.concat (hresult spec rfl)⟩,
      hgrows, ?_⟩
    · rw [Caller.call_specFor, hrun]
      rfl
    · intro a ha
      obtain ⟨before, after, hstart, _, hafter⟩ :=
        Registry.attemptAll_ok Registry.attempt_subset (Prod.ext houtcome rfl) a ha
      exact Session.owns_of_start hstart hafter htallies

/-- A walk of one of the caller's specs has an answer, and leaves the caller traced. -/
theorem check (h : c.Traced id r kinds) {i : Nat} {spec : Spec} (hspec : c.specs[i]? = some spec)
    {α : Type} {x : Check α}
    (hwalk : ∀ {cells k}, Stands id r (fun _ => True) cells k spec → Traces id r cells x x) :
    ∃ a s, x c.session = some (a, s) ∧ Caller.Traced id r kinds ⟨s, c.specs⟩ ∧ c.session.Grows s := by
  obtain ⟨cells, hs, hspecs⟩ := h
  obtain ⟨k, hstands⟩ := hspecs.of_spec hspec
  obtain ⟨a, t, hrun, ⟨more, hmore, ht⟩, hgrows⟩ := (hwalk hstands).run (List.prefix_refl _) hs
  exact ⟨a, t, hrun, ⟨more, ht, hspecs.mono (.refl r) hmore⟩, hgrows⟩

/-- Every call leaves the caller traced, and the session only grows. -/
theorem call (h : c.Traced id r kinds) (x : Call) :
    ∃ more, (c.call id x).2.Traced id r (kinds ++ more) ∧ c.session.Grows (c.call id x).2.session := by
  have hsame : ∀ {c' : Caller}, c'.Traced id r kinds → c.session.Grows c'.session →
      ∃ more, c'.Traced id r (kinds ++ more) ∧ c.session.Grows c'.session :=
    fun h' hgrows => ⟨[], by rwa [List.append_nil], hgrows⟩
  refine call_leaves (R := fun c' => ∃ more, c'.Traced id r (kinds ++ more) ∧
    c.session.Grows c'.session) (hsame h (.refl _)) (fun k => ?_) (fun hspec hrun => ?_)
    (fun hspec hrun => ?_) x
  · rcases h.specFor k with ⟨c', hcall, hc', hgrows, _⟩ | ⟨e, c', hcall, hc', hgrows⟩
    · rw [hcall]
      exact ⟨[k], hc', hgrows⟩
    · rw [hcall]
      exact hsame hc' hgrows
  · obtain ⟨_, _, hrun', hs, hgrows⟩ := h.check hspec fun hstands =>
      (hstands.traces (Check.depth_lt_reach _ c.session)).conform
    cases hrun.symm.trans hrun'
    exact hsame hs hgrows
  · obtain ⟨_, _, hrun', hs, hgrows⟩ := h.check hspec fun hstands =>
      (hstands.traces (Check.depth_lt_reach _ c.session)).explain _
    cases hrun.symm.trans hrun'
    exact hsame hs hgrows

theorem register (h : c.Traced id r kinds) (shape : Shape) :
    ∃ r', r.Extends r' ∧ (c.register id shape).Traced id r' kinds ∧
      (c.register id shape).session.memo = c.session.memo := by
  obtain ⟨cells, hs, hspecs⟩ := h
  unfold Caller.register
  cases hregister : c.session.register id shape with
  | error e => exact ⟨r, .refl r, ⟨cells, hs, hspecs⟩, rfl⟩
  | ok s =>
    obtain ⟨r', hextends, hsound⟩ := hs.toSound.register hregister
    obtain ⟨_, _, _, _, rfl⟩ := Session.register_ok hregister
    exact ⟨r', hextends, ⟨cells, ⟨hsound, fun hfound hcell =>
      (hs.found hfound hcell).imp_right fun howns => howns.extends hextends rfl⟩,
      hspecs.mono hextends (List.prefix_refl _)⟩, rfl⟩

/-- A step leaves the caller traced, and what was owned before it is owned after it. -/
theorem step (h : c.Traced id r kinds) (x : Step) :
    ∃ r' more, r.Extends r' ∧ (c.step id x).Traced id r' (kinds ++ more) ∧
      ∀ a, c.session.Owns id r a → (c.step id x).session.Owns id r' a := by
  cases x with
  | register shape =>
    obtain ⟨r', hextends, htraced, hmemo⟩ := h.register shape
    exact ⟨r', [], hextends, by rwa [List.append_nil], fun a ha => ha.extends hextends hmemo⟩
  | call x =>
    obtain ⟨more, htraced, hgrows⟩ := h.call x
    exact ⟨r, more, .refl r, htraced, fun a ha => ha.grows hgrows⟩

theorem walk (h : c.Traced id r kinds) (steps : List Step) :
    ∃ r' more, r.Extends r' ∧ (c.walk id steps).Traced id r' (kinds ++ more) ∧
      ∀ a, c.session.Owns id r a → (c.walk id steps).session.Owns id r' a := by
  induction steps generalizing c r kinds with
  | nil => exact ⟨r, [], .refl r, by rwa [List.append_nil], fun _ ha => ha⟩
  | cons x steps ih =>
    obtain ⟨r', more, hextends, hstep, howns⟩ := h.step x
    obtain ⟨r'', more', hextends', hwalk, howns'⟩ := ih hstep
    exact ⟨r'', more ++ more', hextends.trans hextends',
      by rw [← List.append_assoc]; exact hwalk, fun a ha => howns' a (howns a ha)⟩

end Caller.Traced

/-- When the value is held against it, the spec that was made stands for its kind in a traced session
that owns the shapes the kind mentions. -/
theorem Trial.traced {t : Trial} (hmade : t.derived.1 = .made) :
    ∃ r cells spec, r.config = t.config ∧ t.caller.specs[t.opening.specs.length]? = some spec ∧
      Session.Traced 0 r cells t.caller.session ∧ Stands 0 r (fun _ => True) cells t.kind spec ∧
      ∀ a ∈ t.kind.records, t.caller.session.Owns 0 r a := by
  obtain ⟨r, kinds, hextends, hopening, _⟩ :=
    (Caller.Traced.of ⟨t.name, t.config, []⟩).walk t.before
  rw [List.nil_append] at hopening
  rcases hopening.specFor t.kind with ⟨c, hcall, hderived, _, howns⟩ | ⟨e, c, hcall, _⟩
  · obtain ⟨r', more, hextends', ⟨cells, hs, hspecs⟩, howns'⟩ := hderived.walk t.after
    have hcaller : t.caller = c.walk 0 t.after :=
      congrArg (fun p : Answer × Caller => p.2.walk 0 t.after) hcall
    obtain ⟨spec, hspec, hstands⟩ := hspecs.of_kind (hopening.sound.kind_of_next t.kind more)
    rw [hcaller]
    exact ⟨r', cells, spec, (hextends.trans hextends').config, hspec, hs, hstands,
      fun a ha => howns' a (howns a ha)⟩
  · have hrefused : t.derived.1 = .refused e := congrArg Prod.fst hcall
    cases hrefused.symm.trans hmade

end Conform
