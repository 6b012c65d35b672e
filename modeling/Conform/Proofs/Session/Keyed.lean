import Conform.Proofs.Session.Events
import Conform.Proofs.Session.Kept
/-!
What is kept for a registry stays as it is. Entries are only added to the memo, each under a key that
was free, in the middle of derivations and of checks; and all that was ever derived for a key, or was
found behind a lazy reference to it, is the one spec that the memo has for it.
-/

namespace Conform

/-! ## Sessions whose cells hold what is kept -/

namespace Session

/-- Sound, with specs kept and all handles on the one registry. Cells hold the specs that are kept, but
for names that were found to be builtin. The names of the cells in `late` are registered, and these
hold nothing else. -/
structure Keyed (id : Nat) (r : Registry) (late : Nat → Prop) (cells : List Target) (s : Session) :
    Prop extends Sound id r (fun _ => True) cells s where
  memoize : r.config.memoize = true
  handles : ∀ handle ∈ s.handles, handle.2 = id
  held : ∀ {cell : Nat} {target : Target} {key : MemoKey} {spec : Spec},
    cells[cell]? = some target → target.key? = some key → s.filled.lookup cell = some spec →
      s.memo.lookup key = some spec ∨ ¬ late cell ∧ r.MeansItself target spec
  registered : ∀ {cell : Nat}, late cell → ∃ target key,
    cells[cell]? = some target ∧ target.key? = some key ∧ r.contains key.shape = true

namespace Keyed

variable {id : Nat} {r r' : Registry} {late : Nat → Prop} {cells cells' : List Target}
  {s t : Session} {spec : Spec} {reference : Reference} {key : MemoKey}

theorem holding (r : Registry) (hmemoize : r.config.memoize = true) :
    Keyed 0 r (fun _ => False) [] (.holding r) where
  toSound := sound_holding r _
  memoize := hmemoize
  handles := List.forall_mem_singleton.mpr rfl
  held hcell := by cases hcell
  registered h := h.elim

theorem of_filled (h : Keyed id r late cells s) (hcells : cells <+: cells')
    (hsound : Sound id r (fun _ => True) cells' t) (hgrows : s.Grows t) (hfilled : t.filled = s.filled) :
    Keyed id r late cells' t where
  toSound := hsound
  memoize := h.memoize
  handles := hgrows.handles ▸ h.handles
  held hcell hkey hfound := by
    obtain ⟨hfound, hcell⟩ := h.held_before hcells hfilled hfound hcell
    exact (h.held hcell hkey hfound).imp_left hgrows.memo
  registered hlate := by
    obtain ⟨target, key, hcell, hkey, hname⟩ := h.registered hlate
    exact ⟨target, key, cell_mono hcells hcell, hkey, hname⟩

/-- A late cell is not of a name that is not registered. -/
theorem not_late (h : Keyed id r late cells s) {cell : Nat} {target : Target}
    (hcell : cells[cell]? = some target) (hkey : target.key? = some key)
    (hname : r.contains key.shape = false) : ¬ late cell := by
  intro hlate
  obtain ⟨target', key', hcell', hkey', hname'⟩ := h.registered hlate
  obtain rfl := Option.some.inj (hcell'.symm.trans hcell)
  obtain rfl := Option.some.inj (hkey'.symm.trans hkey)
  exact Bool.false_ne_true (hname.symm.trans hname')

/-- Whatever is found behind a reference is kept, or is what the name means by itself. -/
theorem found (h : Keyed id r late cells s) (hknows : Knows id cells reference)
    (hkey : reference.target.key? = some key) (hrun : (resolve reference).run s = (.ok spec, t)) :
    t.memo.lookup key = some spec ∨ ¬ late reference.cell ∧ r.MeansItself reference.target spec := by
  cases hfilled : s.filled.lookup reference.cell with
  | some held =>
    rw [run_resolve, hfilled] at hrun
    cases hrun
    exact h.held hknows.1 hkey hfilled
  | none =>
    exact (resolve_kept h.registry h.memoize hknows.2 hkey hfilled hrun).imp_right fun hitself =>
      ⟨h.not_late hknows.1 hkey hitself.1, hitself.2⟩

theorem serves (h : Keyed id r late cells s) {name : String} {args : List Kind}
    (hkept : s.memo.lookup ⟨id, name, args⟩ = some spec) : s.Serves ⟨id, name, args⟩ spec :=
  ⟨hkept, derive_again h.registry h.alive h.memoize hkept⟩

theorem preserved (id : Nat) (r : Registry) (late : Nat → Prop) :
    Preserved id r (fun _ => True) (Keyed id r late) := by
  refine ⟨fun {cells s reference} h hcell htarget => ?_⟩
  have hresolved := resolved (fun _ _ _ => trivial) h.toSound (tallies_kept s) hcell htarget
    fun _ _ => trivial
  generalize hrun : (resolve reference).run s = o at hresolved ⊢
  cases hresolved with
  | known _ hanswers =>
    exact ⟨_, s, cells, rfl, List.prefix_refl _, h, fun _ hspec => Except.ok.inj hspec ▸ hanswers⟩
  | missing _ _ hcells hsound _ hgrows hfilled =>
    have hs := h.of_filled hcells hsound hgrows hfilled
    exact ⟨_, _, _, rfl, hcells, hs, fun _ hspec => by cases hspec⟩
  | @found spec t cells' _ _ hcells hsound _ hgrows hfilled hanswers =>
    refine ⟨_, t, cells', rfl, hcells, ?_, fun _ hspec => Except.ok.inj hspec ▸ hanswers⟩
    refine ⟨hsound, h.memoize, hgrows.handles ▸ h.handles, fun hcell' hkey hheld => ?_, fun hlate => ?_⟩
    · rcases h.held_before_or hcells hcell hfilled hheld hcell' with
        ⟨hheld, hcell'⟩ | ⟨rfl, rfl, rfl⟩
      · exact (h.held hcell' hkey hheld).imp_left hgrows.memo
      · exact h.found ⟨hcell, htarget⟩ hkey hrun
    · obtain ⟨target, key, hcell', hkey, hname⟩ := h.registered hlate
      exact ⟨target, key, cell_mono hcells hcell', hkey, hname⟩

/-- Whatever is found behind a reference can be had by a derivation, or is what the name means by
itself. -/
theorem serves_found (h : Keyed id r late cells s) (hknows : Knows id cells reference) {name : String}
    {args : List Kind} (hkey : reference.target.key? = some ⟨id, name, args⟩)
    (hrun : (resolve reference).run s = (.ok spec, t)) :
    t.Serves ⟨id, name, args⟩ spec ∨
      ¬ late reference.cell ∧ r.MeansItself reference.target spec := by
  obtain ⟨_, _, _, hrun', _, ht, _⟩ := (preserved id r late).look h hknows.1 hknows.2
  cases hrun.symm.trans hrun'
  exact (h.found hknows hkey hrun).imp_left ht.serves

/-- Only registered shapes are kept, under as many arguments as they take. -/
theorem takes (h : Keyed id r late cells s) {name : String} {args : List Kind}
    (hmem : (⟨id, name, args⟩, spec) ∈ s.memo) : r.Takes name args.length := by
  obtain ⟨kept, hkept⟩ := Option.isSome_iff_exists.mp
    (List.lookup_isSome_iff.mpr ⟨_, hmem, beq_self_eq_true (⟨id, name, args⟩ : MemoKey)⟩)
  cases h.memo (a := (name, args)) hkept with
  | mk _ hfields =>
    obtain ⟨_, happlied, _⟩ := Registry.bind_eq_ok.mp hfields
    exact Registry.takes_of_applied happlied

/-- From the moment that its name is registered, an empty cell is late. -/
theorem await (h : Keyed id r late cells s) (hcell : cells[reference.cell]? = some reference.target)
    (hkey : reference.target.key? = some key) (hempty : s.filled.lookup reference.cell = none)
    (hname : r.contains key.shape = true) : Keyed id r (· = reference.cell) cells s where
  toSound := h.toSound
  memoize := h.memoize
  handles := h.handles
  held hcell' hkey' hheld := by
    refine (h.held hcell' hkey' hheld).imp_right fun hitself => ⟨?_, hitself.2⟩
    rintro rfl
    cases hempty.symm.trans hheld
  registered hlate := ⟨_, key, hlate ▸ hcell, hkey, hname⟩

theorem register (h : Keyed id r late cells s) {shape : Shape} (hs : s.register id shape = .ok t) :
    ∃ r', r.Extends r' ∧ Keyed id r' late cells t := by
  obtain ⟨r', hextends, hsound⟩ := h.toSound.register hs
  obtain ⟨_, _, _, _, rfl⟩ := register_ok hs
  refine ⟨r', hextends, hsound, hextends.config ▸ h.memoize, h.handles, ?_, fun hlate => ?_⟩
  · intro cell target key spec hcell hkey hheld
    exact (h.held hcell hkey hheld).imp_right fun hitself =>
      ⟨hitself.1, hextends.meansItself hitself.2⟩
  · obtain ⟨target, key, hcell, hkey, hname⟩ := h.registered hlate
    exact ⟨target, key, hcell, hkey, hextends.contains hname⟩

theorem bindHandle (h : Keyed id r late cells s) (name : String) :
    Keyed id r late cells (s.bindHandle name id) where
  registry := h.registry
  alive := by simp [isAlive, Session.bindHandle]
  count := h.count
  memo := h.memo
  filled := h.filled
  memoize := h.memoize
  handles := List.forall_mem_cons.mpr
    ⟨rfl, fun handle hmem => h.handles handle (List.mem_of_mem_filter hmem)⟩
  held := h.held
  registered := h.registered

end Keyed

end Session

/-! ## Callers -/

namespace Caller

section
variable {id : Nat} {r : Registry} {late : Nat → Prop} {cells : List Target} {c : Caller}

/-- Whatever happens, entries are only added to the memo, each under a key that was free. -/
theorem event_memo (id : Nat) (c : Caller) (e : Event) :
    c.session.Advances (c.event id e).session ∨ (c.event id e).session.memo = c.session.memo := by
  cases e with
  | step x =>
    cases x with
    | call x => exact .inl (call_advances id c x)
    | register shape =>
      refine .inr ?_
      change (c.register id shape).session.memo = _
      unfold Caller.register
      cases hregister : c.session.register id shape with
      | error e => rfl
      | ok s =>
        obtain ⟨_, _, _, _, rfl⟩ := Session.register_ok hregister
        rfl
  | clone handle copy =>
    refine .inr ?_
    simp only [event]
    cases c.session.handle? handle <;> rfl
  | drop handle => exact .inr rfl

theorem pass_memo (id : Nat) (c : Caller) (events : List Event) :
    c.session.memo <+: (c.pass id events).session.memo ∧
      ((c.session.memo.map Prod.fst).Nodup →
        ((c.pass id events).session.memo.map Prod.fst).Nodup) := by
  induction events generalizing c with
  | nil => exact ⟨List.prefix_refl _, fun hc => hc⟩
  | cons e events ih =>
    obtain ⟨hentries, hnodup⟩ := ih (c.event id e)
    rcases event_memo id c e with hadvances | hsame
    · exact ⟨hadvances.memo_prefix.trans hentries, fun hc => hnodup (hadvances.nodup_keys hc)⟩
    · rw [hsame] at hentries hnodup
      exact ⟨hentries, hnodup⟩

/-- The lazy references that the caller can come to: in its specs, in those that are kept, and in what
cells hold. -/
def Mentions (id : Nat) (c : Caller) (reference : Reference) : Prop :=
  ∃ spec, reference ∈ spec.references ∧
    (spec ∈ c.specs ∨ (∃ name args, c.session.memo.lookup ⟨id, name, args⟩ = some spec) ∨
      ∃ cell, c.session.filled.lookup cell = some spec)

/-- The caller's specs stand for kinds, and its session holds what is kept. -/
structure Keyed (id : Nat) (r : Registry) (late : Nat → Prop) (cells : List Target) (c : Caller) :
    Prop where
  session : c.session.Keyed id r late cells
  specs : ∃ kinds, StandAll id r (fun _ => True) cells kinds c.specs

namespace Keyed

/-- A check of one of the caller's specs has an answer, and its session goes on to hold what is kept. -/
theorem check {α : Type} {x : Check α} (h : c.Keyed id r late cells) {i : Nat} {spec : Spec}
    (hspec : c.specs[i]? = some spec)
    (hx : ∀ {k}, Stands id r (fun _ => True) cells k spec →
      Preserves (Session.Keyed id r late) cells x x) :
    ∃ a s cells', x c.session = some (a, s) ∧ cells <+: cells' ∧
      Caller.Keyed id r late cells' ⟨s, c.specs⟩ := by
  obtain ⟨kinds, hspecs⟩ := h.specs
  obtain ⟨k, hstands⟩ := hspecs.of_spec hspec
  obtain ⟨a, s, cells', hrun, hcells, hs⟩ := (hx hstands).exists_some h.session
  exact ⟨a, s, cells', hrun, hcells, hs, kinds, hspecs.mono (.refl r) hcells⟩

theorem specFor (h : c.Keyed id r late cells) (k : Kind) :
    ∃ cells', cells <+: cells' ∧ (c.call id (.specFor k)).2.Keyed id r late cells' := by
  obtain ⟨kinds, hspecs⟩ := h.specs
  obtain ⟨cells', hmade⟩ := Session.specFor_follows k cells c.session cells (c.session.kept id)
    (List.prefix_refl _) h.session.toSound (Session.tallies_kept _) fun _ _ => trivial
  have hs := h.session.of_filled hmade.cells hmade.sound hmade.grows hmade.filled
  have hspecs' := hspecs.mono (.refl r) hmade.cells
  refine ⟨cells', hmade.cells, ?_⟩
  rw [call_specFor]
  rcases hrun : (Session.specFor id k).run c.session with ⟨e | spec, s⟩
  · rw [hrun] at hs
    exact ⟨hs, kinds, hspecs'⟩
  · have hstands := hmade.result spec (congrArg Prod.fst hrun)
    rw [hrun] at hs
    exact ⟨hs, kinds ++ [k], hspecs'.concat hstands⟩

theorem call (h : c.Keyed id r late cells) (x : Call) :
    ∃ cells', cells <+: cells' ∧ (c.call id x).2.Keyed id r late cells' := by
  have hpreserved := Session.Keyed.preserved id r late
  refine call_leaves (R := fun c' => ∃ cells', cells <+: cells' ∧ c'.Keyed id r late cells')
    ⟨cells, List.prefix_refl _, h⟩ h.specFor (fun hspec hrun => ?_) (fun hspec hrun => ?_) x
  · obtain ⟨_, _, cells', hrun', hcells, hs⟩ := h.check hspec fun hstands =>
      (hpreserved.stands hstands (Check.depth_lt_reach _ c.session)).conform
    cases hrun.symm.trans hrun'
    exact ⟨cells', hcells, hs⟩
  · obtain ⟨_, _, cells', hrun', hcells, hs⟩ := h.check hspec fun hstands =>
      (hpreserved.stands hstands (Check.depth_lt_reach _ c.session)).explain _
    cases hrun.symm.trans hrun'
    exact ⟨cells', hcells, hs⟩

/-- Only a handle that is dropped could leave the registry without one. -/
theorem event (h : c.Keyed id r late cells) {e : Event} (he : ∀ handle, e ≠ .drop handle) :
    ∃ r' cells', r.Extends r' ∧ cells <+: cells' ∧ (c.event id e).Keyed id r' late cells' := by
  cases e with
  | step x =>
    cases x with
    | call x =>
      obtain ⟨cells', hcells, hcall⟩ := h.call x
      exact ⟨r, cells', .refl r, hcells, hcall⟩
    | register shape =>
      change ∃ r' cells', _ ∧ _ ∧ (c.register id shape).Keyed id r' late cells'
      unfold Caller.register
      cases hregister : c.session.register id shape with
      | error e => exact ⟨r, cells, .refl r, List.prefix_refl _, h⟩
      | ok s =>
        obtain ⟨kinds, hspecs⟩ := h.specs
        obtain ⟨r', hextends, hs⟩ := h.session.register hregister
        exact ⟨r', cells, hextends, List.prefix_refl _, hs, kinds,
          hspecs.mono hextends (List.prefix_refl _)⟩
  | clone handle copy =>
    refine ⟨r, cells, .refl r, List.prefix_refl _, ?_⟩
    cases hhandle : c.session.handle? handle with
    | none =>
      simp only [Caller.event, hhandle]
      exact h
    | some registry =>
      obtain ⟨_, _, hhandles, _⟩ := List.lookup_eq_some_iff.mp hhandle
      have hmem : (handle, registry) ∈ c.session.handles :=
        hhandles ▸ List.mem_append_right _ List.mem_cons_self
      obtain rfl : registry = id := h.session.handles _ hmem
      simp only [Caller.event, hhandle]
      exact ⟨h.session.bindHandle copy, h.specs⟩
  | drop handle => exact absurd rfl (he handle)

theorem pass (h : c.Keyed id r late cells) {events : List Event}
    (hevents : ∀ handle, .drop handle ∉ events) :
    ∃ r' cells', r.Extends r' ∧ cells <+: cells' ∧ (c.pass id events).Keyed id r' late cells' := by
  induction events generalizing c r cells with
  | nil => exact ⟨r, cells, .refl r, List.prefix_refl _, h⟩
  | cons e events ih =>
    obtain ⟨r', cells', hextends, hcells, hevent⟩ :=
      h.event fun handle heq => hevents handle (heq ▸ List.mem_cons_self)
    obtain ⟨r'', cells'', hextends', hcells', hpass⟩ :=
      ih hevent fun handle hmem => hevents handle (List.mem_cons_of_mem e hmem)
    exact ⟨r'', cells'', hextends.trans hextends', hcells.trans hcells', hpass⟩

theorem of (r : Registry) (hmemoize : r.config.memoize = true) :
    (Caller.of r).Keyed 0 r (fun _ => False) [] :=
  ⟨.holding r hmemoize, [], .nil⟩

/-- What was derived once can be had from then on. -/
theorem serves_derived (h : c.Keyed id r late cells) {name : String} {args : List Kind} {spec : Spec}
    {s : Session} (hrun : (Session.derive id name args).run c.session = (.ok spec, s))
    {events : List Event} (hevents : ∀ handle, .drop handle ∉ events) :
    s.Serves ⟨id, name, args⟩ spec ∧
      ((c.call id (.derive name args)).2.pass id events).session.Serves ⟨id, name, args⟩ spec := by
  have hsession : (c.call id (.derive name args)).2.session = s := by
    change (c.keep _).2.session = s
    rw [keep_session, hrun]
  obtain ⟨_, _, hcall⟩ := h.call (.derive name args)
  have hs := hcall.session
  obtain ⟨_, _, _, _, hpass⟩ := hcall.pass hevents
  have hkept := Session.derive_kept h.session.registry h.session.memoize hrun
  have hlater := (pass_memo id (c.call id (.derive name args)).2 events).1
  rw [hsession] at hlater hs
  exact ⟨hs.serves hkept, hpass.session.serves (Session.lookup_of_prefix hlater hkept)⟩

/-! ### References at hand -/

/-- The table knows every reference that the caller can come to. -/
theorem knows (h : c.Keyed id r late cells) {reference : Reference}
    (hreference : c.Mentions id reference) : Session.Knows id cells reference := by
  obtain ⟨spec, hmem, hspec | ⟨name, args, hkept⟩ | ⟨cell, hheld⟩⟩ := hreference
  · obtain ⟨kinds, hspecs⟩ := h.specs
    exact hspecs.refers spec hspec reference hmem
  · exact (h.session.memo (a := (name, args)) hkept).refers reference hmem
  · obtain ⟨target, _, hanswers⟩ := h.session.filled hheld
    exact hanswers.refers reference hmem

end Keyed

end

/-! ## The memo over time -/

/-- What is settled about the memo of a registry, whatever `events` happen to the caller. -/
structure MemoLasts (c : Caller) (events : List Event) : Prop where
  /-- Entries are never removed or replaced; new ones go behind them. -/
  entries : c.session.memo <+: (c.pass 0 events).session.memo
  keys : ((c.pass 0 events).session.memo.map Prod.fst).Nodup
  memoized : c.session.memoized 0 ≤ (c.pass 0 events).session.memoized 0
  /-- Only registered shapes are kept, under as many arguments as they take. -/
  takes : ∀ {name args spec}, (⟨0, name, args⟩, spec) ∈ c.session.memo →
    ∃ r, c.session.registryAt? 0 = some r ∧ r.Takes name args.length
  /-- Once a derivation has come to a spec, that is what its key has. -/
  derived : ∀ {name args spec s}, (Session.derive 0 name args).run c.session = (.ok spec, s) →
    s.Serves ⟨0, name, args⟩ spec ∧
      ((c.call 0 (.derive name args)).2.pass 0 events).session.Serves ⟨0, name, args⟩ spec
  failed : ∀ {name args e s}, (Session.derive 0 name args).run c.session = (.error e, s) →
    s.memo.lookup ⟨0, name, args⟩ = none
  /-- A lazy reference is to a key, and what is found behind it then or later is what the key has. Only
  a name can mean a builtin instead. -/
  resolved : ∀ {reference}, c.Mentions 0 reference →
    ∃ name args, reference.target.key? = some ⟨0, name, args⟩ ∧
      ∀ {spec s}, (Session.resolve reference).run (c.pass 0 events).session = (.ok spec, s) →
        s.Serves ⟨0, name, args⟩ spec ∨
          ∃ r, (c.pass 0 events).session.registryAt? 0 = some r ∧ r.MeansItself reference.target spec
  /-- It does not if the name is registered when the reference is first looked behind. -/
  registered : ∀ {reference name args}, c.Mentions 0 reference →
    reference.target.key? = some ⟨0, name, args⟩ → c.session.isFilled reference.cell = false →
    (∃ r, c.session.registryAt? 0 = some r ∧ r.contains name = true) →
      ∀ {spec s}, (Session.resolve reference).run (c.pass 0 events).session = (.ok spec, s) →
        s.Serves ⟨0, name, args⟩ spec

/-- If specs are kept the memo lasts, in whatever order shapes are registered, specs are derived, values
are checked and handles are cloned before and afterwards. -/
theorem memo_lasts (name : String) {config : DeriveConfig} (hmemoize : config.memoize = true)
    {before after : List Event} (hbefore : ∀ handle, .drop handle ∉ before)
    (hafter : ∀ handle, .drop handle ∉ after) :
    ((Caller.of ⟨name, config, []⟩).pass 0 before).MemoLasts after := by
  have hnodup := (pass_memo 0 (Caller.of ⟨name, config, []⟩) before).2 List.nodup_nil
  obtain ⟨r, cells, _, _, hc⟩ := (Keyed.of ⟨name, config, []⟩ hmemoize).pass hbefore
  generalize (Caller.of ⟨name, config, []⟩).pass 0 before = c at hc hnodup ⊢
  obtain ⟨r', cells', hextends, hcells, hlater⟩ := hc.pass hafter
  obtain ⟨hentries, hkeys⟩ := pass_memo 0 c after
  refine ⟨hentries, hkeys hnodup, hentries.sublist.countP_le,
    fun hmem => ⟨r, hc.session.registry, hc.session.takes hmem⟩,
    fun hrun => hc.serves_derived hrun hafter,
    fun hrun => Session.derive_error hc.session.toSound hc.session.memoize hrun,
    fun {reference} hreference => ?_, fun {reference name args} hreference hkey hempty hname => ?_⟩
  · have hknows := hc.knows hreference
    obtain ⟨name, args, hkey⟩ := hknows.2.key?
    refine ⟨name, args, hkey, fun hrun => ?_⟩
    exact (hlater.session.serves_found (hknows.mono hcells) hkey hrun).imp_right fun hitself =>
      ⟨r', hlater.session.registry, hitself.2⟩
  · have hknows := hc.knows hreference
    obtain ⟨_, hr, hname⟩ := hname
    obtain rfl := Option.some.inj (hc.session.registry.symm.trans hr)
    have hempty : c.session.filled.lookup reference.cell = none :=
      Option.not_isSome_iff_eq_none.mp (ne_true_of_eq_false hempty)
    -- From here on the cell is late: what it comes to hold cannot be a builtin.
    have hawaits : c.Keyed 0 r (· = reference.cell) cells :=
      ⟨hc.session.await hknows.1 hkey hempty hname, hc.specs⟩
    obtain ⟨_, cells'', _, hcells', hlater⟩ := hawaits.pass hafter
    intro spec s hrun
    exact (hlater.session.serves_found (hknows.mono hcells') hkey hrun).resolve_right
      fun hitself => hitself.1 rfl

/-- A chain of nodes is derived, and a shape is registered that has one but cannot be derived. -/
def chained : List Event :=
  [.step (.register ⟨"Node", ["T"],
      [⟨"value", .placeholder "T"⟩, ⟨"next", .optional (.record "Node" [.placeholder "T"])⟩], []⟩),
    .step (.call (.derive "Node" [.leaf .int])),
    .step (.register
      ⟨"Broken", [], [⟨"node", .record "Node" []⟩, ⟨"gone", .record "Missing" []⟩], []⟩)]

/-- A chain is held against its spec, and the other shape is tried through another handle. -/
def revisited : List Event :=
  [.step (.call (.conform 0 (.object [("value", .int 1), ("next", .object [])]))),
    .clone "registry" "copy", .step (.call (.derive "Broken" []))]

/-- The derivation that fails keeps the node that it came to first. -/
theorem memo_lasts_chained :
    let c := (Caller.of ⟨"shapes", .default, []⟩).pass 0 chained
    DeriveConfig.default.memoize = true ∧ (∀ handle, Event.drop handle ∉ chained) ∧
      (∀ handle, Event.drop handle ∉ revisited) ∧ c.MemoLasts revisited ∧
      c.session.memoized 0 = 1 ∧ (c.pass 0 revisited).session.memoized 0 = 2 ∧
      (c.call 0 (.derive "Broken" [])).1 = .refused (.unknownShape "Missing") := by
  have hchained : ∀ handle, Event.drop handle ∉ chained := by simp [chained]
  have hrevisited : ∀ handle, Event.drop handle ∉ revisited := by simp [revisited]
  exact ⟨rfl, hchained, hrevisited, memo_lasts "shapes" rfl hchained hrevisited, by decide +kernel,
    by decide +kernel, by decide +kernel⟩

/-- A box of an integer is checked before a shape is registered and derived that is named as integers
are. -/
def overtaken : List Event :=
  [.step (.register ⟨"Box", [], [⟨"item", .forward "int" []⟩], []⟩),
    .step (.call (.derive "Box" [])),
    .step (.call (.conform 0 (.object [("item", .int 1)]))),
    .step (.register ⟨"int", [], [⟨"digits", .leaf .string⟩], []⟩),
    .step (.call (.derive "int" []))]

/-- The reference in the box goes on to mean integers, so it is not to the spec that is kept. -/
theorem overtaken_not_same :
    let c := (Caller.of ⟨"shapes", .default, []⟩).pass 0 overtaken
    let reference : Reference := ⟨0, "'int'", .forward 0 "int" []⟩
    let digits : Value := .object [("digits", .string "1")]
    c.Mentions 0 reference ∧ reference.target.key? = some ⟨0, "int", []⟩ ∧
      (∃ found kept, (Session.resolve reference).run c.session = (.ok found, c.session) ∧
        (Session.derive 0 "int" []).run c.session = (.ok kept, c.session) ∧
        found.sameInstance kept = false) ∧
      (c.call 0 (.conform 1 digits)).1 = .conformed (.valid digits) ∧
      (c.call 0 (.conform 0 (.object [("item", digits)]))).1 = .conformed .invalid := by
  intro c reference digits
  have hmentioned : reference ∈ c.specs.flatMap Spec.references := by decide +kernel
  obtain ⟨box, hbox, hreference⟩ := List.mem_flatMap.mp hmentioned
  have hcell : (c.session.filled.lookup 0).map Spec.id = some (.made 3) := by decide +kernel
  have hkey : (c.session.memo.lookup ⟨0, "int", []⟩).map Spec.id = some (.made 6) := by
    decide +kernel
  obtain ⟨found, hfound, hmade⟩ := Option.map_eq_some_iff.mp hcell
  obtain ⟨kept, hkept, hmade'⟩ := Option.map_eq_some_iff.mp hkey
  have hother : found.sameInstance kept = false := by
    rw [Spec.sameInstance, hmade, hmade']
    rfl
  have hresolve : (Session.resolve reference).run c.session = (.ok found, c.session) := by
    rw [Session.run_resolve, hfound]
  have hderive : (Session.derive 0 "int" []).run c.session = (.ok kept, c.session) := by
    have hevents : ∀ handle, Event.drop handle ∉ overtaken := by simp [overtaken]
    obtain ⟨r, _, _, _, hc⟩ := (Keyed.of ⟨"shapes", .default, []⟩ rfl).pass hevents
    exact Session.derive_again hc.session.registry hc.session.alive hc.session.memoize hkept
  exact ⟨⟨box, hreference, .inl hbox⟩, rfl, ⟨found, kept, hresolve, hderive, hother⟩,
    by decide +kernel, by decide +kernel⟩

end Caller

end Conform
