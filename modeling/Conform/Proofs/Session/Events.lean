import Conform.Proofs.Session.Intact
import Conform.Proofs.Session.Trials
/-!
What happens between two checks. Shapes are registered, calls are made, and handles of the registry
are cloned and dropped, the last one too. What was derived before goes on to stand for its kind, and
no cell that is filled is lost. A registry that is dropped only answers no look any more.
-/

namespace Conform

open Session (Intact)

/-! ## Events -/

inductive Event where
  | step (x : Step)
  /-- A handle is cloned, if there is one of that name, and the clone is known by another name. -/
  | clone (handle copy : String)
  | drop (handle : String)

namespace Caller

def event (id : Nat) (c : Caller) : Event → Caller
  | .step x => c.step id x
  | .clone handle copy =>
    match c.session.handle? handle with
    | some registry => ⟨c.session.bindHandle copy registry, c.specs⟩
    | none => c
  | .drop handle => ⟨c.session.dropHandle handle, c.specs⟩

def pass (id : Nat) (c : Caller) (events : List Event) : Caller := events.foldl (event id) c

/-- The caller's specs stand for the kinds, and the session is intact. -/
def Intact (id : Nat) (r : Registry) (kinds : List Kind) (c : Caller) : Prop :=
  ∃ cells, Session.Intact id r cells c.session ∧ StandAll id r (fun _ => True) cells kinds c.specs

namespace Intact

variable {id : Nat} {r : Registry} {kinds : List Kind} {c : Caller}

theorem of (r : Registry) : (Caller.of r).Intact 0 r [] :=
  ⟨[], (Session.sound_holding r _).intact, .nil⟩

theorem registry (h : c.Intact id r kinds) : c.session.registryAt? id = some r := by
  obtain ⟨_, hintact, _⟩ := h
  exact hintact.registry

theorem of_sound (h : c.Sound id r (fun _ => True) kinds) : c.Intact id r kinds := by
  obtain ⟨cells, hsound, hspecs⟩ := h
  exact ⟨cells, hsound.intact, hspecs⟩

theorem sound (h : c.Intact id r kinds) (halive : c.session.isAlive id = true) :
    c.Sound id r (fun _ => True) kinds := by
  obtain ⟨cells, hintact, hspecs⟩ := h
  exact ⟨cells, hintact.sound halive, hspecs⟩

/-- A check of one of the caller's specs has an answer. -/
theorem check {α : Type} {x : Check α} (h : c.Intact id r kinds) {i : Nat} {spec : Spec}
    (hspec : c.specs[i]? = some spec)
    (hx : ∀ {k cells}, Stands id r (fun _ => True) cells k spec → Answering id r cells x x) :
    ∃ a s, x c.session = some (a, s) ∧ Caller.Intact id r kinds ⟨s, c.specs⟩ := by
  obtain ⟨cells, hintact, hspecs⟩ := h
  obtain ⟨k, hstands⟩ := hspecs.of_spec hspec
  obtain ⟨a, s, hrun, _, more, hmore, hs⟩ :=
    hx hstands c.session ⟨cells, List.prefix_refl _, hintact⟩
  exact ⟨a, s, hrun, more, hs, hspecs.mono (.refl r) hmore⟩

/-- The call that asks for the spec of a kind is answered as the attempt goes, unless the registry was
dropped. -/
theorem specFor (h : c.Intact id r kinds) (k : Kind) :
    (∃ c', c.call id (.specFor k) = (.made, c') ∧ c'.Intact id r (kinds ++ [k])) ∨
    ∃ e c', c.call id (.specFor k) = (.refused e, c') ∧ c'.Intact id r kinds ∧
      (e = .registryDropped ∨
        (Registry.attemptAll (r.start r.config.memoize) k.records (c.session.kept id)).1 =
          .error e) := by
  cases halive : c.session.isAlive id with
  | true =>
    rcases (h.sound halive).specFor (k := k) fun _ _ => trivial with
      ⟨_, c', hcall, hc'⟩ | ⟨e, he, c', hcall, hc'⟩
    · exact .inl ⟨c', hcall, .of_sound hc'⟩
    · exact .inr ⟨e, c', hcall, .of_sound hc', .inr he⟩
  | false =>
    refine .inr ⟨.registryDropped, c, ?_, h, .inl rfl⟩
    rw [call_specFor, Session.run_specFor_dropped halive]
    rfl

/-- Every call leaves an intact caller intact; it may have one spec more. -/
theorem call (h : c.Intact id r kinds) (x : Call) :
    ∃ more, (c.call id x).2.Intact id r (kinds ++ more) := by
  have hsame : ∀ {c' : Caller}, c'.Intact id r kinds → ∃ more, c'.Intact id r (kinds ++ more) :=
    fun h' => ⟨[], by rwa [List.append_nil]⟩
  refine call_leaves (R := fun c' => ∃ more, c'.Intact id r (kinds ++ more)) (hsame h)
    (fun k => ?_) (fun hspec hrun => ?_) (fun hspec hrun => ?_) x
  · rcases h.specFor k with ⟨c', hcall, hc'⟩ | ⟨e, c', hcall, hc', _⟩
    · rw [hcall]
      exact ⟨[k], hc'⟩
    · rw [hcall]
      exact hsame hc'
  · obtain ⟨_, _, hrun', hs⟩ := h.check hspec fun hstands =>
      (hstands.answering (Check.depth_lt_reach _ c.session)).conform
    cases hrun.symm.trans hrun'
    exact hsame hs
  · obtain ⟨_, _, hrun', hs⟩ := h.check hspec fun hstands =>
      (hstands.answering (Check.depth_lt_reach _ c.session)).explain _
    cases hrun.symm.trans hrun'
    exact hsame hs

theorem register (h : c.Intact id r kinds) (shape : Shape) :
    ∃ r', r.Extends r' ∧ (c.register id shape).Intact id r' kinds := by
  obtain ⟨cells, hintact, hspecs⟩ := h
  unfold Caller.register
  cases hregister : c.session.register id shape with
  | error e => exact ⟨r, .refl r, cells, hintact, hspecs⟩
  | ok s =>
    obtain ⟨r', hextends, hs⟩ := hintact.register hregister
    exact ⟨r', hextends, cells, hs, hspecs.mono hextends (List.prefix_refl _)⟩

theorem handled (h : c.Intact id r kinds) (handles : List (String × Nat)) :
    Caller.Intact id r kinds ⟨{ c.session with handles := handles }, c.specs⟩ := by
  obtain ⟨cells, hintact, hspecs⟩ := h
  exact ⟨cells, hintact.handled handles, hspecs⟩

/-- As long as nothing is registered the registry stays what it is. -/
theorem event_unregistered (h : c.Intact id r kinds) {e : Event}
    (he : ∀ shape, e ≠ .step (.register shape)) : ∃ more, (c.event id e).Intact id r (kinds ++ more) := by
  have hsame : ∀ {c' : Caller}, c'.Intact id r kinds → ∃ more, c'.Intact id r (kinds ++ more) :=
    fun h' => ⟨[], by rwa [List.append_nil]⟩
  cases e with
  | step x =>
    cases x with
    | register shape => exact absurd rfl (he shape)
    | call x => exact h.call x
  | clone handle copy =>
    cases hhandle : c.session.handle? handle with
    | none =>
      simp only [Caller.event, hhandle]
      exact hsame h
    | some registry =>
      simp only [Caller.event, hhandle]
      exact hsame (h.handled _)
  | drop handle => exact hsame (h.handled _)

theorem event (h : c.Intact id r kinds) (e : Event) :
    ∃ r' more, r.Extends r' ∧ (c.event id e).Intact id r' (kinds ++ more) := by
  by_cases he : ∃ shape, e = .step (.register shape)
  · obtain ⟨shape, rfl⟩ := he
    obtain ⟨r', hextends, hs⟩ := h.register shape
    exact ⟨r', [], hextends, by rwa [List.append_nil]⟩
  · obtain ⟨more, hs⟩ := h.event_unregistered fun shape heq => he ⟨shape, heq⟩
    exact ⟨r, more, .refl r, hs⟩

theorem pass_unregistered (h : c.Intact id r kinds) {events : List Event}
    (hevents : ∀ shape, .step (.register shape) ∉ events) :
    ∃ more, (c.pass id events).Intact id r (kinds ++ more) := by
  induction events generalizing c kinds with
  | nil => exact ⟨[], by rwa [List.append_nil]⟩
  | cons e events ih =>
    obtain ⟨more, hevent⟩ := h.event_unregistered fun shape heq =>
      hevents shape (heq ▸ List.mem_cons_self)
    obtain ⟨more', hpass⟩ := ih hevent fun shape hmem => hevents shape (List.mem_cons_of_mem e hmem)
    exact ⟨more ++ more', by rw [← List.append_assoc]; exact hpass⟩

theorem pass (h : c.Intact id r kinds) (events : List Event) :
    ∃ r' more, r.Extends r' ∧ (c.pass id events).Intact id r' (kinds ++ more) := by
  induction events generalizing c r kinds with
  | nil => exact ⟨r, [], .refl r, by rwa [List.append_nil]⟩
  | cons e events ih =>
    obtain ⟨r', more, hextends, hevent⟩ := h.event e
    obtain ⟨r'', more', hextends', hpass⟩ := ih hevent
    exact ⟨r'', more ++ more', hextends.trans hextends', by rw [← List.append_assoc]; exact hpass⟩

end Intact

/-! ## What callers never lose -/

/-- A call changes the session as a check does. -/
theorem call_advances (id : Nat) (c : Caller) (x : Call) :
    c.session.Advances (c.call id x).2.session := by
  refine call_leaves (R := fun c' => c.session.Advances c'.session) .refl (fun k => ?_)
    (fun _ hrun => Check.conform_advances hrun) (fun _ hrun => Check.explain_advances hrun) x
  rw [call_specFor, keep_session]
  exact (Session.specFor_changes id k c.session).advances

/-- The caller has all that it had before, specs and cells. -/
structure Retains (c' c : Caller) : Prop where
  session : c'.session.Retains c.session
  specs : c.specs <+: c'.specs

namespace Retains

variable {c c' c'' : Caller} {id : Nat}

theorem refl (c : Caller) : c.Retains c := ⟨.refl _, List.prefix_refl _⟩

theorem trans (h : c'.Retains c) (h' : c''.Retains c') : c''.Retains c :=
  ⟨h.session.trans h'.session, h.specs.trans h'.specs⟩

theorem getElem? (h : c'.Retains c) {i : Nat} {spec : Spec} (hspec : c.specs[i]? = some spec) :
    c'.specs[i]? = some spec := by
  obtain ⟨hlt, rfl⟩ := List.getElem?_eq_some_iff.mp hspec
  exact List.prefix_iff_getElem?.mp h.specs i hlt

theorem of_call (c : Caller) (x : Call) : (c.call id x).2.Retains c := by
  refine ⟨(call_advances id c x).retains, ?_⟩
  refine call_leaves (R := fun c' => c.specs <+: c'.specs) (List.prefix_refl _) (fun k => ?_)
    (fun _ _ => List.prefix_refl _) (fun _ _ => List.prefix_refl _) x
  rw [call_specFor]
  rcases (Session.specFor id k).run c.session with ⟨e | spec, s⟩
  · exact List.prefix_refl _
  · exact List.prefix_append _ _

theorem of_run (c : Caller) (calls : List Call) : (c.run id calls).2.Retains c := by
  induction calls generalizing c with
  | nil => exact .refl c
  | cons x calls ih => exact (of_call c x).trans (ih _)

theorem of_register (c : Caller) (shape : Shape) : (c.register id shape).Retains c := by
  unfold Caller.register
  cases hregister : c.session.register id shape with
  | error e => exact .refl c
  | ok s =>
    obtain ⟨_, _, _, _, rfl⟩ := Session.register_ok hregister
    exact ⟨⟨fun h => h, Nat.le_refl _⟩, List.prefix_refl _⟩

theorem of_event (c : Caller) (e : Event) : (c.event id e).Retains c := by
  cases e with
  | step x =>
    cases x with
    | register shape => exact of_register c shape
    | call x => exact of_call c x
  | clone handle copy =>
    cases hhandle : c.session.handle? handle with
    | none =>
      simp only [Caller.event, hhandle]
      exact .refl c
    | some registry =>
      simp only [Caller.event, hhandle]
      exact ⟨⟨fun h => h, Nat.le_refl _⟩, List.prefix_refl _⟩
  | drop handle => exact ⟨⟨fun h => h, Nat.le_refl _⟩, List.prefix_refl _⟩

theorem of_pass (c : Caller) (events : List Event) : (c.pass id events).Retains c := by
  induction events generalizing c with
  | nil => exact .refl c
  | cons e events ih => exact (of_event c e).trans (ih _)

end Retains

end Caller

/-! ## Histories -/

/-- The spec of a kind, asked for somewhere in a history of events, and what happens after that. -/
structure History where
  name : String
  config : DeriveConfig
  before : List Event
  kind : Kind
  after : List Event

namespace History

section
variable (t : History)

def opening : Caller := (Caller.of ⟨t.name, t.config, []⟩).pass 0 t.before

def derived : Answer × Caller := t.opening.call 0 (.specFor t.kind)

def caller : Caller := t.derived.2.pass 0 t.after

end

variable {t : History}

theorem exists_spec (hmade : t.derived.1 = .made) :
    ∃ spec, t.caller.specs[t.opening.specs.length]? = some spec := by
  have hspec : ∃ spec, t.derived.2.specs[t.opening.specs.length]? = some spec := by
    unfold derived at hmade ⊢
    rw [Caller.call_specFor] at hmade ⊢
    rcases hrun : (Session.specFor 0 t.kind).run t.opening.session with ⟨e | spec, s⟩
    · rw [hrun] at hmade
      cases hmade
    · exact ⟨spec, List.getElem?_concat_length⟩
  obtain ⟨spec, hspec⟩ := hspec
  exact ⟨spec, (Caller.Retains.of_pass t.derived.2 t.after).getElem? hspec⟩

theorem intact_opening (t : History) : ∃ r kinds, t.opening.Intact 0 r kinds := by
  obtain ⟨r, kinds, _, hopening⟩ := (Caller.Intact.of ⟨t.name, t.config, []⟩).pass t.before
  exact ⟨r, _, hopening⟩

theorem intact_caller (t : History) : ∃ r kinds, t.caller.Intact 0 r kinds := by
  obtain ⟨r, kinds, hopening⟩ := t.intact_opening
  obtain ⟨more, hderived⟩ := hopening.call (.specFor t.kind)
  obtain ⟨r', more', _, hcaller⟩ := hderived.pass t.after
  exact ⟨r', _, hcaller⟩

/-- Whatever happened since, the spec that was made goes on to stand for its kind. -/
theorem intact_made (hmade : t.derived.1 = .made) :
    ∃ r kinds, r.config = t.config ∧ t.caller.Intact 0 r kinds ∧
      kinds[t.opening.specs.length]? = some t.kind := by
  obtain ⟨r, kinds, hextends, cells₀, hintact₀, hspecs₀⟩ :=
    (Caller.Intact.of ⟨t.name, t.config, []⟩).pass t.before
  rcases Caller.Intact.specFor ⟨cells₀, hintact₀, hspecs₀⟩ t.kind with
    ⟨c, hcall, hderived⟩ | ⟨e, c, hcall, _⟩
  · obtain ⟨r', more, hextends', hcaller⟩ := hderived.pass t.after
    have hpass : t.caller = c.pass 0 t.after :=
      congrArg (fun p : Answer × Caller => p.2.pass 0 t.after) hcall
    rw [hpass]
    exact ⟨r', _, (hextends.trans hextends').config, hcaller, hspecs₀.kind_of_next t.kind more⟩
  · have hrefused : t.derived.1 = .refused e := congrArg Prod.fst hcall
    cases hrefused.symm.trans hmade

/-- If nothing was registered since, the spec stands for its kind in the registry it was made in. -/
theorem stands (hmade : t.derived.1 = .made) {r : Registry}
    (hr : t.opening.session.registryAt? 0 = some r)
    (hafter : ∀ shape, .step (.register shape) ∉ t.after) :
    ∃ cells spec, t.caller.specs[t.opening.specs.length]? = some spec ∧
      Session.Intact 0 r cells t.caller.session ∧ Stands 0 r (fun _ => True) cells t.kind spec := by
  obtain ⟨r', kinds, cells₀, hintact₀, hspecs₀⟩ := t.intact_opening
  obtain rfl := Option.some.inj (hintact₀.registry.symm.trans hr)
  rcases Caller.Intact.specFor ⟨cells₀, hintact₀, hspecs₀⟩ t.kind with
    ⟨c, hcall, hderived⟩ | ⟨e, c, hcall, _⟩
  · obtain ⟨more, cells, hintact, hspecs⟩ := hderived.pass_unregistered hafter
    have hcaller : t.caller = c.pass 0 t.after :=
      congrArg (fun p : Answer × Caller => p.2.pass 0 t.after) hcall
    obtain ⟨spec, hspec, hstands⟩ := hspecs.of_kind (hspecs₀.kind_of_next t.kind more)
    rw [hcaller]
    exact ⟨cells, spec, hspec, hintact, hstands⟩
  · have hrefused : t.derived.1 = .refused e := congrArg Prod.fst hcall
    cases hrefused.symm.trans hmade

end History

end Conform
