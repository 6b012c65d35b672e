import Conform.Proofs.Check.Describe
/-!
How a lazy reference settles. As long as looking behind it fails, every use of it looks again, and
answers with the failure. The first spec that is found is kept, and from then on every use is a use of
that spec, whatever would be found by then.
-/

namespace Conform

/-! ## What cells hold -/

namespace Session

/-- All that was found for a cell, the first find first. -/
def held (s : Session) (cell : Nat) : List Spec :=
  (s.filled.filter (·.1 = cell)).map (·.2)

theorem lookup_filled (s : Session) (cell : Nat) : s.filled.lookup cell = (s.held cell).head? := by
  unfold held
  induction s.filled with
  | nil => rfl
  | cons entry entries ih =>
    rw [List.lookup_cons]
    by_cases h : entry.1 = cell
    · simp [h]
    · simp [h, ih, beq_eq_false_iff_ne.mpr (Ne.symm h)]

theorem held_concat (s : Session) (cell cell' : Nat) (spec : Spec) :
    held { s with filled := s.filled ++ [(cell', spec)] } cell =
      s.held cell ++ if cell' = cell then [spec] else [] := by
  unfold held
  simp only [List.filter_append, List.map_append]
  by_cases h : cell' = cell <;> simp [h]

theorem held_of_filled {s t : Session} (h : t.filled = s.filled) (cell : Nat) :
    t.held cell = s.held cell := by
  unfold held
  rw [h]

/-- A cell that holds something is not filled again. -/
theorem Advances.held_eq {s t : Session} (h : s.Advances t) {cell : Nat} (hcell : s.held cell ≠ []) :
    t.held cell = s.held cell := by
  induction h with
  | refl => rfl
  | @tail m _ _ hadvance ih =>
    cases hadvance with
    | change hchange => rw [held_of_filled (Changes.filled_eq (.single hchange)), ih]
    | @fill cell' spec hempty =>
      have hother : cell' ≠ cell := by
        rintro rfl
        rw [lookup_filled] at hempty
        exact hcell (ih ▸ List.head?_eq_none_iff.mp hempty)
      rw [held_concat, if_neg hother, List.append_nil, ih]

end Session

/-! ## Calls of a handle -/

/-- What the handle of a lazy reference is called for. -/
inductive Use where
  | resolve
  | conform (v : Value)
  | explain (path : Path) (v : Value)
  | describe

inductive Told where
  | resolved (found : Except SpecError Spec)
  | conformed (c : Conformed)
  | explained (problems : List Problem)
  | described (text : String)

/-- Walks that look behind references as `look` does; behind those further in they look as ever. -/
def Delegate.looking (look : Build Spec) (n : Nat) : Delegate :=
  { within (n + 1) with resolve := fun reference s => some ((Session.settle reference.cell look).run s) }

namespace Use

/-- The use of a handle. -/
def made (d : Delegate) (i : Instance) (reference : Reference) : Use → Check Told
  | resolve => do return .resolved (← d.resolve reference)
  | conform v => do return .conformed (← Spec.conformWith d (.deferred i reference) v)
  | explain path v => do return .explained (← Spec.explainWith d (.deferred i reference) path v)
  | describe => do return .described (← Spec.describeWith d (.deferred i reference))

/-- The same use of a spec. -/
def of (n : Nat) (spec : Spec) : Use → Check Told
  | resolve => return .resolved (.ok spec)
  | conform v => do return .conformed (← spec.conformWith (.within n) v)
  | explain path v => do return .explained (← spec.explainWith (.within n) path v)
  | describe => do return .described (← spec.describeWith (.within n))

/-- What a use is told if there is nothing behind the reference. -/
def refused (i : Instance) (reference : Reference) (e : SpecError) : Use → Told
  | resolve => .resolved (.error e)
  | conform _ => .conformed .invalid
  | explain path v =>
    .explained [⟨path, v, .deferred i reference, "unresolved reference: " ++ e.message⟩]
  | describe => .described ("unresolved reference to " ++ reference.label)

variable {look : Build Spec} {n : Nat} {i : Instance} {reference : Reference}

/-- Handles are used in this way when they look for their targets. -/
theorem made_within (use : Use) :
    use.made (.within (n + 1)) i reference =
      use.made (.looking (Session.find reference.target) n) i reference := by
  cases use with
  | resolve => rfl
  | conform v =>
    unfold made Spec.conformWith
    rfl
  | explain path v =>
    unfold made Spec.explainWith
    rfl
  | describe =>
    unfold made Spec.describeWith
    rfl

/-- A use of the handle is the same use of what is found, or is refused. -/
theorem made_looking (use : Use) (s : Session) :
    use.made (.looking look n) i reference s =
      match (Session.settle reference.cell look).run s with
      | (.ok spec, t) => use.of n spec t
      | (.error e, t) => some (use.refused i reference e, t) := by
  have hlooks : ∀ s, (Delegate.looking look n).resolve reference s =
      some ((Session.settle reference.cell look).run s) := fun _ => rfl
  cases use with
  | resolve =>
    simp only [made, Check.bind_apply, hlooks]
    rcases (Session.settle reference.cell look).run s with ⟨e | spec, t⟩ <;> rfl
  | conform v =>
    simp only [made, Check.bind_apply, Spec.conformWith_looks hlooks]
    rcases (Session.settle reference.cell look).run s with ⟨e | spec, t⟩ <;> rfl
  | explain path v =>
    simp only [made, Check.bind_apply, Spec.explainWith_looks hlooks]
    rcases (Session.settle reference.cell look).run s with ⟨e | spec, t⟩ <;> rfl
  | describe =>
    simp only [made, Check.bind_apply, Spec.describeWith_looks hlooks]
    rcases (Session.settle reference.cell look).run s with ⟨e | spec, t⟩ <;> rfl

theorem advances_of (use : Use) {spec : Spec} {s t : Session} {told : Told}
    (h : use.of n spec s = some (told, t)) : s.Advances t := by
  have hwithin := Spec.advancing_within n spec
  cases use with
  | resolve =>
    cases h
    exact .refl
  | conform v =>
    exact Check.compositional_advancing.bind (hwithin v).conform
      (fun c => Check.compositional_advancing.pure (Told.conformed c)) s told t h
  | explain path v =>
    exact Check.compositional_advancing.bind ((hwithin v).explain path)
      (fun problems => Check.compositional_advancing.pure (Told.explained problems)) s told t h
  | describe =>
    exact Check.compositional_advancing.bind (Spec.describe_advancing n spec)
      (fun text => Check.compositional_advancing.pure (Told.described text)) s told t h

end Use

/-! ## Runs -/

/-- Whatever it does, it leaves the cell as it is. A look that came back to the cell that it is for would
wait for itself and never end. -/
def Build.Spares (cell : Nat) (look : Build Spec) : Prop :=
  ∀ s : Session, (look.run s).2.held cell = s.held cell

/-- A look for a target fills no cell. -/
theorem Build.spares_find (cell : Nat) (target : Target) : (Session.find target).Spares cell :=
  fun s => Session.held_of_filled (Session.find_changes target s).filled_eq cell

/-- One use of a handle: what it was called for, what looking behind the reference would do then, how
many levels of references the walk could go through, and how it went. -/
structure Episode where
  use : Use
  look : Build Spec
  levels : Nat
  start : Session
  told : Told
  finish : Session

section
variable (i : Instance) (reference : Reference)

/-- Uses of a handle in turn. Between them anything may happen to the session, but not to the cell of
the reference. -/
inductive Uses : Session → List Episode → Session → Prop
  | done (s : Session) : Uses s [] s
  | use {s t : Session} {e : Episode} {es : List Episode} :
    e.start.held reference.cell = s.held reference.cell →
    e.use.made (.looking e.look e.levels) i reference e.start = some (e.told, e.finish) →
      Uses e.finish es t → Uses s (e :: es) t

namespace Episode

/-- The use looked behind the reference, did nothing else, and was told that this failed. -/
def Fails (e : Episode) : Prop :=
  ∃ error, e.look.run e.start = (.error error, e.finish) ∧
    e.told = e.use.refused i reference error

/-- The use looked behind the reference and kept the spec that was found, and then used that. -/
def Finds (e : Episode) (spec : Spec) : Prop :=
  ∃ t : Session, e.look.run e.start = (.ok spec, t) ∧
    e.use.of e.levels spec { t with filled := t.filled ++ [(reference.cell, spec)] } =
      some (e.told, e.finish)

/-- The use was a use of the spec. It did not look behind the reference: whatever a look would have
done, the use would have gone alike. -/
def Shares (e : Episode) (spec : Spec) : Prop :=
  e.use.of e.levels spec e.start = some (e.told, e.finish) ∧
    ∀ look, e.use.made (.looking look e.levels) i reference e.start = some (e.told, e.finish)

end Episode

/-- How uses in turn can have gone: all failed and the cell is still empty, or the first that did not
fail found what the later ones share. -/
inductive Phases : List Episode → Session → Prop
  | unsettled {es : List Episode} {t : Session} : (∀ e ∈ es, e.Fails i reference) →
    t.held reference.cell = [] → Phases es t
  | settled {failing rest : List Episode} {first : Episode} {spec : Spec} {t : Session} :
    (∀ e ∈ failing, e.Fails i reference) → first.Finds reference spec →
    (∀ e ∈ rest, e.Shares i reference spec) → t.held reference.cell = [spec] →
      Phases (failing ++ first :: rest) t

end

namespace Uses

variable {i : Instance} {reference : Reference} {s t : Session} {e : Episode} {es : List Episode}
  {spec : Spec}

theorem made_empty (hempty : s.held reference.cell = []) (use : Use) (look : Build Spec) (n : Nat) :
    use.made (.looking look n) i reference s =
      match look.run s with
      | (.ok spec, t) => use.of n spec { t with filled := t.filled ++ [(reference.cell, spec)] }
      | (.error e, t) => some (use.refused i reference e, t) := by
  have hnone : s.filled.lookup reference.cell = none := by
    rw [Session.lookup_filled, hempty]
    rfl
  rw [Use.made_looking, Session.run_settle, hnone]
  rcases look.run s with ⟨e | spec, t⟩ <;> rfl

theorem made_held (hheld : s.held reference.cell = [spec]) (use : Use) (look : Build Spec) (n : Nat) :
    use.made (.looking look n) i reference s = use.of n spec s := by
  have hsome : s.filled.lookup reference.cell = some spec := by
    rw [Session.lookup_filled, hheld]
    rfl
  rw [Use.made_looking, Session.run_settle, hsome]

/-- Once the cell holds a spec, every use is a use of that spec. -/
theorem shares (h : Uses i reference s es t) (hheld : s.held reference.cell = [spec]) :
    (∀ e ∈ es, e.Shares i reference spec) ∧ t.held reference.cell = [spec] := by
  induction h with
  | done s => exact ⟨fun _ he => absurd he List.not_mem_nil, hheld⟩
  | @use s t e es hstart hmade _ ih =>
    rw [hheld] at hstart
    have hall := fun look => made_held hstart (i := i) e.use look e.levels
    have huse : e.use.of e.levels spec e.start = some (e.told, e.finish) :=
      (hall e.look).symm.trans hmade
    have hfinish : e.finish.held reference.cell = [spec] := by
      rw [(e.use.advances_of huse).held_eq (hstart ▸ List.cons_ne_nil _ _), hstart]
    obtain ⟨hshares, hlast⟩ := ih hfinish
    exact ⟨List.forall_mem_cons.mpr ⟨⟨huse, fun look => (hall look).trans huse⟩, hshares⟩, hlast⟩

/-- A use while the cell is empty fails and leaves it empty, or finds the spec that it holds from then
on. -/
theorem step (hempty : e.start.held reference.cell = []) (hlook : e.look.Spares reference.cell)
    (hmade : e.use.made (.looking e.look e.levels) i reference e.start = some (e.told, e.finish)) :
    (e.Fails i reference ∧ e.finish.held reference.cell = []) ∨
      ∃ spec, e.Finds reference spec ∧ e.finish.held reference.cell = [spec] := by
  have hspares := hlook e.start
  rw [made_empty hempty] at hmade
  rcases hrun : e.look.run e.start with ⟨error | spec, m⟩
  · rw [hrun] at hmade hspares
    obtain ⟨htold, rfl⟩ := Prod.mk.inj (Option.some.inj hmade)
    exact .inl ⟨⟨error, hrun, htold.symm⟩, hspares.trans hempty⟩
  · rw [hrun] at hmade hspares
    have hheld : Session.held { m with filled := m.filled ++ [(reference.cell, spec)] }
        reference.cell = [spec] := by
      rw [Session.held_concat, hspares.trans hempty, if_pos rfl]
      rfl
    refine .inr ⟨spec, ⟨m, hrun, hmade⟩, ?_⟩
    rw [(e.use.advances_of hmade).held_eq (hheld ▸ List.cons_ne_nil _ _), hheld]

theorem phases (h : Uses i reference s es t) (hempty : s.held reference.cell = [])
    (hlook : ∀ e ∈ es, e.look.Spares reference.cell) : Phases i reference es t := by
  induction h with
  | done s => exact .unsettled (fun _ he => absurd he List.not_mem_nil) hempty
  | @use s t e es hstart hmade huses ih =>
    obtain ⟨hspares, hlook⟩ := List.forall_mem_cons.mp hlook
    rcases step (hstart.trans hempty) hspares hmade with ⟨hfails, hfinish⟩ | ⟨spec, hfinds, hfinish⟩
    · cases ih hfinish hlook with
      | unsettled hall hlast => exact .unsettled (List.forall_mem_cons.mpr ⟨hfails, hall⟩) hlast
      | @settled failing rest first spec _ hfailing hfinds hshares hlast =>
        exact .settled (List.forall_mem_cons.mpr ⟨hfails, hfailing⟩) hfinds
          hshares hlast
    · obtain ⟨hshares, hlast⟩ := huses.shares hfinish
      exact .settled (fun _ he => absurd he List.not_mem_nil) hfinds hshares hlast

/-- A lazy reference settles on the first spec that is found behind it, whatever a look behind it does
each time. Until then every use looks once and is told what went wrong; from then on no use looks, and
each is a use of that spec. While looks fail a use always has an answer, and handles are used like this
whenever they look for their targets. -/
theorem settles (h : Uses i reference s es t) (hempty : s.held reference.cell = [])
    (hlook : ∀ e ∈ es, e.look.Spares reference.cell) :
    Phases i reference es t ∧
    (∀ (use : Use) (look : Build Spec) (n : Nat) (error : SpecError) (u v : Session),
      u.held reference.cell = [] → look.run u = (.error error, v) →
        use.made (.looking look n) i reference u = some (use.refused i reference error, v)) ∧
    (Session.find reference.target).Spares reference.cell ∧
    ∀ (use : Use) (n : Nat), use.made (.within (n + 1)) i reference =
      use.made (.looking (Session.find reference.target) n) i reference := by
  refine ⟨h.phases hempty hlook, fun use look n error u v hu hrun => ?_,
    Build.spares_find _ _, fun use n => use.made_within⟩
  rw [made_empty hu, hrun]

/-- A reference to a name that means nothing at first, then the spec of integers, then nothing again. -/
def wavering : Reference := ⟨0, "Node", .bound "Node"⟩

theorem settles_wavering :
    let s := Session.empty
    let spec := Spec.isInstance (.made 1) .int
    let t := { s with filled := [(0, spec)] }
    let explained := Told.explained [⟨.root, .null, .deferred (.made 0) wavering,
      "unresolved reference: unknown record shape 'Node'"⟩]
    let es := [
      ⟨.explain .root .null, throw (.unknownShape "Node"), 0, s, explained, s⟩,
      ⟨.conform .null, pure spec, 0, s, .conformed .invalid, t⟩,
      ⟨.conform (.int 1), throw .registryDropped, 0, t, .conformed (.valid (.int 1)), t⟩]
    Uses (.made 0) wavering s es t ∧ s.held wavering.cell = [] ∧
      (∀ e ∈ es, e.look.Spares wavering.cell) ∧ Phases (.made 0) wavering es t := by
  intro s spec t explained es
  have huses : Uses (.made 0) wavering s es t :=
    .use rfl rfl (.use rfl rfl (.use rfl rfl (.done t)))
  have hlook : ∀ e ∈ es, e.look.Spares wavering.cell := by
    simp only [es, List.forall_mem_cons]
    exact ⟨fun _ => rfl, fun _ => rfl, fun _ => rfl, fun _ he => absurd he List.not_mem_nil⟩
  exact ⟨huses, rfl, hlook, (settles huses rfl hlook).1⟩

end Uses

end Conform
