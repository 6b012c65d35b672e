import Conform.Proofs.Session.Follows
/-!
Looking behind lazy references. A reference whose cell is filled answers what is in the cell; any
other is looked for by a derivation of its own, below no other shape.
-/

namespace Conform

def Target.IsOf (id : Nat) : Target → Prop
  | shape registry _ _ | forward registry _ _ => registry = id
  | bound _ => False

namespace Registry

/-- Looking for what is behind a lazy reference. -/
def seek (r : Registry) (memoize : Bool) : Target → List Applied → Outcome
  | .shape _ name args => r.start memoize (name, args)
  | .forward _ name args =>
    if r.contains name then r.start memoize (name, args)
    else fun done =>
      if (r.builtin? name args).isSome then (.ok (), done) else (.error (r.unresolved name), done)
  | .bound name => fun done => (.error (.unknownShape name), done)

end Registry

namespace Session

section
variable {id : Nat} {r : Registry} {Q : Target → Prop} {base : List Target}

/-! ## Derivations below no other shape -/

theorem run_liveRegistry {s : Session} (hr : s.registryAt? id = some r)
    (halive : s.isAlive id = true) : (liveRegistry id).run s = (.ok r, s) := by
  unfold liveRegistry
  rw [Build.run_bind, Build.run_get]
  simp only [hr, halive, if_true]
  rfl

theorem live_follows {α : Type} {x : Registry → Build α} {f : List Applied → Registry.Outcome}
    {R : List Target → α → Prop} (hx : Follows id r Q base (x r) f R) :
    Follows id r Q base (liveRegistry id >>= x) f R := by
  intro s cells done hbase hsound htallies hQ
  rw [Build.run_bind, run_liveRegistry hsound.registry hsound.alive]
  exact hx s cells done hbase hsound htallies hQ

theorem derive_follows (name : String) (args : List Kind) (base : List Target) :
    Follows id r Q base (derive id name args) (r.start r.config.memoize (name, args))
      fun cells s => StandsRecord id r Q cells (name, args) s := by
  refine live_follows ((deriveShape_follows r.shapes.length [] name args base).imp ?_)
  rintro cells s (h | ⟨hstack | ⟨hsteps, shape, happlied⟩, _⟩)
  · exact h
  · cases hstack
  · exact absurd hsteps (Registry.shapes_ne_nil happlied)

theorem specFor_follows (k : Kind) (base : List Target) :
    Follows id r Q base (specFor id k)
      (Registry.attemptAll (r.start r.config.memoize) k.records)
      fun cells s => Stands id r Q cells k s :=
  live_follows (deriveKind_follows Registry.attempt_subset
    (fun name args base =>
      (deriveShape_follows r.shapes.length [] name args base).imp fun _ _ h => h.stands) k base)

/-! ## References -/

theorem find_follows (hbuiltin : ∀ name args, r.contains name = false → Q (.forward id name args))
    {target : Target} (htarget : target.IsOf id) (base : List Target) :
    Follows id r Q base (find target) (r.seek r.config.memoize target)
      fun cells s => Answers id r Q cells target s := by
  cases target with
  | bound name => exact htarget.elim
  | shape registry name args =>
    obtain rfl : registry = id := htarget
    exact (derive_follows name args base).imp fun _ _ h => .shape h
  | forward registry name args =>
    obtain rfl : registry = id := htarget
    unfold Registry.seek
    refine live_follows ?_
    cases hname : r.contains name with
    | true =>
      simp only [hname, if_true]
      exact (derive_follows name args base).imp fun cells s h => Answers.forward hname h
    | false =>
      simp only [hname, Bool.false_eq_true, if_false]
      cases hkind : r.builtin? name args with
      | some kind =>
        simp only [Option.isSome_some, if_true]
        refine (newInstance_follows base).bind_skip fun i base _ _ => ?_
        exact Follows.pure fun _ _ => .builtin i (hbuiltin name args hname) hkind
      | none =>
        simp only [Option.isSome_none, Bool.false_eq_true, if_false]
        exact throw_follows _

/-- What a cell holds, or what `look` finds if it holds nothing. Once found it is kept in the cell; a
failure is not. -/
def settle (cell : Nat) (look : Build Spec) : Build Spec := do
  match (← get).filled.lookup cell with
  | some spec => return spec
  | none =>
    let spec ← look
    modify fun s => { s with filled := s.filled ++ [(cell, spec)] }
    return spec

theorem run_settle (cell : Nat) (look : Build Spec) (s : Session) :
    (settle cell look).run s =
      match s.filled.lookup cell with
      | some spec => (.ok spec, s)
      | none =>
        match look.run s with
        | (.ok spec, t) => (.ok spec, { t with filled := t.filled ++ [(cell, spec)] })
        | (.error e, t) => (.error e, t) := by
  unfold settle
  rw [Build.run_bind, Build.run_get]
  simp only
  cases s.filled.lookup cell with
  | some spec => rfl
  | none =>
    simp only
    rw [Build.run_bind]
    rcases look.run s with ⟨e | spec, t⟩
    · rfl
    · simp only
      rw [Build.run_bind]
      rfl

theorem run_resolve (reference : Reference) (s : Session) :
    (resolve reference).run s =
      match s.filled.lookup reference.cell with
      | some spec => (.ok spec, s)
      | none =>
        match (find reference.target).run s with
        | (.ok spec, t) => (.ok spec, { t with filled := t.filled ++ [(reference.cell, spec)] })
        | (.error e, t) => (.error e, t) :=
  run_settle reference.cell (find reference.target) s

/-- How a look behind a reference can end. -/
inductive Resolved (id : Nat) (r : Registry) (Q : Target → Prop) (reference : Reference)
    (s : Session) (cells : List Target) (done : List Applied) :
    Except SpecError Spec × Session → Prop
  | known {spec : Spec} : s.filled.lookup reference.cell = some spec →
    Answers id r Q cells reference.target spec →
    Resolved id r Q reference s cells done (.ok spec, s)
  | found {spec : Spec} {t : Session} {cells' : List Target} :
    s.filled.lookup reference.cell = none →
    (r.seek r.config.memoize reference.target done).1 = .ok () → cells <+: cells' →
    Sound id r Q cells' t → Tallies id r t (r.seek r.config.memoize reference.target done).2 →
    s.Grows t → t.filled = s.filled ++ [(reference.cell, spec)] →
    Answers id r Q cells' reference.target spec →
    Resolved id r Q reference s cells done (.ok spec, t)
  | missing {e : SpecError} {t : Session} {cells' : List Target} :
    s.filled.lookup reference.cell = none →
    (r.seek r.config.memoize reference.target done).1 = .error e → cells <+: cells' →
    Sound id r Q cells' t → Tallies id r t (r.seek r.config.memoize reference.target done).2 →
    s.Grows t → t.filled = s.filled → Resolved id r Q reference s cells done (.error e, t)

theorem resolved (hbuiltin : ∀ name args, r.contains name = false → Q (.forward id name args))
    {reference : Reference} {s : Session} {cells : List Target} {done : List Applied}
    (hsound : Sound id r Q cells s) (htallies : Tallies id r s done)
    (hcell : cells[reference.cell]? = some reference.target) (htarget : reference.target.IsOf id)
    (hQ : ∀ a ∈ (r.seek r.config.memoize reference.target done).2, Q (.shape id a.1 a.2)) :
    Resolved id r Q reference s cells done ((resolve reference).run s) := by
  rw [run_resolve]
  cases hfilled : s.filled.lookup reference.cell with
  | some spec =>
    obtain ⟨target, htarget', hanswers⟩ := hsound.filled hfilled
    obtain rfl : reference.target = target := Option.some.inj (hcell.symm.trans htarget')
    exact .known hfilled hanswers
  | none =>
    obtain ⟨cells', h⟩ := find_follows hbuiltin htarget cells s cells done (List.prefix_refl _)
      hsound htallies hQ
    rcases hrun : (find reference.target).run s with ⟨e | spec, t⟩
    · obtain ⟨h₁, h₂, h₃, h₄, h₅, h₆, -⟩ := hrun ▸ h
      exact .missing hfilled h₆ h₁ h₂ h₃ h₄ h₅
    · obtain ⟨h₁, h₂, h₃, h₄, h₅, h₆, h₇⟩ := hrun ▸ h
      have hanswers := h₇ spec rfl
      refine .found hfilled h₆ h₁ ⟨h₂.registry, h₂.alive, h₂.count, h₂.memo, ?_⟩ h₃
        ⟨h₄.names, h₄.handles, h₄.registries, h₄.memo, ?_, h₄.nextCell⟩
        (congrArg (· ++ [(reference.cell, spec)]) h₅) hanswers
      · intro cell found hfound
        rw [lookup_concat] at hfound
        rcases Option.or_eq_some_iff.mp hfound with hold | ⟨-, hlast⟩
        · exact h₂.filled hold
        · split at hlast
          · next heq =>
            cases hlast
            rw [heq]
            exact ⟨reference.target, cell_mono h₁ hcell, hanswers⟩
          · cases hlast
      · intro cell found hfound
        rw [lookup_concat, h₄.filled hfound]
        rfl

section
variable {cells cells' : List Target} {s t : Session} {cell : Nat} {target : Target} {found : Spec}

/-- Where no cell is filled, all that cells hold was held before, for the same targets. -/
theorem Sound.held_before (h : Sound id r Q cells s) (hcells : cells <+: cells')
    (hfilled : t.filled = s.filled) (hfound : t.filled.lookup cell = some found)
    (hcell : cells'[cell]? = some target) :
    s.filled.lookup cell = some found ∧ cells[cell]? = some target := by
  rw [hfilled] at hfound
  obtain ⟨known, hknown, _⟩ := h.filled hfound
  obtain rfl := Option.some.inj ((cell_mono hcells hknown).symm.trans hcell)
  exact ⟨hfound, hknown⟩

/-- Where one cell is filled, all else that cells hold was held before. -/
theorem Sound.held_before_or (h : Sound id r Q cells s) (hcells : cells <+: cells')
    {reference : Reference} (hreference : cells[reference.cell]? = some reference.target)
    {spec : Spec} (hfilled : t.filled = s.filled ++ [(reference.cell, spec)])
    (hfound : t.filled.lookup cell = some found) (hcell : cells'[cell]? = some target) :
    (s.filled.lookup cell = some found ∧ cells[cell]? = some target) ∨
      cell = reference.cell ∧ found = spec ∧ target = reference.target := by
  rw [hfilled, lookup_concat] at hfound
  rcases Option.or_eq_some_iff.mp hfound with hold | ⟨-, hnew⟩
  · exact .inl (h.held_before hcells rfl hold hcell)
  · split at hnew
    · next heq =>
      cases hnew
      subst heq
      exact .inr ⟨rfl, rfl, Option.some.inj (hcell.symm.trans (cell_mono hcells hreference))⟩
    · cases hnew

end

/-- The shapes that are kept for a registry. -/
def kept (s : Session) (id : Nat) : List Applied :=
  (s.memo.map fun entry => (entry.1.shape, entry.1.args)).filter fun a =>
    (s.memo.lookup ⟨id, a.1, a.2⟩).isSome

theorem mem_kept (s : Session) (id : Nat) (a : Applied) :
    a ∈ s.kept id ↔ (s.memo.lookup ⟨id, a.1, a.2⟩).isSome = true := by
  unfold kept
  rw [List.mem_filter, and_iff_right_iff_imp]
  intro h
  obtain ⟨entry, hentry, hkey⟩ := List.lookup_isSome_iff.mp h
  refine List.mem_map.mpr ⟨entry, hentry, ?_⟩
  rw [← eq_of_beq hkey]

theorem tallies_kept (s : Session) : Tallies id r s (s.kept id) := fun _ a => mem_kept s id a

theorem Sound.kept {cells : List Target} {s : Session} (h : Sound id r Q cells s) {a : Applied}
    (ha : a ∈ s.kept id) : Q (.shape id a.1 a.2) := by
  obtain ⟨spec, hspec⟩ := Option.isSome_iff_exists.mp ((mem_kept s id a).mp ha)
  cases h.memo hspec with
  | mk hq => exact hq

end

end Session

end Conform
