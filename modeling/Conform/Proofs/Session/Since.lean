import Conform.Proofs.Check.Toward
import Conform.Proofs.Kind.Targets
import Conform.Proofs.Session.Intact
import Conform.Proofs.Session.Repeat
/-!
Sessions seen from later on. From some point on a session only grows, and what it finds behind
references it goes on to hold. So a later session foretells the answers of all checks made up to
then: what was found is in its cells, and what was not found is not, unless a shape was kept on the
way that could not be derived by itself.
-/

namespace Conform

namespace Registry

section
variable {r : Registry} {memoize : Bool} {before after done : List Applied}

/-- What can be derived at one time can be derived at any time, if it can be derived by itself unless
it is kept. -/
theorem start_at_any_time {a : Applied} (h : r.start memoize a before = (.ok (), after))
    (ha : memoize = true → a ∈ after → a ∉ done → r.Alone a) :
    (r.start memoize a done).1 = .ok () := by
  cases memoize with
  | false =>
    unfold start at h ⊢
    rw [attempt_unkept r _ _ a done before, h]
  | true =>
    by_cases hkept : a ∈ done
    · unfold start attempt
      rw [if_pos ⟨rfl, hkept⟩]
    · exact (ha rfl (mem_of_start_ok h) hkept).attempt true (Nat.le_refl _) [] done

/-- The same of a look behind a reference. -/
theorem seek_at_any_time {target : Target} (h : r.seek memoize target before = (.ok (), after))
    (htarget : target.LeadsOnlyTo r fun a => memoize = true → a ∈ after → a ∉ done → r.Alone a) :
    (r.seek memoize target done).1 = .ok () := by
  cases target with
  | shape registry name args => exact start_at_any_time h (htarget (name, args) (.refl _))
  | bound name => cases h
  | forward registry name args =>
    simp only [seek] at h ⊢
    by_cases hname : r.contains name = true
    · rw [if_pos hname] at h ⊢
      exact start_at_any_time h (htarget (name, args) (.refl _))
    · rw [if_neg hname] at h ⊢
      split at h
      · next hkind => rw [if_pos hkind]
      · cases h

end

end Registry

/-! ## Sessions that have grown -/

namespace Session

section
variable (id : Nat) (r : Registry) (first : Session)

/-- The session has grown out of the first one. Where it has filled a cell since, there was a look
that succeeded, and what was derived then is kept. -/
structure Since (cells : List Target) (s : Session) : Prop extends Intact id r cells s where
  grows : first.Grows s
  found : ∀ {cell : Nat} {spec : Spec} {target : Target}, s.filled.lookup cell = some spec →
    first.filled.lookup cell = none → cells[cell]? = some target →
      first.isAlive id = true ∧ ∃ before after,
        r.seek r.config.memoize target before = (.ok (), after) ∧
          (r.config.memoize = true → after ⊆ s.kept id)

/-- If the later session keeps the shape and the first one did not, the shape can be derived by
itself. -/
def KeptByItself (e : Session) (a : Applied) : Prop :=
  r.config.memoize = true → a ∈ e.kept id → a ∉ first.kept id → r.Alone a

end

section
variable {id : Nat} {r : Registry} {first s t e : Session} {cells cells' : List Target}
  {reference : Reference}

theorem Intact.since (h : Intact id r cells s) : Since id r s cells s where
  toIntact := h
  grows := .refl s
  found hfilled hnone _ := by cases hfilled.symm.trans hnone

theorem keptByItself_self (a : Applied) : KeptByItself id r s s a :=
  fun _ hkept hnew => absurd hkept hnew

theorem Grows.isAlive_eq (h : s.Grows t) : t.isAlive id = s.isAlive id := by
  unfold isAlive
  rw [h.handles]

/-- A step that fills no cell. -/
theorem Since.of_filled (h : Since id r first cells s) (hcells : cells <+: cells')
    (hgrows : s.Grows t) (ht : Intact id r cells' t) (hfilled : t.filled = s.filled) :
    Since id r first cells' t where
  toIntact := ht
  grows := h.grows.trans hgrows
  found {cell spec target} hfound hnone htarget := by
    rw [hfilled] at hfound
    obtain ⟨target', hknown, _⟩ := h.filled hfound
    obtain rfl := Option.some.inj ((cell_mono hcells hknown).symm.trans htarget)
    obtain ⟨halive, before, after, hseek, hafter⟩ := h.found hfound hnone hknown
    exact ⟨halive, before, after, hseek,
      fun hmemoize => List.Subset.trans (hafter hmemoize) (hgrows.kept id)⟩

/-- A step that fills the cell of a reference, after a look that succeeded. -/
theorem Since.of_found (h : Since id r first cells s) (hcells : cells <+: cells')
    (hgrows : s.Grows t) (ht : Intact id r cells' t) (halive : s.isAlive id = true)
    (hcell : cells'[reference.cell]? = some reference.target) {spec : Spec}
    (hfilled : t.filled = s.filled ++ [(reference.cell, spec)])
    (hok : (r.seek r.config.memoize reference.target (s.kept id)).1 = .ok ())
    (htallies : Tallies id r t (r.seek r.config.memoize reference.target (s.kept id)).2) :
    Since id r first cells' t where
  toIntact := ht
  grows := h.grows.trans hgrows
  found {cell found target} hfound hnone htarget := by
    rw [hfilled, lookup_concat] at hfound
    rcases Option.or_eq_some_iff.mp hfound with hold | ⟨-, hnew⟩
    · obtain ⟨target', hknown, _⟩ := h.filled hold
      obtain rfl := Option.some.inj ((cell_mono hcells hknown).symm.trans htarget)
      obtain ⟨halive, before, after, hseek, hafter⟩ := h.found hold hnone hknown
      exact ⟨halive, before, after, hseek,
        fun hmemoize => List.Subset.trans (hafter hmemoize) (hgrows.kept id)⟩
    · split at hnew
      · next heq =>
        subst heq
        obtain rfl := Option.some.inj (hcell.symm.trans htarget)
        exact ⟨h.grows.isAlive_eq.symm.trans halive, s.kept id, _, Prod.ext hok rfl,
          fun hmemoize a ha => (htallies.mem_kept hmemoize).mp ha⟩
      · cases hnew

/-- A look that fails is one that a later session has not seen succeed. -/
theorem Since.not_filled (h : Since id r first cells s)
    (hcell : cells[reference.cell]? = some reference.target)
    (hnone : s.filled.lookup reference.cell = none)
    (hfails : s.isAlive id = true →
      ∃ error, (r.seek r.config.memoize reference.target (s.kept id)).1 = .error error)
    {cellsₑ : List Target} (hcells : cells <+: cellsₑ) (he : Since id r first cellsₑ e)
    (htarget : reference.target.LeadsOnlyTo r (KeptByItself id r first e)) :
    e.filled.lookup reference.cell = none := by
  cases hfilled : e.filled.lookup reference.cell with
  | none => rfl
  | some spec =>
    have hfirst : first.filled.lookup reference.cell = none := by
      cases hfound : first.filled.lookup reference.cell with
      | none => rfl
      | some spec => cases (h.grows.filled hfound).symm.trans hnone
    obtain ⟨halive, before, after, hseek, hafter⟩ :=
      he.found hfilled hfirst (cell_mono hcells hcell)
    have hok : (r.seek r.config.memoize reference.target (s.kept id)).1 = .ok () := by
      refine Registry.seek_at_any_time hseek (htarget.mono fun a ha hmemoize hmem hnew => ?_)
      exact ha hmemoize (hafter hmemoize hmem) fun hkept => hnew (h.grows.kept id hkept)
    obtain ⟨error, herror⟩ := hfails (h.grows.isAlive_eq.trans halive)
    cases hok.symm.trans herror

/-- A look behind a reference either fills its cell, or fails; and then it has to do with the shapes
behind the reference if a later session holds something there. -/
theorem Since.look (h : Since id r first cells s)
    (hcell : cells[reference.cell]? = some reference.target) (htarget : reference.target.IsOf id) :
    (∃ spec t cells', (resolve reference).run s = (.ok spec, t) ∧ cells <+: cells' ∧
      Since id r first cells' t ∧ s.Grows t ∧ t.filled.lookup reference.cell = some spec ∧
      Answers id r (fun _ => True) cells' reference.target spec) ∨
    ∃ error t cells', (resolve reference).run s = (.error error, t) ∧ cells <+: cells' ∧
      Since id r first cells' t ∧ s.Grows t ∧
      ∀ {e cellsₑ}, cells' <+: cellsₑ → Since id r first cellsₑ e →
        reference.target.LeadsOnlyTo r (KeptByItself id r first e) →
          e.filled.lookup reference.cell = none := by
  cases halive : s.isAlive id with
  | false =>
    rw [run_resolve]
    cases hfilled : s.filled.lookup reference.cell with
    | some spec =>
      obtain ⟨target, hknown, hanswers⟩ := h.filled hfilled
      obtain rfl := Option.some.inj (hcell.symm.trans hknown)
      exact .inl ⟨spec, s, cells, rfl, List.prefix_refl _, h, .refl s, hfilled, hanswers⟩
    | none =>
      refine .inr ⟨.registryDropped, s, cells, ?_, List.prefix_refl _, h, .refl s, ?_⟩
      · rw [run_find_dropped halive htarget]
      · intro e cellsₑ hcells he hleads
        refine h.not_filled hcell hfilled (fun h' => ?_) hcells he hleads
        cases halive.symm.trans h'
  | true =>
    have hresolved := resolved (fun _ _ _ => trivial) (h.toIntact.sound halive) (tallies_kept s)
      hcell htarget fun _ _ => trivial
    generalize (resolve reference).run s = o at hresolved ⊢
    cases hresolved with
    | @known spec hfilled hanswers =>
      exact .inl ⟨spec, s, cells, rfl, List.prefix_refl _, h, .refl s, hfilled, hanswers⟩
    | @found spec t cells' hnone hok hcells hsound htallies hgrows hfilled hanswers =>
      refine .inl ⟨spec, t, cells', rfl, hcells, ?_, hgrows, ?_, hanswers⟩
      · exact h.of_found hcells hgrows hsound.intact halive (cell_mono hcells hcell) hfilled hok
          htallies
      · rw [hfilled, lookup_concat, hnone, if_pos rfl]
        rfl
    | @missing error t cells' hnone herror hcells hsound htallies hgrows hfilled =>
      refine .inr ⟨error, t, cells', rfl, hcells,
        h.of_filled hcells hgrows hsound.intact hfilled, hgrows, ?_⟩
      intro e cellsₑ hcellsₑ he hleads
      exact h.not_filled hcell hnone (fun _ => ⟨error, herror⟩) (hcells.trans hcellsₑ) he hleads

end

end Session

open Check (Compositional)
open Session (Since KeptByItself)
open Spec (InStep)

/-! ## Walks seen from later on -/

section
variable {id : Nat} {r : Registry} {first s e : Session} {cells base : List Target} {n : Nat}
  {v : Value}

/-- The walk has an answer and the session goes on to grow out of the first one; if it grows into the
later session, the other walk has the same answer. -/
def Foretold (id : Nat) (r : Registry) (first e : Session) (base : List Target) {α : Type}
    (x y : Check α) : Prop :=
  ∀ s cells, base <+: cells → Since id r first cells s →
    ∃ a t cells', x s = some (a, t) ∧ cells <+: cells' ∧ Since id r first cells' t ∧ s.Grows t ∧
      ∀ cellsₑ, cells' <+: cellsₑ → Since id r first cellsₑ e → t.Grows e → y s = some (a, t)

theorem compositional_foretold (base : List Target) :
    Compositional (Foretold id r first e base) where
  pure a := fun s cells _ hs =>
    ⟨a, s, cells, rfl, List.prefix_refl _, hs, .refl s, fun _ _ _ _ => rfl⟩
  bind hx hf := fun s cells hcells hs => by
    obtain ⟨a, t, cells', hrun, hcells', ht, hgrows, hlater⟩ := hx s cells hcells hs
    obtain ⟨b, u, cells'', hrun', hcells'', hu, hgrows', hlater'⟩ :=
      hf a t cells' (hcells.trans hcells') ht
    refine ⟨b, u, cells'', ?_, hcells'.trans hcells'', hu, hgrows.trans hgrows', ?_⟩
    · rw [Check.bind_apply, hrun]
      exact hrun'
    · intro cellsₑ hcellsₑ he hgrowsₑ
      rw [Check.bind_apply, hlater cellsₑ (hcells''.trans hcellsₑ) he (hgrows'.trans hgrowsₑ)]
      exact hlater' cellsₑ hcellsₑ he hgrowsₑ

theorem Spec.conformWith_toward (i : Instance) (reference : Reference) :
    conformWith (.toward e (n + 1)) (deferred i reference) v s =
      match Session.resolveToward e reference s with
      | some (.ok spec, t) => conformWith (.toward e n) spec v t
      | some (.error _, t) => some (.invalid, t)
      | none => none := by
  conv => lhs; unfold conformWith
  rw [Check.bind_apply]
  change Option.bind (Session.resolveToward e reference s) _ = _
  rcases Session.resolveToward e reference s with _ | ⟨_ | _, _⟩ <;> rfl

theorem Spec.explainWith_toward (i : Instance) (reference : Reference) (path : Path) :
    explainWith (.toward e (n + 1)) (deferred i reference) path v s =
      match Session.resolveToward e reference s with
      | some (.ok spec, t) => explainWith (.toward e n) spec path v t
      | some (.error error, t) =>
        some ([⟨path, v, deferred i reference, "unresolved reference: " ++ error.message⟩], t)
      | none => none := by
  conv => lhs; unfold explainWith
  rw [Check.bind_apply]
  change Option.bind (Session.resolveToward e reference s) _ = _
  rcases Session.resolveToward e reference s with _ | ⟨_ | _, _⟩ <;> rfl

/-- A check that goes on behind a reference is foretold, if it is behind what answers. -/
theorem foretold_behind {α : Type} {reference : Reference} {x y : Check α} {f g : Spec → Check α}
    {missing : SpecError → α} (hcell : base[reference.cell]? = some reference.target)
    (htarget : reference.target.IsOf id)
    (hleads : reference.target.LeadsOnlyTo r (KeptByItself id r first e))
    (hx : ∀ s, x s =
      match (Session.resolve reference).run s with
      | (.ok spec, t) => f spec t
      | (.error error, t) => some (missing error, t))
    (hy : ∀ s, y s =
      match Session.resolveToward e reference s with
      | some (.ok spec, t) => g spec t
      | some (.error error, t) => some (missing error, t)
      | none => none)
    (hf : ∀ {cells spec}, Answers id r (fun _ => True) cells reference.target spec →
      Foretold id r first e cells (f spec) (g spec)) : Foretold id r first e base x y := by
  intro s cells hcells hs
  rw [hx, hy]
  rcases hs.look (cell_mono hcells hcell) htarget with
    ⟨spec, t, cells', hrun, hcells', ht, hgrows, hfilled, hanswers⟩ |
    ⟨error, t, cells', hrun, hcells', ht, hgrows, hmissing⟩
  · obtain ⟨a, u, cells'', hrun', hcells'', hu, hgrows', hlater⟩ :=
      hf hanswers t cells' (List.prefix_refl _) ht
    rw [hrun]
    refine ⟨a, u, cells'', hrun', hcells'.trans hcells'', hu, hgrows.trans hgrows', ?_⟩
    intro cellsₑ hcellsₑ he hgrowsₑ
    rw [Session.resolveToward_ok (hgrowsₑ.filled (hgrows'.filled hfilled)) hrun]
    exact hlater cellsₑ hcellsₑ he hgrowsₑ
  · rw [hrun]
    refine ⟨missing error, t, cells', rfl, hcells', ht, hgrows, ?_⟩
    intro cellsₑ hcellsₑ he _
    rw [Session.resolveToward_error (hmissing hcellsₑ he hleads) hrun]

theorem deferred_foretold (n : Nat) (base : List Target) :
    LazyInStep (Foretold id r first e base) (.within n) (.toward e n) id
      (Target.LeadsOnlyTo r (KeptByItself id r first e)) base n := by
  induction n generalizing base with
  | zero => exact fun _ _ _ _ _ _ hv => absurd hv (Nat.not_lt_zero _)
  | succ n ih =>
    intro i reference v hcell htarget hleads hv
    -- A name leads to what the shape of that name leads to.
    have hwalk : ∀ {cells : List Target} {spec : Spec},
        Answers id r (fun _ => True) cells reference.target spec →
        InStep (Foretold id r first e cells) (.within n) (.toward e n) spec v :=
      fun h => h.inStep (compositional_foretold _) (inwards_leadsOnlyTo id r _) (ih _) hleads
        (fun _ _ hname _ => by rwa [hname] at hleads) v (Nat.le_of_lt_succ hv)
    constructor
    · exact foretold_behind hcell htarget hleads (Spec.conformWith_deferred n i reference v)
        (fun _ => Spec.conformWith_toward i reference) fun h => (hwalk h).conform
    · exact fun path => foretold_behind hcell htarget hleads
        (Spec.explainWith_deferred n i reference path v)
        (fun _ => Spec.explainWith_toward i reference path) fun h => (hwalk h).explain path

/-- The answers of a derived spec are foretold by every later session that has kept nothing that the
kind leads to but what could be derived by itself. -/
theorem Stands.foretold {k : Kind} {spec : Spec} (h : Stands id r (fun _ => True) base k spec)
    (hk : k.LeadsOnlyTo r (KeptByItself id r first e)) (hv : v.depth < n) :
    InStep (Foretold id r first e base) (.within n) (.toward e n) spec v :=
  h.inStep (compositional_foretold base) (inwards_leadsOnlyTo id r _) (deferred_foretold n base)
    hk.targets v hv

/-- A walk of a derived spec has an answer, and leaves a session grown out of the first one. -/
theorem Stands.since {k : Kind} {spec : Spec} (h : Stands id r (fun _ => True) base k spec)
    (hv : v.depth < n) : InStep (Foretold id r first first base) (.within n) (.toward first n) spec v :=
  h.foretold (Kind.leadsOnlyTo_of_forall Session.keptByItself_self k) hv

/-- The check has an answer, and it is what the spec means by whatever the later session holds. -/
theorem Stands.conform_foretold {k : Kind} {spec : Spec}
    (h : Stands id r (fun _ => True) base k spec)
    (hk : k.LeadsOnlyTo r (KeptByItself id r first e)) (hv : v.depth < n) (hcells : base <+: cells)
    (hs : Since id r first cells s) :
    ∃ c t cells', spec.conformWith (.within n) v s = some (c, t) ∧ cells <+: cells' ∧
      Since id r first cells' t ∧ s.Grows t ∧
      ∀ cellsₑ, cells' <+: cellsₑ → Since id r first cellsₑ e → t.Grows e →
        ∀ m, n < m → c = (spec.meaning (e.forecast.refs m)).conform v := by
  obtain ⟨c, t, cells', hrun, hcells', ht, hgrows, hlater⟩ :=
    (h.foretold hk hv).conform s cells hcells hs
  refine ⟨c, t, cells', hrun, hcells', ht, hgrows, fun cellsₑ hcellsₑ he hgrowsₑ m hnm => ?_⟩
  have htoward := hlater cellsₑ hcellsₑ he hgrowsₑ
  exact ((Check.toward_implements e hnm spec v).conform.of_some trivial htoward).1

end

end Conform
