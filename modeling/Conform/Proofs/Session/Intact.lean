import Conform.Proofs.Check.Refuse
import Conform.Proofs.Session.Calls
/-!
Sessions whose registry may have been dropped. What they keep stands for what it is kept for, as in
any sound session; only new looks behind references are not answered any more. Checks still come to
an end, and no look ends in an error that the references at hand do not lead to.
-/

namespace Conform

open Check (Compositional Ensures)
open Spec (InStep)

/-! ## Intact sessions -/

namespace Session

/-- Sound, but for the registry, which may have been dropped. -/
structure Intact (id : Nat) (r : Registry) (cells : List Target) (s : Session) : Prop where
  registry : s.registryAt? id = some r
  count : cells.length = s.nextCell
  memo : ∀ {a : Applied} {spec : Spec},
    s.memo.lookup ⟨id, a.1, a.2⟩ = some spec → StandsRecord id r (fun _ => True) cells a spec
  filled : ∀ {cell : Nat} {spec : Spec}, s.filled.lookup cell = some spec →
    ∃ target, cells[cell]? = some target ∧ Answers id r (fun _ => True) cells target spec

section
variable {id : Nat} {r : Registry} {cells base : List Target} {s t : Session}

theorem Sound.intact (h : Sound id r (fun _ => True) cells s) : Intact id r cells s :=
  ⟨h.registry, h.count, h.memo, h.filled⟩

theorem Intact.sound (h : Intact id r cells s) (halive : s.isAlive id = true) :
    Sound id r (fun _ => True) cells s :=
  ⟨h.registry, halive, h.count, h.memo, h.filled⟩

/-- Handles do not matter to what the session keeps. -/
theorem Intact.handled (h : Intact id r cells s) (handles : List (String × Nat)) :
    Intact id r cells { s with handles := handles } :=
  ⟨h.registry, h.count, h.memo, h.filled⟩

theorem Intact.register (h : Intact id r cells s) {shape : Shape} (hs : s.register id shape = .ok t) :
    ∃ r', r.Extends r' ∧ Intact id r' cells t := by
  obtain ⟨_, r', hr, hr', rfl⟩ := register_ok hs
  obtain rfl := Option.some.inj (h.registry.symm.trans hr)
  have hextends := Registry.Extends.of_register hr'
  obtain ⟨hlt, _⟩ := List.getElem?_eq_some_iff.mp h.registry
  refine ⟨r', hextends, List.getElem?_set_self hlt, h.count, fun hmemo => ?_, fun hfilled => ?_⟩
  · exact (h.memo hmemo).mono hextends (List.prefix_refl _)
  · obtain ⟨target, htarget, hanswers⟩ := h.filled hfilled
    exact ⟨target, htarget, hanswers.mono hextends (List.prefix_refl _)⟩

/-! ## Dropped registries -/

theorem run_liveRegistry_dropped (h : s.isAlive id = false) :
    (liveRegistry id).run s = (.error .registryDropped, s) := by
  unfold liveRegistry
  rw [Build.run_bind, Build.run_get]
  simp only [h]
  cases s.registryAt? id <;> rfl

theorem run_specFor_dropped (h : s.isAlive id = false) (k : Kind) :
    (specFor id k).run s = (.error .registryDropped, s) := by
  unfold specFor
  rw [Build.run_bind, run_liveRegistry_dropped h]

theorem run_find_dropped (h : s.isAlive id = false) {target : Target} (htarget : target.IsOf id) :
    (find target).run s = (.error .registryDropped, s) := by
  cases target with
  | bound name => exact htarget.elim
  | shape registry name args =>
    obtain rfl : registry = id := htarget
    unfold find derive
    rw [Build.run_bind, run_liveRegistry_dropped h]
  | forward registry name args =>
    obtain rfl : registry = id := htarget
    unfold find
    rw [Build.run_bind, run_liveRegistry_dropped h]

/-- A look leaves the session intact, and finds what answers for the reference if it finds anything.
Else there is nothing to be found, or nothing is looked for as the registry was dropped. -/
theorem Intact.look (h : Intact id r cells s) {reference : Reference}
    (hcell : cells[reference.cell]? = some reference.target) (htarget : reference.target.IsOf id) :
    (∃ spec t cells', (resolve reference).run s = (.ok spec, t) ∧ cells <+: cells' ∧
      Intact id r cells' t ∧ Answers id r (fun _ => True) cells' reference.target spec) ∨
    ∃ e t cells', (resolve reference).run s = (.error e, t) ∧ cells <+: cells' ∧
      Intact id r cells' t ∧
      (e = .registryDropped ∨
        (r.seek r.config.memoize reference.target (s.kept id)).1 = .error e) := by
  cases halive : s.isAlive id with
  | true =>
    rcases (closed_trivial id r).look (h.sound halive) hcell htarget with
      ⟨spec, t, cells', hrun, hcells, hsound, hanswers⟩ | ⟨e, t, cells', hrun, hcells, hsound, he⟩
    · exact .inl ⟨spec, t, cells', hrun, hcells, hsound.intact, hanswers⟩
    · exact .inr ⟨e, t, cells', hrun, hcells, hsound.intact, .inr he⟩
  | false =>
    rw [run_resolve]
    cases hfilled : s.filled.lookup reference.cell with
    | some spec =>
      obtain ⟨target, hknown, hanswers⟩ := h.filled hfilled
      obtain rfl := Option.some.inj (hcell.symm.trans hknown)
      exact .inl ⟨spec, s, cells, rfl, List.prefix_refl _, h, hanswers⟩
    | none =>
      refine .inr ⟨.registryDropped, s, cells, ?_, List.prefix_refl _, h, .inl rfl⟩
      rw [run_find_dropped halive htarget]

/-- Intact by a table that begins with the cells known before. -/
def IntactOver (id : Nat) (r : Registry) (base : List Target) (s : Session) : Prop :=
  ∃ cells, base <+: cells ∧ Intact id r cells s

theorem IntactOver.mono {base' : List Target} (h : IntactOver id r base' s) (hbase : base <+: base') :
    IntactOver id r base s := by
  obtain ⟨cells, hcells, hs⟩ := h
  exact ⟨cells, hbase.trans hcells, hs⟩

end

end Session

open Session (Intact IntactOver)

/-! ## Walks that refuse nothing they meet -/

/-- Looks behind the references that matter end in no error that is refused. `F` tells which
references matter. -/
structure Spared (id : Nat) (r : Registry) (refuse : SpecError → Bool) (F : Target → Prop) :
    Prop where
  inwards : Inwards id r F
  forward : ∀ {name args}, F (.forward id name args) → r.contains name = true →
    F (.shape id name args)
  dropped : refuse .registryDropped = false
  seek : ∀ {target done e}, F target → (r.seek r.config.memoize target done).1 = .error e →
    refuse e = false

theorem spared_nothing (id : Nat) (r : Registry) : Spared id r (fun _ => false) fun _ => True :=
  ⟨fun _ _ _ _ _ _ => trivial, fun _ _ => trivial, rfl, fun _ _ => rfl⟩

section
variable {id : Nat} {r : Registry} {refuse : SpecError → Bool} {F : Target → Prop}
  {cells : List Target} {n : Nat} {v : Value}

/-- The walk has an answer, the other walk has the same one, and the session is left intact. -/
def Answering (id : Nat) (r : Registry) (base : List Target) {α : Type} (x y : Check α) : Prop :=
  ∀ s, IntactOver id r base s →
    ∃ a t, x s = some (a, t) ∧ y s = some (a, t) ∧ IntactOver id r base t

theorem compositional_answering (base : List Target) : Compositional (Answering id r base) where
  pure a := fun s hs => ⟨a, s, rfl, rfl, hs⟩
  bind hx hf := fun s hs => by
    obtain ⟨a, t, hrun, hsame, ht⟩ := hx s hs
    obtain ⟨b, u, hrun', hsame', hu⟩ := hf a t ht
    refine ⟨b, u, ?_, ?_, hu⟩
    · rw [Check.bind_apply, hrun]
      exact hrun'
    · rw [Check.bind_apply, hsame]
      exact hsame'

/-- A check that goes on behind a reference has an answer, if it has one behind what answers. -/
theorem answering_behind (hF : Spared id r refuse F) {α : Type} {reference : Reference}
    {x y : Check α} {f g : Spec → Check α} {missing : SpecError → α}
    (hcell : cells[reference.cell]? = some reference.target) (htarget : reference.target.IsOf id)
    (hreference : F reference.target)
    (hx : ∀ s, x s =
      match (Session.resolve reference).run s with
      | (.ok spec, t) => f spec t
      | (.error e, t) => some (missing e, t))
    (hy : ∀ s, y s =
      match (Session.resolve reference).run s with
      | (.ok spec, t) => g spec t
      | (.error e, t) => if refuse e then none else some (missing e, t))
    (hf : ∀ {cells' spec}, Answers id r (fun _ => True) cells' reference.target spec →
      Answering id r cells' (f spec) (g spec)) : Answering id r cells x y := by
  rintro s ⟨more, hmore, hs⟩
  rw [hx, hy]
  rcases hs.look (cell_mono hmore hcell) htarget with
    ⟨spec, t, cells', hrun, hcells, ht, hanswers⟩ | ⟨e, t, cells', hrun, hcells, ht, he⟩
  · rw [hrun]
    obtain ⟨a, u, hrun', hsame, hu⟩ := hf hanswers t ⟨cells', List.prefix_refl _, ht⟩
    exact ⟨a, u, hrun', hsame, hu.mono (hmore.trans hcells)⟩
  · have hspared : refuse e = false := by
      rcases he with rfl | he
      · exact hF.dropped
      · exact hF.seek hreference he
    rw [hrun]
    simp only [hspared]
    exact ⟨_, t, rfl, rfl, cells', hmore.trans hcells, ht⟩

theorem deferred_answering (hF : Spared id r refuse F) (n : Nat) (cells : List Target) :
    LazyInStep (Answering id r cells) (.within n) (.refusing refuse n) id F cells n := by
  induction n generalizing cells with
  | zero => exact fun _ _ _ _ _ _ hv => absurd hv (Nat.not_lt_zero _)
  | succ n ih =>
    intro i reference v hcell htarget hreference hv
    have hwalk : ∀ {cells' : List Target} {spec : Spec},
        Answers id r (fun _ => True) cells' reference.target spec →
        InStep (Answering id r cells') (.within n) (.refusing refuse n) spec v :=
      fun h => h.inStep (compositional_answering _) hF.inwards (ih _) hreference
        (fun _ _ hname hcontains => hF.forward (hname ▸ hreference) hcontains) v
        (Nat.le_of_lt_succ hv)
    constructor
    · exact answering_behind hF hcell htarget hreference
        (Spec.conformWith_deferred n i reference v)
        (Spec.conformWith_resolveUnless rfl i reference v) fun h => (hwalk h).conform
    · exact fun path => answering_behind hF hcell htarget hreference
        (Spec.explainWith_deferred n i reference path v)
        (Spec.explainWith_resolveUnless rfl i reference path v) fun h => (hwalk h).explain path

theorem Answers.answering_refusing (hF : Spared id r refuse F) {target : Target} {spec : Spec}
    (h : Answers id r (fun _ => True) cells target spec) (htarget : F target) (hv : v.depth ≤ n) :
    InStep (Answering id r cells) (.within n) (.refusing refuse n) spec v :=
  h.inStep (compositional_answering cells) hF.inwards (deferred_answering hF n cells) htarget
    (fun _ _ hname hcontains => hF.forward (hname ▸ htarget) hcontains) v hv

/-- A walk that refuses some errors goes as one that refuses none, if all that the kind refers to is
spared those errors. -/
theorem Stands.answering_refusing (hF : Spared id r refuse F) {k : Kind} {spec : Spec}
    (h : Stands id r (fun _ => True) cells k spec) (hk : ∀ target ∈ k.targets id, F target)
    (hv : v.depth < n) : InStep (Answering id r cells) (.within n) (.refusing refuse n) spec v :=
  h.inStep (compositional_answering cells) hF.inwards (deferred_answering hF n cells) hk v hv

/-! ### Walks by themselves -/

theorem Answering.left {base : List Target} {α : Type} {x y : Check α}
    (h : Answering id r base x y) : Answering id r base x x := by
  intro s hs
  obtain ⟨a, t, hrun, _, ht⟩ := h s hs
  exact ⟨a, t, hrun, hrun, ht⟩

theorem Answering.ensures {base : List Target} {α : Type} {x y : Check α}
    (h : Answering id r base x y) : Ensures False (IntactOver id r base) x fun _ => True := by
  intro s hs
  obtain ⟨a, t, hrun, _, ht⟩ := h s hs
  rw [hrun]
  exact ⟨trivial, ht⟩

theorem inStep_left {d d' : Delegate} {spec : Spec} (h : InStep (Answering id r cells) d d' spec v) :
    InStep (Answering id r cells) d d spec v :=
  ⟨h.conform.left, fun path => (h.explain path).left⟩

theorem Answers.answering {target : Target} {spec : Spec}
    (h : Answers id r (fun _ => True) cells target spec) (hv : v.depth ≤ n) :
    InStep (Answering id r cells) (.within n) (.within n) spec v :=
  inStep_left (h.answering_refusing (spared_nothing id r) trivial hv)

theorem Stands.answering {k : Kind} {spec : Spec} (h : Stands id r (fun _ => True) cells k spec)
    (hv : v.depth < n) : InStep (Answering id r cells) (.within n) (.within n) spec v :=
  inStep_left (h.answering_refusing (spared_nothing id r) (fun _ _ => trivial) hv)

theorem StandFields.answering {fields : List Field} {keys : List (String × Spec)}
    (h : StandFields id r (fun _ => True) cells fields keys) (hv : v.depth ≤ n) :
    ∀ key ∈ keys, ∀ w, v.get? key.1 = some w →
      InStep (Answering id r cells) (.within n) (.within n) key.2 w := by
  have hnothing := spared_nothing id r
  intro key hkey w hw
  exact inStep_left (h.inStep (compositional_answering cells) hnothing.inwards
    (deferred_answering hnothing n cells) (fun _ _ _ _ => trivial) v hv key hkey w hw)

end

end Conform
