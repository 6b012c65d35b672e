import Conform.Proofs.Check.Insist
import Conform.Proofs.Kind.Targets
import Conform.Proofs.Session.Owned
/-!
When checks need not insist on direct references. If derivations leave nothing to lazy references but
what can be derived by itself, a check never stops at a shape that is mentioned directly, and only
names are ever left unresolved.
-/

namespace Conform

open Check (Compositional)
open Session (Traced TracedOver AllAlone)
open Spec (InStep)

/-! ## Walks that need not insist -/

namespace Kind

/-- Wherever a value may be held against a shape, its derivation leaves nothing but what can be derived
by itself. -/
def LeavesAlone (r : Registry) (k : Kind) : Prop :=
  ∀ name args, r.Reaches k (.record name args) → r.LeavesAlone (name, args)

theorem reaches_of_mentions {r : Registry} {a b : Applied} (h : Relation.ReflTransGen r.Mentions a b) :
    r.Reaches (.record a.1 a.2) (.record b.1 b.2) := by
  induction h using Relation.ReflTransGen.head_induction_on with
  | refl => exact .refl _
  | head hmentions _ ih =>
    obtain ⟨fields, hfields, hmem⟩ := hmentions
    obtain ⟨f, hf, hrecord⟩ := List.mem_flatMap.mp hmem
    exact .field hfields hf ((Registry.Reaches.record_of_mem_records hrecord).trans ih)

end Kind

/-- A shape that can be derived by itself, or a name; and what it leads to leaves nothing but what
can be derived by itself. -/
def Target.Sure (r : Registry) : Target → Prop
  | shape _ name args => r.Alone (name, args) ∧ (Kind.record name args).LeavesAlone r
  | forward _ name args => (Kind.record name args).LeavesAlone r
  | bound _ => True

section
variable {id : Nat} {r : Registry}

theorem Kind.LeavesAlone.sure {k : Kind} (h : k.LeavesAlone r) (halone : ∀ a ∈ k.records, r.Alone a) :
    ∀ target ∈ k.targets id, target.Sure r := by
  intro target hmem
  obtain ⟨part, hreach, hpart⟩ := reaches_of_mem_targets k hmem
  have hleaves : part.LeavesAlone r := fun name args hfurther => h name args (hreach.trans hfurther)
  cases part with
  | record name args =>
    obtain rfl := hpart
    exact ⟨halone (name, args) ((shape_mem_targets k).mp hmem), hleaves⟩
  | forward name args =>
    obtain rfl := hpart
    exact fun name' args' hfurther => hleaves name' args' (.behind hfurther)
  | leaf | nothing | list | union | placeholder => exact hpart.elim

theorem inwards_sure : Inwards id r (Target.Sure r) := by
  rintro a fields ⟨halone, hleaves⟩ hfields f hf target htarget
  have hmentions : ∀ b ∈ f.kind.records, r.Alone b := by
    intro b hb
    refine halone.alone_of_mentions (fun c hc => hleaves c.1 c.2 (Kind.reaches_of_mentions hc)) ?_
    exact .single ⟨fields, hfields, List.mem_flatMap.mpr ⟨f, hf, hb⟩⟩
  have hkind : f.kind.LeavesAlone r := fun name args hreach =>
    hleaves name args (.field hfields hf hreach)
  exact hkind.sure hmentions target htarget

variable {cells base : List Target} {s : Session}

/-- The walk has an answer, and where it insists it has the same one; if specs are kept, as long as
they are of shapes that can be derived by themselves. -/
structure Unstopped (id : Nat) (r : Registry) (base : List Target) {α : Type} (x y : Check α) :
    Prop where
  traces : Traces id r base x x
  same : ∀ {s t a}, TracedOver id r base s → x s = some (a, t) → t.AllAlone id r →
    y s = some (a, t)

theorem compositional_unstopped (base : List Target) : Compositional (Unstopped id r base) where
  pure a := ⟨(compositional_traces base).pure a, fun _ hrun _ => hrun⟩
  bind {_ _ x y f g} hx hf := by
    refine ⟨(compositional_traces base).bind hx.traces fun a => (hf a).traces, ?_⟩
    intro s t b hs hrun hall
    obtain ⟨a, u, hrunx, hu, _⟩ := hx.traces s hs
    rw [Check.bind_apply, hrunx] at hrun
    obtain ⟨b', t', hrunf, _, hgrows⟩ := (hf a).traces u hu
    have hsame : (b', t') = (b, t) := Option.some.inj (hrunf.symm.trans hrun)
    cases hsame
    rw [Check.bind_apply, hx.same hs hrunx (hall.of_grows hgrows)]
    exact (hf a).same hu hrunf hall

/-- There is always something behind a reference that is sure, unless it is a name. -/
theorem Target.Sure.not_direct {target : Target} (h : target.Sure r) {done : List Applied}
    {e : SpecError} (he : (r.seek r.config.memoize target done).1 = .error e) :
    target.isDirect = false := by
  cases target with
  | shape registry name args =>
    have hok : (r.start r.config.memoize (name, args) done).1 = .ok () :=
      h.1.attempt r.config.memoize (Nat.le_refl _) [] done
    cases hok.symm.trans he
  | forward | bound => rfl

/-- A check that goes on behind a reference need not insist, if it need not behind what answers. -/
theorem unstopped_behind {reference : Reference}
    (hcell : base[reference.cell]? = some reference.target) (htarget : reference.target.IsOf id)
    (hsure : reference.target.Sure r) {α : Type} {x y : Check α} {f g : Spec → Check α}
    {missing : SpecError → α}
    (hx : ∀ s, x s =
      match (Session.resolve reference).run s with
      | (.ok spec, t) => f spec t
      | (.error e, t) => some (missing e, t))
    (hy : ∀ s, y s =
      match (Session.resolve reference).run s with
      | (.ok spec, t) => g spec t
      | (.error e, t) => if reference.target.isDirect then none else some (missing e, t))
    (htraces : Traces id r base x x)
    (hf : ∀ {cells spec}, Answers id r (fun _ => True) cells reference.target spec →
      Traces id r cells (f spec) (f spec))
    (hwalk : ∀ {cells spec}, Answers id r (fun _ => True) cells reference.target spec →
      (∀ name args, reference.target = .forward id name args →
        (∃ i k, spec = .isInstance i k) ∨ r.Alone (name, args)) →
      Unstopped id r cells (f spec) (g spec)) : Unstopped id r base x y := by
  refine ⟨htraces, ?_⟩
  rintro s t a ⟨more, hmore, hs⟩ hrun hall
  rw [hx] at hrun
  rw [hy]
  rcases hs.look (cell_mono hmore hcell) htarget with
    ⟨spec, u, cells, hlook, hcells, hu, hgrows, hanswers, hnames⟩ |
    ⟨e, u, cells, hlook, hcells, hu, hgrows, he⟩
  · rw [hlook] at hrun ⊢
    obtain ⟨a', t', hrun', _, hgrows'⟩ := (hf hanswers).run (List.prefix_refl _) hu
    have hsame : (a', t') = (a, t) := Option.some.inj (hrun'.symm.trans hrun)
    cases hsame
    refine (hwalk hanswers fun name args hname => ?_).same ⟨cells, List.prefix_refl _, hu⟩ hrun hall
    exact (hnames name args hname).imp_right fun howns => howns.is_alone (hall.of_grows hgrows')
  · rw [hlook] at hrun ⊢
    simp only [hsure.not_direct he]
    exact hrun

theorem deferred_unstopped (n : Nat) (cells : List Target) :
    LazyInStep (Unstopped id r cells) (.within n) (.insisting n) id (Target.Sure r) cells n := by
  induction n generalizing cells with
  | zero => exact fun _ _ _ _ _ _ hv => absurd hv (Nat.not_lt_zero _)
  | succ n ih =>
    intro i reference v hcell htarget hsure hv
    have hv' := Nat.le_of_lt_succ hv
    have hwalk : ∀ {cells : List Target} {spec : Spec},
        Answers id r (fun _ => True) cells reference.target spec →
        (∀ name args, reference.target = .forward id name args →
          (∃ i k, spec = .isInstance i k) ∨ r.Alone (name, args)) →
        InStep (Unstopped id r cells) (.within n) (.insisting n) spec v := by
      intro cells spec hanswers hnames
      by_cases hbuiltin : ∃ i k, spec = .isInstance i k
      · obtain ⟨i, k, rfl⟩ := hbuiltin
        exact Spec.inStep_isInstance (compositional_unstopped _) i k v
      · refine hanswers.inStep (compositional_unstopped _) inwards_sure (ih _) hsure ?_ v hv'
        intro name args hname _
        rw [hname] at hsure
        exact ⟨(hnames name args hname).resolve_left hbuiltin, hsure⟩
    have htraces := deferred_traces (r := r) (n + 1) cells i reference v hcell htarget trivial hv
    constructor
    · exact unstopped_behind hcell htarget hsure (Spec.conformWith_deferred n i reference v)
        (Spec.conformWith_insisting n i reference v) htraces.conform
        (fun hanswers => (hanswers.traces hv').conform)
        fun hanswers hnames => (hwalk hanswers hnames).conform
    · intro path
      exact unstopped_behind hcell htarget hsure (Spec.explainWith_deferred n i reference path v)
        (Spec.explainWith_insisting n i reference path v) (htraces.explain path)
        (fun hanswers => (hanswers.traces hv').explain path)
        fun hanswers hnames => (hwalk hanswers hnames).explain path

theorem Stands.unstopped {k : Kind} {spec : Spec} (h : Stands id r (fun _ => True) cells k spec)
    (hsure : ∀ target ∈ k.targets id, target.Sure r) {n : Nat} {v : Value} (hv : v.depth < n) :
    InStep (Unstopped id r cells) (.within n) (.insisting n) spec v :=
  h.inStep (compositional_unstopped cells) inwards_sure (deferred_unstopped n cells) hsure v hv

end

/-! ## Trials -/

/-- If the shape can be derived first of all, so can all that its derivation leaves to lazy
references. -/
def Registry.LeavesDerivable (r : Registry) (a : Applied) : Prop :=
  r.Derivable a → ∀ c ∈ r.left a, r.Derivable c

theorem Registry.leavesDerivable_iff (r : Registry) (a : Applied) :
    r.LeavesDerivable a ↔ r.LeavesAlone a := by
  unfold LeavesDerivable LeavesAlone
  simp only [derivable_iff]

namespace Trial

section
variable (t : Trial) (r : Registry)

/-- If specs are kept, those that the session keeps could be derived first of all. -/
def AllDerivable (s : Session) : Prop :=
  t.config.memoize = true → ∀ a ∈ s.kept 0, r.Derivable a

/-- The check of the value and every explanation come to an end, and stop at no direct reference; if
specs are kept, as long as those are that could be derived first of all. -/
structure Insists : Prop where
  conform : ∃ spec c s, t.caller.specs[t.opening.specs.length]? = some spec ∧
    Check.conform spec t.value t.caller.session = some (c, s) ∧
    (t.AllDerivable r s → Check.conformInsisting spec t.value t.caller.session = some (c, s))
  explain : ∀ path, ∃ spec problems s, t.caller.specs[t.opening.specs.length]? = some spec ∧
    Check.explain spec path t.value t.caller.session = some (problems, s) ∧
    (t.AllDerivable r s →
      Check.explainInsisting spec path t.value t.caller.session = some (problems, s) ∧
        ∀ p ∈ problems, p.SparesDirect)

end

/-- A spec that was made has fields for every shape that is mentioned from its kind on if and only if
derivations leave nothing there but what can be derived first of all; and if they do so wherever the
spec leads to, no check of it is stopped by a direct reference. -/
theorem insists_of_leavesDerivable {t : Trial} {r : Registry} (hmade : t.derived.1 = .made)
    (hr : t.caller.session.registryAt? 0 = some r) :
    (t.AllDerivable r t.caller.session → ∀ a ∈ t.kind.records,
      ((∀ b, Relation.ReflTransGen r.Mentions a b → ∃ fields, r.fieldsOf b = .ok fields) ↔
        ∀ b, Relation.ReflTransGen r.Mentions a b → r.LeavesDerivable b)) ∧
    ((∀ name args, r.Reaches t.kind (.record name args) → r.LeavesDerivable (name, args)) →
      t.Insists r) := by
  obtain ⟨r', cells, spec, hconfig, hspec, hs, hstands, howns⟩ := Trial.traced hmade
  obtain rfl : r' = r := Option.some.inj (hs.registry.symm.trans hr)
  have hall : ∀ {s : Session}, t.AllDerivable r' s → s.AllAlone 0 r' := by
    intro s h hmemoize a ha
    exact (r'.derivable_iff a).mp (h (hconfig ▸ hmemoize) a ha)
  constructor
  · intro hderivable a ha
    simp only [Registry.leavesDerivable_iff]
    exact ((howns a ha).is_alone (hall hderivable)).exists_fields_iff
  · intro hleaves
    have hkind : t.kind.LeavesAlone r' := fun name args hreach =>
      (r'.leavesDerivable_iff _).mp (hleaves name args hreach)
    have hbase : TracedOver 0 r' cells t.caller.session := ⟨cells, List.prefix_refl _, hs⟩
    have hreach := Check.depth_lt_reach t.value t.caller.session
    have hwalk : ∀ {s : Session}, t.caller.session.Grows s → t.AllDerivable r' s →
        InStep (Unstopped 0 r' cells) (.within (Check.reach t.value t.caller.session))
          (.insisting (Check.reach t.value t.caller.session)) spec t.value := by
      intro s hgrows hderivable
      have hrecords : ∀ a ∈ t.kind.records, r'.Alone a := fun a ha =>
        (howns a ha).is_alone ((hall hderivable).of_grows hgrows)
      exact hstands.unstopped (hkind.sure hrecords) hreach
    constructor
    · obtain ⟨c, s, hrun, _, hgrows⟩ := (hstands.traces hreach).conform.run (List.prefix_refl _) hs
      refine ⟨spec, c, s, hspec, hrun, fun hderivable => ?_⟩
      exact (hwalk hgrows hderivable).conform.same hbase hrun (hall hderivable)
    · intro path
      obtain ⟨problems, s, hrun, _, hgrows⟩ :=
        ((hstands.traces hreach).explain path).run (List.prefix_refl _) hs
      refine ⟨spec, problems, s, hspec, hrun, fun hderivable => ?_⟩
      have hsame := ((hwalk hgrows hderivable).explain path).same hbase hrun (hall hderivable)
      exact ⟨hsame, ((Spec.spares_insisting _ spec path t.value).of_some trivial hsame).1⟩

/-- A shape that mentions itself, and a name that nothing is registered under. -/
def node : Shape :=
  ⟨"Node", [], [⟨"tag", .forward "Tag" []⟩, ⟨"next", .optional (.record "Node" [])⟩], []⟩

def nodes : Registry := ⟨"shapes", .default, [node]⟩

def tagged : Trial where
  name := "shapes"
  config := .default
  before := [.register node]
  kind := .record "Node" []
  after := []
  value := .object [("tag", .int 1), ("next", .object [("tag", .int 2), ("next", .null)])]

theorem registryAt?_tagged : tagged.caller.session.registryAt? 0 = some nodes :=
  Registry.eq_some_of_parts (by decide +kernel)

theorem fieldsOf_tag : ∃ e, nodes.fieldsOf ("Tag", []) = .error e := ⟨_, rfl⟩

theorem fieldsOf_node : nodes.fieldsOf ("Node", []) = .ok node.fields := by rfl

/-- The kinds that values of the trial may be held against. -/
def reached : List Kind :=
  [.record "Node" [], .optional (.record "Node" []), .nothing, .forward "Tag" [], .record "Tag" []]

theorem record_mem_reached {name : String} {args : List Kind} (h : .record name args ∈ reached) :
    (name, args) = ("Node", []) ∨ (name, args) = ("Tag", []) := by
  simpa [reached, Kind.optional] using h

theorem mem_reached {k part : Kind} (h : nodes.Reaches k part) (hk : k ∈ reached) :
    part ∈ reached := by
  induction h with
  | refl k => exact hk
  | item => simp [reached, Kind.optional] at hk
  | alternative hmem _ ih =>
    obtain rfl : _ = [Kind.record "Node" [], .nothing] := by
      simpa [reached, Kind.optional] using hk
    exact ih ((by decide : ∀ k ∈ [Kind.record "Node" [], .nothing], k ∈ reached) _ hmem)
  | field hfields hf _ ih =>
    rcases record_mem_reached hk with heq | heq
    · rw [heq, fieldsOf_node] at hfields
      cases hfields
      exact ih ((by decide : ∀ f ∈ node.fields, f.kind ∈ reached) _ hf)
    · obtain ⟨e, he⟩ := fieldsOf_tag
      rw [heq, he] at hfields
      cases hfields
  | behind _ ih =>
    obtain ⟨rfl, rfl⟩ : _ = "Tag" ∧ _ = [] := by
      simpa [reached, Kind.optional] using hk
    exact ih (by decide)

/-- The shape leaves itself, and can be derived; for the name there is no shape. -/
theorem leavesDerivable_tagged {name : String} {args : List Kind}
    (h : nodes.Reaches tagged.kind (.record name args)) : nodes.LeavesDerivable (name, args) := by
  have hnode : (nodes.start false ("Node", []) []).1 = .ok () := by decide +kernel
  rw [Registry.leavesDerivable_iff]
  rcases record_mem_reached (mem_reached h (by decide)) with heq | heq
  · rw [heq]
    intro _ c hc
    have hleft : nodes.left ("Node", []) = [("Node", [])] := by decide +kernel
    rw [hleft, List.mem_singleton] at hc
    rw [hc]
    exact hnode
  · rw [heq]
    intro _ c hc
    have hleft : nodes.left ("Tag", []) = [] := by decide +kernel
    rw [hleft] at hc
    cases hc

theorem tagged_insists : tagged.derived.1 = .made ∧
    tagged.caller.session.registryAt? 0 = some nodes ∧
    (∀ name args, nodes.Reaches tagged.kind (.record name args) → nodes.LeavesDerivable (name, args)) ∧
    tagged.Insists nodes := by
  have hmade : tagged.derived.1 = .made := by decide +kernel
  have hleaves : ∀ name args, nodes.Reaches tagged.kind (.record name args) →
      nodes.LeavesDerivable (name, args) := fun _ _ => leavesDerivable_tagged
  exact ⟨hmade, registryAt?_tagged, hleaves,
    (insists_of_leavesDerivable hmade registryAt?_tagged).2 hleaves⟩

/-- A shape that mentions itself with more arguments than it takes. -/
def wide : Shape :=
  ⟨"A", ["T"], [⟨"next", .optional (.record "A" [.leaf .int, .leaf .int])⟩], []⟩

def wides : Registry := ⟨"shapes", .default, [wide]⟩

def widening : Trial where
  name := "shapes"
  config := .default
  before := [.register wide]
  kind := .record "A" []
  after := []
  value := .object [("next", .object [("next", .null)])]

theorem registryAt?_widening : widening.caller.session.registryAt? 0 = some wides :=
  Registry.eq_some_of_parts (by decide +kernel)

/-- The check keeps nothing but the shape by itself, and is stopped where it insists. -/
theorem not_insists_widening : ¬ widening.Insists wides := by
  rintro ⟨⟨spec, c, s, hspec, hrun, hsame⟩, _⟩
  have hstopped : ∀ spec ∈ widening.caller.specs[widening.opening.specs.length]?,
      (Check.conformInsisting spec widening.value widening.caller.session).isNone = true ∧
      ∀ o ∈ Check.conform spec widening.value widening.caller.session, ∀ a ∈ o.2.kept 0,
        (wides.start false a []).1 = .ok () := by
    decide +kernel
  obtain ⟨hnone, hkept⟩ := hstopped spec hspec
  have hrun' := hsame fun _ a ha => (wides.derivable_iff a).mpr (hkept (c, s) hrun a ha)
  rw [hrun'] at hnone
  cases hnone

/-- The spec is made although a shape is mentioned that takes no such arguments; a check meets it. -/
theorem widening_made : widening.derived.1 = .made ∧ widening.after = [] ∧
    widening.caller.session.registryAt? 0 = some wides ∧
    (∃ b, wides.Mentions ("A", []) b ∧ wides.fieldsOf b = .error (.argumentCount "A" 1 2)) ∧
    widening.checked.1 = .conformed .invalid ∧ ¬ widening.Insists wides := by
  have hmentions : wides.Mentions ("A", []) ("A", [.leaf .int, .leaf .int]) :=
    ⟨wide.fields, by rfl, by decide⟩
  exact ⟨by decide +kernel, rfl, registryAt?_widening, ⟨_, hmentions, by rfl⟩, by decide +kernel,
    not_insists_widening⟩

end Trial

end Conform
