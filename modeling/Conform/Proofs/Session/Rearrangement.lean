import Conform.Proofs.Check.Rearrangement
import Conform.Proofs.Session.Direct
import Conform.Proofs.Session.Normal
/-!
Key order does not matter to derived specs. Whatever a spec stands for, holding it against a value and
against a rearrangement of it are two checks that go abreast, also behind lazy references. A record
that leaves no undeclared pairs in makes of both the same.
-/

namespace Conform

open Check (Abreast)
open Session (Sound SoundOver)
open Spec (HeldAbreast)

/-! ## References -/

section
variable {id : Nat} {r : Registry} {Q : Target → Prop} {cells : List Target} {n : Nat}

/-- The lazy references that the table knows are held against both values abreast. -/
def LazyHeldAbreast (id : Nat) (r : Registry) (Q : Target → Prop) (cells : List Target) (n : Nat) :
    Prop :=
  ∀ i reference v w, cells[reference.cell]? = some reference.target → reference.target.IsOf id →
    v.depth < n → v.Rearranged w →
      HeldAbreast (SoundOver id r Q cells) (.within n) (.deferred i reference) v w

theorem RecordForm.heldAbreast {config : DeriveConfig} {groups : List PlaceholderGroup}
    {keys : List (String × Spec)} {s : Spec} {I : Session → Prop} {d : Delegate} {v w : Value}
    (h : RecordForm config groups keys s) (hnames : (keys.map (·.1)).Nodup) (hvw : v.Rearranged w)
    (hkeys : ∀ key ∈ keys, ∀ u, v.get? key.1 = some u → ∀ u', u.Rearranged u' →
      HeldAbreast I d key.2 u u') : HeldAbreast I d s v w := by
  cases h with
  | plain i j label _ =>
    exact (Spec.heldAbreast_dict hnames hvw hkeys j config.extra).decorated i label
  | grouped i j k l label _ =>
    have hdict := Spec.heldAbreast_dict hnames hvw hkeys k config.extra
    refine (Spec.heldAbreast_allOf_pair hdict (fun v w hvw => ?_) j).decorated i label
    exact Spec.heldAbreast_consistency l groups hvw

mutual

theorem Stands.heldAbreast (hlazy : LazyHeldAbreast id r Q cells n) :
    ∀ {k : Kind} {s : Spec}, Stands id r Q cells k s → ∀ v w : Value, v.depth < n →
      v.Rearranged w → HeldAbreast (SoundOver id r Q cells) (.within n) s v w
  | _, _, .leaf i k, _, _, _, hvw => Spec.heldAbreast_isInstance i k hvw
  | _, _, .nothing i, _, _, _, hvw => Spec.heldAbreast_isInstance i .null hvw
  | _, _, .record h, v, w, hv, hvw => h.heldAbreast hlazy v w (Nat.le_of_lt hv) hvw
  | _, _, .lazyRecord i _ hcell, v, w, hv, hvw => hlazy i _ v w hcell rfl hv hvw
  | _, _, .forward i _ hcell, v, w, hv, hvw => hlazy i _ v w hcell rfl hv hvw
  | _, _, .list i h, _, _, hv, hvw =>
    Spec.heldAbreast_collOf hvw (fun _ hitems u hu u' huu' =>
      h.heldAbreast hlazy u u' (Nat.lt_trans (Value.depth_lt_of_mem_items hitems hu) hv) huu') i
  | _, _, .union i h, v, w, hv, hvw => Spec.heldAbreast_oneOf (h.heldAbreast hlazy v w hv hvw) i
  | _, _, .placeholder i p, _, _, _, hvw => Spec.heldAbreast_unbound i p hvw

theorem StandAll.heldAbreast (hlazy : LazyHeldAbreast id r Q cells n) :
    ∀ {ks : List Kind} {ss : List Spec}, StandAll id r Q cells ks ss → ∀ v w : Value, v.depth < n →
      v.Rearranged w → ∀ s ∈ ss, HeldAbreast (SoundOver id r Q cells) (.within n) s v w
  | _, _, .nil, _, _, _, _ => fun _ hs => absurd hs List.not_mem_nil
  | _, _, .cons h hs, v, w, hv, hvw =>
    List.forall_mem_cons.mpr ⟨h.heldAbreast hlazy v w hv hvw, hs.heldAbreast hlazy v w hv hvw⟩

theorem StandFields.heldAbreast (hlazy : LazyHeldAbreast id r Q cells n) :
    ∀ {fields : List Field} {keys : List (String × Spec)}, StandFields id r Q cells fields keys →
      ∀ v : Value, v.depth ≤ n → ∀ key ∈ keys, ∀ u, v.get? key.1 = some u → ∀ u', u.Rearranged u' →
        HeldAbreast (SoundOver id r Q cells) (.within n) key.2 u u'
  | _, _, .nil, _, _ => fun _ hkey => absurd hkey List.not_mem_nil
  | _, _, .cons h hs, v, hv =>
    List.forall_mem_cons.mpr ⟨
      fun u hu u' huu' => h.heldAbreast hlazy u u'
        (Nat.lt_of_lt_of_le (Value.depth_lt_of_get? hu) hv) huu',
      hs.heldAbreast hlazy v hv⟩

theorem StandsRecord.heldAbreast (hlazy : LazyHeldAbreast id r Q cells n) :
    ∀ {a : Applied} {s : Spec}, StandsRecord id r Q cells a s → ∀ v w : Value, v.depth ≤ n →
      v.Rearranged w → HeldAbreast (SoundOver id r Q cells) (.within n) s v w
  | _, _, .mk _ hfields hkeys hform, v, _, hv, hvw =>
    hform.heldAbreast (hkeys.names_eq ▸ Registry.distinct_fieldsOf hfields) hvw
      (hkeys.heldAbreast hlazy v hv)

end

theorem Answers.heldAbreast (hlazy : LazyHeldAbreast id r Q cells n) {target : Target} {s : Spec}
    (h : Answers id r Q cells target s) {v w : Value} (hv : v.depth ≤ n) (hvw : v.Rearranged w) :
    HeldAbreast (SoundOver id r Q cells) (.within n) s v w := by
  cases h with
  | shape h => exact h.heldAbreast hlazy v w hv hvw
  | forward _ h => exact h.heldAbreast hlazy v w hv hvw
  | builtin i _ _ => exact Spec.heldAbreast_isInstance i _ hvw

/-- Both checks look behind the reference in the same session, so they find the same. The induction is
on how many references are left to go through. -/
theorem deferred_heldAbreast (hQ : Closed id r Q) (n : Nat) (cells : List Target) :
    LazyHeldAbreast id r Q cells n := by
  induction n generalizing cells with
  | zero => exact fun _ _ _ _ _ _ hv => absurd hv (Nat.not_lt_zero _)
  | succ n ih =>
    rintro i reference v w hcell htarget hv hvw s ⟨more, hmore, hsound⟩
    rw [Spec.conformWith_deferred, Spec.conformWith_deferred]
    rcases hQ.look hsound (cell_mono hmore hcell) htarget with
      ⟨spec, t, cells', hrun, hcells, hsound', hanswers⟩ | ⟨e, t, cells', hrun, hcells, hsound', _⟩
    · rw [hrun]
      obtain ⟨c, c', u, hc, hc', hcc', more', hmore', hu⟩ :=
        hanswers.heldAbreast (ih cells') (Nat.le_of_lt_succ hv) hvw t
          ⟨cells', List.prefix_refl _, hsound'⟩
      exact ⟨c, c', u, hc, hc', hcc', more', (hmore.trans hcells).trans hmore', hu⟩
    · rw [hrun]
      exact ⟨.invalid, .invalid, t, rfl, rfl, .invalid, cells', hmore.trans hcells, hsound'⟩

end

/-! ## Records that leave nothing undeclared in -/

namespace Spec

variable {d : Delegate} {v w : Value} {ps qs : List (String × Value)}

theorem conformKeys_congr (h : ∀ key, v.get? key = w.get? key) (keys : List (String × Spec)) :
    conformKeys d keys v = conformKeys d keys w := by
  induction keys with
  | nil =>
    unfold conformKeys
    rfl
  | cons key keys ih =>
    obtain ⟨name, s⟩ := key
    unfold conformKeys
    rw [h name, ih]

/-- Such a dictionary takes the pairs it declares one by one, and asks of the others only whether
there are any. -/
theorem conformWith_dict_moved (hmoved : Value.Moved ps qs) {extra : ExtraFields}
    (hextra : extra ≠ .allow) (i : Instance) (keys : List (String × Spec)) :
    conformWith d (dict i keys extra) (.object ps) = conformWith d (dict i keys extra) (.object qs) := by
  have hkeys : conformKeys d keys (.object ps) = conformKeys d keys (.object qs) := by
    refine conformKeys_congr (fun key => ?_) keys
    exact hmoved.lookup_eq key
  have hothers : conformExtra extra (undeclared keys ps) = conformExtra extra (undeclared keys qs) := by
    cases extra with
    | ignore => rfl
    | allow => exact absurd rfl hextra
    | forbid =>
      rcases hmoved.filter fun pair => !isDeclared keys pair.1 with heq | ⟨_, hperm⟩
      · exact congrArg (conformExtra .forbid) heq
      · unfold conformExtra undeclared
        simp only [hperm.isEmpty_eq]
  conv => lhs; unfold conformWith
  conv => rhs; unfold conformWith
  simp only [hkeys, hothers]

end Spec

theorem RecordForm.conformWith_moved {config : DeriveConfig} {groups : List PlaceholderGroup}
    {keys : List (String × Spec)} {s : Spec} (h : RecordForm config groups keys s)
    (hextra : config.extra ≠ .allow) (d : Delegate) {ps qs : List (String × Value)}
    (hmoved : Value.Moved ps qs) :
    s.conformWith d (.object ps) = s.conformWith d (.object qs) := by
  cases h with
  | plain i j label _ =>
    rw [Spec.conformWith_decorated, Spec.conformWith_decorated]
    exact Spec.conformWith_dict_moved hmoved hextra j keys
  | grouped i j k l label _ =>
    have hdict := Spec.conformWith_dict_moved (d := d) hmoved hextra k keys
    rw [Spec.conformWith_decorated, Spec.conformWith_decorated]
    conv => lhs; unfold Spec.conformWith
    conv => rhs; unfold Spec.conformWith
    conv => lhs; unfold Spec.conformThrough
    conv => rhs; unfold Spec.conformThrough
    rw [hdict]

/-- The kind is a shape of the registry, referred to either way. -/
def Kind.IsRecord (r : Registry) : Kind → Prop
  | record _ _ => True
  | forward name _ => r.contains name = true
  | _ => False

section
variable {id : Nat} {r : Registry} {cells : List Target} {s : Spec} {ps qs : List (String × Value)}

theorem StandsRecord.conformWith_moved {Q : Target → Prop} {a : Applied}
    (h : StandsRecord id r Q cells a s) (hextra : r.config.extra ≠ .allow) (d : Delegate)
    (hmoved : Value.Moved ps qs) : s.conformWith d (.object ps) = s.conformWith d (.object qs) := by
  cases h with
  | mk _ _ _ hform => exact hform.conformWith_moved hextra d hmoved

/-- Two values are held against a lazy reference alike if they are against what is found there. -/
theorem Closed.conformWith_behind {Q : Target → Prop} (hQ : Closed id r Q) {reference : Reference}
    (hcell : cells[reference.cell]? = some reference.target) (htarget : reference.target.IsOf id)
    {n : Nat} {v w : Value}
    (h : ∀ {cells' spec}, Answers id r Q cells' reference.target spec →
      spec.conformWith (.within n) v = spec.conformWith (.within n) w)
    (i : Instance) {session : Session} (hsound : Sound id r Q cells session) :
    Spec.conformWith (.within (n + 1)) (.deferred i reference) v session =
      Spec.conformWith (.within (n + 1)) (.deferred i reference) w session := by
  rw [Spec.conformWith_deferred, Spec.conformWith_deferred]
  rcases hQ.look hsound hcell htarget with
    ⟨spec, t, cells', hrun, _, _, hanswers⟩ | ⟨e, t, cells', hrun, _, _, _⟩
  · rw [hrun]
    exact congrFun (h hanswers) t
  · rw [hrun]

/-- The spec of a shape makes the same of an object whatever the order of its pairs. -/
theorem Stands.conformWith_moved {k : Kind} (h : Stands id r r.BuiltinUnregistered cells k s)
    (hk : k.IsRecord r) (hextra : r.config.extra ≠ .allow) (n : Nat) (hmoved : Value.Moved ps qs)
    {session : Session} (hsound : Sound id r r.BuiltinUnregistered cells session) :
    s.conformWith (.within (n + 1)) (.object ps) session =
      s.conformWith (.within (n + 1)) (.object qs) session := by
  have hQ := closed_builtinUnregistered id r
  cases h with
  | record h => rw [h.conformWith_moved hextra _ hmoved]
  | lazyRecord i label hcell =>
    refine hQ.conformWith_behind hcell ?_ (fun hanswers => ?_) i hsound
    · exact rfl
    cases hanswers with
    | shape h => exact h.conformWith_moved hextra _ hmoved
  | forward i label hcell =>
    refine hQ.conformWith_behind hcell ?_ (fun hanswers => ?_) i hsound
    · exact rfl
    cases hanswers with
    | forward _ h => exact h.conformWith_moved hextra _ hmoved
    | builtin i hunregistered _ => cases hk.symm.trans hunregistered
  | leaf | nothing | list | union | placeholder => exact hk.elim

end

/-! ## Callers -/

namespace Caller

variable {r : Registry} {kinds : List Kind} {c : Caller} {v w : Value}

/-- At any moment the outcomes for the two values are rearranged. For a shape that leaves nothing
undeclared in they are the same, if only the pairs of the object itself were moved. -/
theorem Sound.conform_abreast (h : c.Sound 0 r r.BuiltinUnregistered kinds) {i : Nat} {k : Kind}
    (hkind : kinds[i]? = some k) (hvw : v.Rearranged w) :
    ∃ outcome outcome' c', c.call 0 (.conform i v) = (.conformed outcome, c') ∧
      c.call 0 (.conform i w) = (.conformed outcome', c') ∧ outcome.Rearranged outcome' ∧
      (r.config.extra ≠ .allow → k.IsRecord r → ∀ ps qs, v = .object ps → w = .object qs →
        Value.Moved ps qs → outcome = outcome') := by
  obtain ⟨cells, hsound, hspecs⟩ := h
  obtain ⟨spec, hspec, hstands⟩ := hspecs.of_kind hkind
  have hreach : Check.reach w c.session = Check.reach v c.session := by
    unfold Check.reach
    rw [hvw.depth_eq]
  have hdepth := Check.depth_lt_reach v c.session
  have hlazy := deferred_heldAbreast (closed_builtinUnregistered 0 r) (Check.reach v c.session) cells
  obtain ⟨outcome, outcome', s, hv, hw, houtcome, _⟩ :=
    hstands.heldAbreast hlazy v w hdepth hvw c.session ⟨cells, List.prefix_refl _, hsound⟩
  have hconform : Check.conform spec v c.session = some (outcome, s) := hv
  have hconform' : Check.conform spec w c.session = some (outcome', s) := by
    unfold Check.conform
    rw [hreach]
    exact hw
  refine ⟨outcome, outcome', ⟨s, c.specs⟩, ?_, ?_, houtcome, ?_⟩
  · simp only [Caller.call, hspec, hconform]
  · simp only [Caller.call, hspec, hconform']
  · rintro hextra hk ps qs rfl rfl hmoved
    obtain ⟨n, hn⟩ : ∃ n, Check.reach (.object ps) c.session = n + 1 :=
      ⟨_, (Nat.succ_pred_eq_of_pos (Nat.zero_lt_of_lt hdepth)).symm⟩
    have hsame := hstands.conformWith_moved hk hextra n hmoved hsound
    rw [hn] at hv hw
    rw [hv, hw] at hsame
    exact congrArg Prod.fst (Option.some.inj hsame)

/-- Key order does not matter to a derived spec. A value and its rearrangement are both accepted or
both rejected, and what is made of them is rearranged; a record that leaves nothing undeclared in makes
the same of an object whose pairs were moved. The checks may be made at different moments if the
registry and the kind are well formed. -/
theorem conform_rearranged {before : List Call} {k : Kind} {d : Caller}
    (hmade : ((Caller.of r).run 0 before).2.call 0 (.specFor k) = (.made, d))
    (hvw : v.Rearranged w) {after after' : List Call}
    (hwhen : after' = after ∨ r.WellFormed ∧ k.WellFormed r) :
    let spec := ((Caller.of r).run 0 before).2.specs.length
    ∃ outcome outcome',
      ((d.run 0 after).2.call 0 (.conform spec v)).1 = .conformed outcome ∧
      ((d.run 0 after').2.call 0 (.conform spec w)).1 = .conformed outcome' ∧
      outcome.Rearranged outcome' ∧
      (r.config.extra ≠ .allow → k.IsRecord r → ∀ ps qs, v = .object ps → w = .object qs →
        Value.Moved ps qs → outcome = outcome') := by
  intro spec
  have hQ := closed_builtinUnregistered 0 r
  obtain ⟨kinds, hc⟩ := (Sound.of r r.BuiltinUnregistered).run hQ before
  have hd : d.Sound 0 r r.BuiltinUnregistered ([] ++ kinds ++ [k]) := by
    rcases hc.specFor (k := k) (hQ.attemptAll k.records fun _ ha => hc.kept ha) with
      ⟨_, c', hcall, hc'⟩ | ⟨e, _, c', hcall, _⟩
    · cases hmade.symm.trans hcall
      exact hc'
    · cases hmade.symm.trans hcall
  obtain ⟨more, hafter⟩ := hd.run hQ after
  obtain ⟨outcome, outcome', c', hv, hw, houtcome, hsame⟩ :=
    hafter.conform_abreast (hc.kind_of_next k more) hvw
  refine ⟨outcome, outcome', congrArg Prod.fst hv, ?_, houtcome, hsame⟩
  rcases hwhen with rfl | ⟨hr, hk⟩
  · exact congrArg Prod.fst hw
  · -- What the spec of a well-formed kind answers does not depend on the moment.
    obtain ⟨d', hcall, hmeans⟩ := hc.specFor_means hr hk
    cases hmade.symm.trans hcall
    have hw' := ((hmeans after).1 w).symm.trans (congrArg Prod.fst hw)
    rw [(hmeans after').1 w]
    exact hw'

end Caller

/-- A node of the chain with the pairs of the node behind it. -/
def Value.nodeBefore (next : List (String × Value)) : List (String × Value) :=
  [("name", .string "a"), ("note", .string "b"), ("value", .int 1), ("next", .object next)]

def Value.lastNode : List (String × Value) :=
  [("name", .string "c"), ("note", .string "d"), ("value", .int 2), ("next", .null)]

/-- Both nodes with their pairs in reverse. -/
theorem Value.rearranged_reverse :
    (Value.object (nodeBefore lastNode)).Rearranged
      (.object (nodeBefore lastNode.reverse).reverse) := by
  have hlast : (Value.object lastNode).Rearranged (.object lastNode.reverse) :=
    .of_perm (by decide) (List.reverse_perm _).symm
  have hpairs : List.Forall₂ Value.Paired (nodeBefore lastNode) (nodeBefore lastNode.reverse) :=
    .cons ⟨rfl, .refl _⟩ (.cons ⟨rfl, .refl _⟩ (.cons ⟨rfl, .refl _⟩ (.cons ⟨rfl, hlast⟩ .nil)))
  exact .object hpairs (.inr ⟨by decide, (List.reverse_perm _).symm⟩)

/-- A chain of two numbers, held against the spec before and after other calls. -/
theorem Caller.conform_rearranged_chain :
    let k := Kind.record "Node" [.leaf .int]
    let c := ((Caller.of .chain).run 0 [.derive "Missing" []]).2
    let d := (c.call 0 (.specFor k)).2
    let v := Value.object (Value.nodeBefore Value.lastNode)
    let w := Value.object (Value.nodeBefore Value.lastNode.reverse).reverse
    c.call 0 (.specFor k) = (.made, d) ∧ v.Rearranged w ∧
      Registry.chain.WellFormed ∧ k.WellFormed .chain ∧
      ∃ outcome outcome',
        ((d.run 0 []).2.call 0 (.conform c.specs.length v)).1 = .conformed outcome ∧
        ((d.run 0 [.conform 0 v, .derive "Named" []]).2.call 0 (.conform c.specs.length w)).1 =
          .conformed outcome' ∧
        outcome.Rearranged outcome' ∧
        (Registry.chain.config.extra ≠ .allow → k.IsRecord .chain → ∀ ps qs, v = .object ps →
          w = .object qs → Value.Moved ps qs → outcome = outcome') :=
  have hmade : ((Caller.of .chain).run 0 [.derive "Missing" []]).2.call 0
      (.specFor (.record "Node" [.leaf .int])) =
        (.made, (((Caller.of .chain).run 0 [.derive "Missing" []]).2.call 0
          (.specFor (.record "Node" [.leaf .int]))).2) :=
    Prod.ext (by decide +kernel) rfl
  have hk : (Kind.record "Node" [.leaf .int]).WellFormed .chain := by decide +kernel
  ⟨hmade, Value.rearranged_reverse, Registry.wellFormed_chain, hk,
    conform_rearranged hmade Value.rearranged_reverse (.inr ⟨Registry.wellFormed_chain, hk⟩)⟩

end Conform
