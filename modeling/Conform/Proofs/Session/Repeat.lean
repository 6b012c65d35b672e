import Conform.Proofs.Check.Repeat
import Conform.Proofs.Kind.Throughout
/-!
Derived specs are checked again with the same answer. A reference that was looked behind in vain
stays so, as long as nothing was kept in the meantime but shapes that can be derived by themselves; a
reference that was found is found in its cell.
-/

namespace Conform

open Session (Came Ended StaysOver SoundOver Sound Tallies Resolved)
open Check (Ensures)

/-! ## References -/

namespace Session

section
variable {id : Nat} {r : Registry} {Q : Target → Prop} {s t : Session} {cells : List Target}
  {reference : Reference}

theorem Tallies.mem_kept {done : List Applied} (h : Tallies id r t done)
    (hmemoize : r.config.memoize = true) {a : Applied} : a ∈ done ↔ a ∈ t.kept id :=
  (h hmemoize a).trans (Session.mem_kept t id a).symm

theorem Came.of_sound (h : Sound id r Q cells s) : Came id r Q s cells s where
  sound := h
  grows := .refl s
  found hfilled hnone _ := by cases hfilled.symm.trans hnone

/-- What was found up to then is found later on. -/
theorem Came.found_mono (h : Came id r Q s cells t) {t' : Session} {cells' : List Target}
    (hcells : cells <+: cells') (hgrows : t.Grows t') {cell : Nat} {spec : Spec} {target : Target}
    (hfilled : t.filled.lookup cell = some spec) (hnone : s.filled.lookup cell = none)
    (htarget : cells'[cell]? = some target) : r.Found target (t'.kept id) := by
  obtain ⟨target', hcell, _⟩ := h.sound.filled hfilled
  obtain rfl := Option.some.inj ((cell_mono hcells hcell).symm.trans htarget)
  exact (h.found hfilled hnone hcell).mono (hgrows.kept id)

theorem Came.not_filled (h : Came id r Q s cells t) {cell : Nat}
    (hnone : t.filled.lookup cell = none) : s.filled.lookup cell = none := by
  cases hfilled : s.filled.lookup cell with
  | none => rfl
  | some spec => cases (h.grows.filled hfilled).symm.trans hnone

/-- A reference that was looked behind in vain during a check is looked behind in vain after it. -/
theorem Came.missing (hQ : Closed id r Q) (hcame : Came id r Q s cells t)
    (hcell : cells[reference.cell]? = some reference.target) (htarget : reference.target.IsOf id)
    {e : SpecError} {t' : Session} {cells' : List Target}
    (hnone : t.filled.lookup reference.cell = none)
    (hseek : (r.seek r.config.memoize reference.target (t.kept id)).1 = .error e)
    (hcells : cells <+: cells')
    (htallies : Tallies id r t' (r.seek r.config.memoize reference.target (t.kept id)).2)
    {final : Session} {cellsₑ : List Target} (hcellsₑ : cells' <+: cellsₑ) (hgrows : t'.Grows final)
    (hended : Ended id r Q s cellsₑ final) {u : Session} (hu : StaysOver id r Q final cellsₑ u) :
    ∃ u', (resolve reference).run u = (.error e, u') ∧ StaysOver id r Q final cellsₑ u' := by
  obtain ⟨cellsᵤ, hstays⟩ := hu
  -- Whatever is kept by then, a look behind the reference ends as it did.
  have hagain : ∀ {later : List Applied}, final.kept id ⊆ later →
      (r.config.memoize = true → later ⊆ final.kept id) →
      (r.seek r.config.memoize reference.target later).1 = .error e ∧
        (r.config.memoize = true →
          (r.seek r.config.memoize reference.target later).2 ⊆ later) := by
    intro later hlater hbound
    refine Registry.seek_replay (Prod.ext hseek rfl : _ = (_, _)) fun hmemoize => ⟨?_, ?_⟩
    · intro a ha
      exact hlater (hgrows.kept id ((htallies.mem_kept hmemoize).mp ha))
    · intro b hb hnew
      exact (hended.alone hmemoize).mono (hcame.grows.kept id) b (hbound hmemoize hb) hnew
  have hfilled : u.filled.lookup reference.cell = none := by
    rw [hstays.filled]
    cases hfound : final.filled.lookup reference.cell with
    | none => rfl
    | some spec =>
      have hcellₑ := cell_mono (hcells.trans hcellsₑ) hcell
      have hok := hended.found hfound (hcame.not_filled hnone) hcellₑ _ fun _ _ ha => ha
      cases hok.symm.trans (hagain (fun _ ha => ha) fun _ _ ha => ha).1
  obtain ⟨hseekᵤ, hdoneᵤ⟩ := hagain (hstays.grows.kept id) hstays.kept
  have hcellᵤ := cell_mono (hcells.trans (hcellsₑ.trans hstays.cells)) hcell
  have hresolved := resolved hQ.builtin hstays.sound (tallies_kept u) hcellᵤ htarget
    (hQ.seek _ _ htarget fun _ ha => hstays.sound.kept ha)
  generalize (resolve reference).run u = o at hresolved ⊢
  cases hresolved with
  | known hknown => cases hknown.symm.trans hfilled
  | found _ hok => cases hok.symm.trans hseekᵤ
  | @missing e' u' cells'' _ he hcells'' hsound htallies' hgrows' hsame =>
    cases he.symm.trans hseekᵤ
    refine ⟨u', rfl, cells'', hsound, hstays.cells.trans hcells'', hstays.grows.trans hgrows',
      hsame.trans hstays.filled, fun hmemoize a ha => ?_⟩
    exact hstays.kept hmemoize (hdoneᵤ hmemoize ((htallies'.mem_kept hmemoize).mpr ha))

/-- A look behind a reference takes a check further; what it comes to is what it comes to after the
check has ended. -/
theorem Came.look (hQ : Closed id r Q) (hcame : Came id r Q s cells t)
    (hcell : cells[reference.cell]? = some reference.target) (htarget : reference.target.IsOf id) :
    (∃ spec t' cells', (resolve reference).run t = (.ok spec, t') ∧ cells <+: cells' ∧
      t.Grows t' ∧ Came id r Q s cells' t' ∧ t'.filled.lookup reference.cell = some spec ∧
      Answers id r Q cells' reference.target spec) ∨
    ∃ e t' cells', (resolve reference).run t = (.error e, t') ∧ cells <+: cells' ∧
      t.Grows t' ∧ Came id r Q s cells' t' ∧
      ∀ {final cellsₑ}, cells' <+: cellsₑ → t'.Grows final → Ended id r Q s cellsₑ final →
        ∀ {u}, StaysOver id r Q final cellsₑ u →
          ∃ u', (resolve reference).run u = (.error e, u') ∧ StaysOver id r Q final cellsₑ u' := by
  have hresolved := resolved hQ.builtin hcame.sound (tallies_kept t) hcell htarget
    (hQ.seek _ _ htarget fun _ ha => hcame.sound.kept ha)
  generalize (resolve reference).run t = o at hresolved ⊢
  cases hresolved with
  | @known spec hfilled hanswers =>
    exact .inl ⟨spec, t, cells, rfl, List.prefix_refl _, .refl t, hcame, hfilled, hanswers⟩
  | @found spec t' cells' hnone hok hcells hsound htallies hgrows hfilled hanswers =>
    have hlookup : ∀ cell, t'.filled.lookup cell =
        (t.filled.lookup cell).or (if cell = reference.cell then some spec else none) := by
      intro cell
      rw [hfilled, lookup_concat]
    refine .inl ⟨spec, t', cells', rfl, hcells, hgrows, ⟨hsound, hcame.grows.trans hgrows, ?_⟩,
      ?_, hanswers⟩
    · intro cell found target hfound hnew htarget'
      rw [hlookup] at hfound
      rcases Option.or_eq_some_iff.mp hfound with hold | ⟨_, hlast⟩
      · exact hcame.found_mono hcells hgrows hold hnew htarget'
      · split at hlast
        · next heq =>
          subst heq
          obtain rfl := Option.some.inj ((cell_mono hcells hcell).symm.trans htarget')
          intro later hlater
          refine Registry.seek_again (Prod.ext hok rfl : _ = (_, _)) fun hmemoize a ha => ?_
          exact hlater hmemoize ((htallies.mem_kept hmemoize).mp ha)
        · cases hlast
    · rw [hlookup, hnone, if_pos rfl]
      rfl
  | @missing e t' cells' hnone herror hcells hsound htallies hgrows hsame =>
    refine .inr ⟨e, t', cells', rfl, hcells, hgrows, ⟨hsound, hcame.grows.trans hgrows, ?_⟩, ?_⟩
    · intro cell found target hfound hnew htarget'
      rw [hsame] at hfound
      exact hcame.found_mono hcells hgrows hfound hnew htarget'
    · intro final cellsₑ hcellsₑ hgrowsₑ hended u hu
      exact hcame.missing hQ hcell htarget hnone herror hcells htallies hcellsₑ hgrowsₑ hended hu

end

end Session

/-! ## Derived specs -/

namespace Kind

/-- No union that a value may come to be held against is without alternatives. -/
def HasAlternatives (r : Registry) (k : Kind) : Prop := ∀ part, r.Reaches k part → part ≠ .union []

section
variable {r : Registry}

theorem HasAlternatives.item {item : Kind} (h : (list item).HasAlternatives r) :
    item.HasAlternatives r :=
  fun part hpart => h part (.item hpart)

theorem HasAlternatives.alternative {ks : List Kind} (h : (union ks).HasAlternatives r) :
    ∀ k ∈ ks, k.HasAlternatives r :=
  fun _ hk part hpart => h part (.alternative hk hpart)

theorem HasAlternatives.field {name : String} {args : List Kind}
    (h : (record name args).HasAlternatives r) {fields : List Field}
    (hfields : r.fieldsOf (name, args) = .ok fields) : ∀ f ∈ fields, f.kind.HasAlternatives r :=
  fun _ hf part hpart => h part (.field hfields hf hpart)

theorem HasAlternatives.behind {name : String} {args : List Kind}
    (h : (forward name args).HasAlternatives r) : (record name args).HasAlternatives r :=
  fun part hpart => h part (.behind hpart)

theorem steady_ne_union_nil : Steady (· ≠ .union []) := by
  intro bindings k hk hne h
  cases k with
  | leaf | nothing | record | forward | list => cases h
  | placeholder p => exact hk p rfl
  | union ks =>
    cases ks with
    | nil => exact hne rfl
    | cons k ks => cases h

/-- It is enough if neither the kind nor any that a shape mentions contains an empty union. -/
theorem hasAlternatives_of_throughout
    (hr : ∀ shape ∈ r.shapes, ∀ k ∈ shape.kinds, k.Throughout (· ≠ .union [])) {k : Kind}
    (hk : k.Throughout (· ≠ .union [])) : k.HasAlternatives r := by
  intro part hpart
  induction hpart with
  | refl k => exact hk.self
  | item _ ih => exact ih (throughout_list.mp hk).2
  | alternative hmem _ ih => exact ih ((throughout_union.mp hk).2 _ hmem)
  | field hfields hf _ ih =>
    exact ih (Registry.throughout_fieldsOf steady_ne_union_nil hr (throughout_record.mp hk).2
      hfields _ hf)
  | behind _ ih =>
    obtain ⟨_, hargs⟩ := throughout_forward.mp hk
    exact ih (throughout_record.mpr ⟨(fun h => by cases h), hargs⟩)

end

end Kind

/-- The same of the kind of what is referred to. -/
def Target.HasAlternatives (r : Registry) : Target → Prop
  | shape _ name args | forward _ name args => (Kind.record name args).HasAlternatives r
  | bound _ => True

section
variable {id : Nat} {r : Registry} {Q : Target → Prop} {s : Session} {base cells : List Target}
  {d d' : Delegate} {n : Nat}

/-- The lazy references that the table knows are repeatable, for values less than `n` deep. -/
def LazyRepeatable (id : Nat) (r : Registry) (Q : Target → Prop) (s : Session) (base : List Target)
    (d d' : Delegate) (n : Nat) : Prop :=
  ∀ i reference w, base[reference.cell]? = some reference.target → reference.target.IsOf id →
    reference.target.HasAlternatives r → w.depth < n →
      Spec.Repeatable id r Q s base d d' (.deferred i reference) w

mutual

/-- Derived specs are repeatable if the lazy references in them are. -/
theorem Stands.repeatable
    (hlazy : LazyRepeatable id r Q s base d d' n) :
    ∀ {k : Kind} {spec : Spec}, Stands id r Q base k spec → k.HasAlternatives r →
      ∀ v : Value, v.depth < n → Spec.Repeatable id r Q s base d d' spec v
  | _, _, .leaf i k, _, v, _ => Spec.repeatable_isInstance i k v
  | _, _, .nothing i, _, v, _ => Spec.repeatable_isInstance i .null v
  | _, _, .record h, hk, v, hv =>
    h.repeatable hlazy hk v (Nat.le_of_lt hv)
  | _, _, .lazyRecord i _ hcell, hk, v, hv =>
    hlazy i _ v hcell rfl hk hv
  | _, _, .forward i _ hcell, hk, v, hv =>
    hlazy i _ v hcell rfl hk.behind hv
  | _, _, .list i h, hk, _, hv =>
    Spec.repeatable_collOf (fun _ hitems w hw =>
      h.repeatable hlazy hk.item w
        (Nat.lt_trans (Value.depth_lt_of_mem_items hitems hw) hv)) i
  | _, _, .union i h, hk, v, hv => by
    refine Spec.repeatable_oneOf (fun hnil => ?_) (h.repeatable hlazy hk.alternative v hv) i
    subst hnil
    cases h
    exact hk _ (.refl _) rfl
  | _, _, .placeholder i p, _, v, _ => Spec.repeatable_unbound i p v

theorem StandAll.repeatable
    (hlazy : LazyRepeatable id r Q s base d d' n) :
    ∀ {ks : List Kind} {specs : List Spec}, StandAll id r Q base ks specs →
      (∀ k ∈ ks, k.HasAlternatives r) → ∀ v : Value, v.depth < n →
        ∀ spec ∈ specs, Spec.Repeatable id r Q s base d d' spec v
  | _, _, .nil, _, _, _ => fun _ hmem => absurd hmem List.not_mem_nil
  | _, _, .cons h hs, hks, v, hv =>
    List.forall_mem_cons.mpr ⟨h.repeatable hlazy (hks _ List.mem_cons_self) v hv,
      hs.repeatable hlazy (fun k hk => hks k (List.mem_cons_of_mem _ hk)) v hv⟩

theorem StandFields.repeatable
    (hlazy : LazyRepeatable id r Q s base d d' n) :
    ∀ {fields : List Field} {keys : List (String × Spec)}, StandFields id r Q base fields keys →
      (∀ f ∈ fields, f.kind.HasAlternatives r) → ∀ v : Value, v.depth ≤ n →
        ∀ key ∈ keys, ∀ w, v.get? key.1 = some w → Spec.Repeatable id r Q s base d d' key.2 w
  | _, _, .nil, _, _, _ => fun _ hmem => absurd hmem List.not_mem_nil
  | _, _, .cons h hs, hfields, v, hv =>
    List.forall_mem_cons.mpr ⟨
      fun w hw => h.repeatable hlazy (hfields _ List.mem_cons_self) w
        (Nat.lt_of_lt_of_le (Value.depth_lt_of_get? hw) hv),
      hs.repeatable hlazy (fun f hf => hfields f (List.mem_cons_of_mem _ hf)) v hv⟩

theorem StandsRecord.repeatable
    (hlazy : LazyRepeatable id r Q s base d d' n) :
    ∀ {a : Applied} {spec : Spec}, StandsRecord id r Q base a spec →
      (Kind.record a.1 a.2).HasAlternatives r → ∀ v : Value, v.depth ≤ n →
        Spec.Repeatable id r Q s base d d' spec v
  | _, _, .mk _ hfields hkeys hform, ha, v, hv =>
    Spec.repeatable_record hform (hkeys.repeatable hlazy (ha.field hfields) v hv)

end

theorem Answers.repeatable (hlazy : LazyRepeatable id r Q s base d d' n)
    {target : Target} {spec : Spec} (h : Answers id r Q base target spec)
    (htarget : target.HasAlternatives r) (v : Value) (hv : v.depth ≤ n) :
    Spec.Repeatable id r Q s base d d' spec v := by
  cases h with
  | shape h | forward _ h => exact h.repeatable hlazy htarget v hv
  | builtin i _ _ => exact Spec.repeatable_isInstance i _ v

/-- What is in the cell of a reference speaks for the reference. -/
theorem Spec.Repeats.deferred {spec : Spec} {v : Value} {e : Session} {cellsₑ : List Target}
    {c : Conformed} {i : Instance} {reference : Reference}
    (h : Repeats id r Q cells (.within n) spec v e cellsₑ c) (hbase : base <+: cells)
    (hfilled : e.filled.lookup reference.cell = some spec) :
    Repeats id r Q base (.within (n + 1)) (.deferred i reference) v e cellsₑ c := by
  have hresolve : ∀ {u}, StaysOver id r Q e cellsₑ u →
      (Session.resolve reference).run u = (.ok spec, u) := by
    rintro u ⟨_, hstays⟩
    rw [Session.run_resolve, hstays.filled, hfilled]
  refine ⟨fun u hu => ?_, fun hvalid path u hu => ?_, fun hinvalid path u hu => ?_⟩
  · rw [conformWith_deferred, hresolve hu]
    exact h.again u hu
  · rw [explainWith_deferred, hresolve hu]
    exact h.silent hvalid path u hu
  · rw [explainWith_deferred, hresolve hu]
    obtain ⟨problems, u', hrun, hne, more, hmore, hsound⟩ := h.blamed hinvalid path u hu
    exact ⟨problems, u', hrun, hne, more, hbase.trans hmore, hsound⟩

/-- A reference with nothing behind it is to blame itself. -/
theorem Spec.repeats_unresolved {v : Value} {e : Session} {cellsₑ : List Target} {error : SpecError}
    {i : Instance} {reference : Reference} (hbase : base <+: cellsₑ)
    (hresolve : ∀ {u}, StaysOver id r Q e cellsₑ u →
      ∃ u', (Session.resolve reference).run u = (.error error, u') ∧ StaysOver id r Q e cellsₑ u') :
    Repeats id r Q base (.within (n + 1)) (.deferred i reference) v e cellsₑ .invalid := by
  refine ⟨fun u hu => ?_, (fun h => by cases h), fun _ path u hu => ?_⟩
  · obtain ⟨u', hrun, hu'⟩ := hresolve hu
    rw [conformWith_deferred, hrun]
    exact ⟨rfl, hu'⟩
  · obtain ⟨u', hrun, more, hstays⟩ := hresolve hu
    refine ⟨[⟨path, v, .deferred i reference, "unresolved reference: " ++ error.message⟩], u', ?_,
      List.cons_ne_nil _ _, more, hbase.trans hstays.cells, hstays.sound⟩
    rw [explainWith_deferred, hrun]

theorem deferred_repeatable (hQ : Closed id r Q) (depth : Nat)
    (base : List Target) {n m : Nat} (hn : depth ≤ n) (hm : depth ≤ m) :
    LazyRepeatable id r Q s base (.within n) (.within m) depth := by
  induction depth generalizing base n m with
  | zero => exact fun _ _ _ _ _ _ hv => absurd hv (Nat.not_lt_zero _)
  | succ depth ih =>
    obtain ⟨n, rfl⟩ : ∃ k, n = k + 1 := ⟨n - 1, by omega⟩
    obtain ⟨m, rfl⟩ : ∃ k, m = k + 1 := ⟨m - 1, by omega⟩
    intro i reference v hcell htarget halternatives hv
    refine ⟨fun t cells hcells hcame => ?_,
      deferred_ends hQ (m + 1) base i reference v hcell htarget trivial (Nat.lt_of_lt_of_le hv hm)⟩
    rw [Spec.conformWith_deferred]
    rcases hcame.look hQ (cell_mono hcells hcell) htarget with
      ⟨spec, t', cells', hrun, hcells', hgrows, hcame', hfilled, hanswers⟩ |
      ⟨error, t', cells', hrun, hcells', hgrows, hcame', hlater⟩
    · rw [hrun]
      have hspec : Spec.Repeatable id r Q s cells' (.within n) (.within m) spec v :=
        hanswers.repeatable (ih cells' (Nat.le_of_succ_le_succ hn) (Nat.le_of_succ_le_succ hm))
          halternatives v (Nat.le_of_lt_succ hv)
      obtain ⟨c, t'', cells'', hwalk, hcells'', hgrows', hcame'', hrepeats⟩ :=
        hspec.leads t' cells' (List.prefix_refl _) hcame'
      refine ⟨c, t'', cells'', hwalk, hcells'.trans hcells'', hgrows.trans hgrows', hcame'', ?_⟩
      intro e cellsₑ hcellsₑ hgrowsₑ hended
      exact (hrepeats e cellsₑ hcellsₑ hgrowsₑ hended).deferred (hcells.trans hcells')
        (hgrowsₑ.filled (hgrows'.filled hfilled))
    · rw [hrun]
      refine ⟨.invalid, t', cells', rfl, hcells', hgrows, hcame', ?_⟩
      intro e cellsₑ hcellsₑ hgrowsₑ hended
      exact Spec.repeats_unresolved (hcells.trans (hcells'.trans hcellsₑ))
        (hlater hcellsₑ hgrowsₑ hended)

/-- Whatever the session keeps from before, every check of a derived spec is repeatable. -/
theorem Stands.leads (hQ : Closed id r Q) {k : Kind} {spec : Spec}
    (h : Stands id r Q base k spec) (hk : k.HasAlternatives r) {v : Value} {n m : Nat}
    (hn : v.depth < n) (hm : v.depth < m) :
    Leads id r Q s base (spec.conformWith (.within n) v) (spec.Repeats id r Q base (.within m) v) :=
  (h.repeatable (deferred_repeatable hQ (v.depth + 1) base hn hm) hk v
    (Nat.lt_succ_self _)).leads

theorem Session.Ended.stays {e : Session} (h : Ended id r Q s cells e) :
    StaysOver id r Q e cells e :=
  ⟨cells, h.sound, List.prefix_refl _, .refl e, rfl, fun _ _ ha => ha⟩

/-- A check of a derived spec is repeated if it keeps no shape but such that can be derived by
themselves; and what is invalid is explained. -/
theorem Stands.repeats (hQ : Closed id r Q) {k : Kind} {spec : Spec} (h : Stands id r Q cells k spec)
    (hk : k.HasAlternatives r) (hs : Sound id r Q cells s) (v : Value) :
    ∃ c t, Check.conform spec v s = some (c, t) ∧
      ((r.config.memoize = true → r.KeptAlone (s.kept id) (t.kept id)) →
        (∃ u, Check.conform spec v t = some (c, u)) ∧
        (c.isValid = false → ∀ path, ∃ problems u,
          Check.explain spec path v t = some (problems, u) ∧ problems ≠ [])) := by
  have hfirst := fun m (hm : v.depth < m) =>
    h.leads hQ hk (Check.depth_lt_reach v s) hm s cells (List.prefix_refl _) (Came.of_sound hs)
  obtain ⟨c, t, _, hrun, _⟩ := hfirst (v.depth + 1) (Nat.lt_succ_self _)
  refine ⟨c, t, hrun, fun hkept => ?_⟩
  -- How far the second check may reach is only known now.
  obtain ⟨c', t', cells', hrun', _, _, hcame, hrepeats⟩ :=
    hfirst (Check.reach v t) (Check.depth_lt_reach v t)
  cases hrun.symm.trans hrun'
  have hended : Ended id r Q s cells' t := ⟨hcame, hkept⟩
  have hagain := hrepeats t cells' (List.prefix_refl _) (.refl t) hended
  constructor
  · obtain ⟨_, u, hsecond, rfl, _⟩ := hagain.again.exists_some hended.stays
    exact ⟨u, hsecond⟩
  · intro hinvalid path
    obtain ⟨problems, u, hexplain, hne, _⟩ := hagain.blamed hinvalid path t hended.stays
    exact ⟨problems, u, hexplain, hne⟩

end

end Conform
