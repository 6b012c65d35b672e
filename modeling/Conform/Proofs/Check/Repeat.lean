import Conform.Proofs.Check.Walk
import Conform.Proofs.Registry.Replay
/-!
Checks made again. A first check looks behind references, and keeps what it derives on the way. Once
it has ended, the same check goes the same way and keeps nothing new, as long as every look behind a
reference ends as it did; and if the value was invalid, the explanation finds the place.
-/

namespace Conform

namespace Registry

/-- A look behind the reference finds something, whatever else is kept by then. -/
def Found (r : Registry) (target : Target) (done : List Applied) : Prop :=
  ∀ later, (r.config.memoize = true → done ⊆ later) →
    (r.seek r.config.memoize target later).1 = .ok ()

theorem Found.mono {r : Registry} {target : Target} {done later : List Applied}
    (h : r.Found target done) (hsub : done ⊆ later) : r.Found target later :=
  fun more hmore => h more fun hmemoize => List.Subset.trans hsub (hmore hmemoize)

end Registry

namespace Session

theorem Grows.kept {s t : Session} (h : s.Grows t) (id : Nat) : s.kept id ⊆ t.kept id := by
  intro a ha
  obtain ⟨spec, hspec⟩ := Option.isSome_iff_exists.mp ((mem_kept s id a).mp ha)
  refine (mem_kept t id a).mpr ?_
  rw [h.memo hspec]
  rfl

section
variable (id : Nat) (r : Registry) (Q : Target → Prop) (s : Session)

/-- A check that began with `s` has come so far. -/
structure Came (cells : List Target) (t : Session) : Prop where
  sound : Sound id r Q cells t
  grows : s.Grows t
  found : ∀ {cell : Nat} {spec : Spec} {target : Target}, t.filled.lookup cell = some spec →
    s.filled.lookup cell = none → cells[cell]? = some target → r.Found target (t.kept id)

/-- It has come to its end, and nothing was kept but shapes that can be derived by themselves. -/
structure Ended (cells : List Target) (e : Session) : Prop extends Came id r Q s cells e where
  alone : r.config.memoize = true → r.KeptAlone (s.kept id) (e.kept id)

/-- Since a check ended nothing new was kept, and nothing more was found behind references. -/
structure Stays (e : Session) (base cells : List Target) (u : Session) : Prop where
  sound : Sound id r Q cells u
  cells : base <+: cells
  grows : e.Grows u
  filled : u.filled = e.filled
  kept : r.config.memoize = true → u.kept id ⊆ e.kept id

def StaysOver (e : Session) (base : List Target) (u : Session) : Prop :=
  ∃ cells, Stays id r Q e base cells u

end

end Session

open Session (Came Ended StaysOver SoundOver)
open Check (Ensures)

section
variable (id : Nat) (r : Registry) (Q : Target → Prop) (s : Session) (base : List Target)

/-- The first check comes to an answer, and `T` tells what can be said of it once all has ended. -/
def Leads {α : Type} (x : Check α) (T : Session → List Target → α → Prop) : Prop :=
  ∀ t cells, base <+: cells → Came id r Q s cells t →
    ∃ a t' cells', x t = some (a, t') ∧ cells <+: cells' ∧ t.Grows t' ∧ Came id r Q s cells' t' ∧
      ∀ e cellsₑ, cells' <+: cellsₑ → t'.Grows e → Ended id r Q s cellsₑ e → T e cellsₑ a

/-- From where the first check ended the explanation finds a problem. -/
def Blames (e : Session) (cellsₑ : List Target) (z : Check (List Problem)) : Prop :=
  ∀ u, StaysOver id r Q e cellsₑ u →
    ∃ problems u', z u = some (problems, u') ∧ problems ≠ [] ∧ SoundOver id r Q base u'

end

/-! ## Steps in turn -/

section
variable {id : Nat} {r : Registry} {Q : Target → Prop} {s e : Session} {base cellsₑ : List Target}
  {α β : Type}

theorem Leads.pure {a : α} {T : Session → List Target → α → Prop}
    (h : ∀ e cellsₑ, base <+: cellsₑ → T e cellsₑ a) : Leads id r Q s base (pure a) T := by
  intro t cells hcells hcame
  refine ⟨a, t, cells, rfl, List.prefix_refl _, .refl t, hcame, ?_⟩
  exact fun e cellsₑ hcellsₑ _ _ => h e cellsₑ (hcells.trans hcellsₑ)

theorem Leads.mono {x : Check α} {T U : Session → List Target → α → Prop}
    (hx : Leads id r Q s base x T) (himp : ∀ e cellsₑ a, base <+: cellsₑ → T e cellsₑ a → U e cellsₑ a) :
    Leads id r Q s base x U := by
  intro t cells hcells hcame
  obtain ⟨a, t', cells', hrun, hcells', hgrows, hcame', hT⟩ := hx t cells hcells hcame
  refine ⟨a, t', cells', hrun, hcells', hgrows, hcame', fun e cellsₑ hcellsₑ hgrowsₑ hended => ?_⟩
  exact himp e cellsₑ a (hcells.trans (hcells'.trans hcellsₑ)) (hT e cellsₑ hcellsₑ hgrowsₑ hended)

/-- What was said of the first step still holds when the second has ended. -/
theorem Leads.bind {x : Check α} {f : α → Check β} {T : Session → List Target → α → Prop}
    {U : Session → List Target → β → Prop} (hx : Leads id r Q s base x T)
    (hf : ∀ a, Leads id r Q s base (f a) fun e cellsₑ b => T e cellsₑ a → U e cellsₑ b) :
    Leads id r Q s base (x >>= f) U := by
  intro t cells hcells hcame
  obtain ⟨a, t', cells', hrun, hcells', hgrows, hcame', hT⟩ := hx t cells hcells hcame
  obtain ⟨b, t'', cells'', hrun', hcells'', hgrows', hcame'', hU⟩ :=
    hf a t' cells' (hcells.trans hcells') hcame'
  refine ⟨b, t'', cells'', ?_, hcells'.trans hcells'', hgrows.trans hgrows', hcame'', ?_⟩
  · rw [Check.bind_apply, hrun]
    exact hrun'
  · intro e cellsₑ hcellsₑ hgrowsₑ hended
    exact hU e cellsₑ hcellsₑ hgrowsₑ hended
      (hT e cellsₑ (hcells''.trans hcellsₑ) (hgrows'.trans hgrowsₑ) hended)

theorem blames_pure (hbase : base <+: cellsₑ) {problems : List Problem} (h : problems ≠ []) :
    Blames id r Q base e cellsₑ (pure problems) := by
  rintro u ⟨cells, hstays⟩
  exact ⟨problems, u, rfl, h, cells, hbase.trans hstays.cells, hstays.sound⟩

/-- What is answered as before leads to where a problem is found. -/
theorem Blames.after {y : Check α} {g : α → Check (List Problem)} {a : α}
    (hy : Ensures False (StaysOver id r Q e cellsₑ) y (· = a))
    (hg : Blames id r Q base e cellsₑ (g a)) : Blames id r Q base e cellsₑ (y >>= g) := by
  intro u hu
  obtain ⟨_, u', hrun, rfl, hu'⟩ := hy.exists_some hu
  obtain ⟨problems, u'', hrun', hne, hsound⟩ := hg u' hu'
  refine ⟨problems, u'', ?_, hne, hsound⟩
  rw [Check.bind_apply, hrun]
  exact hrun'

/-- The rest of an explanation that has found a problem only has to come to an end. -/
theorem Blames.followed {x y : Check (List Problem)} (hx : Blames id r Q base e cellsₑ x)
    (hy : Ends id r Q base y y) :
    Blames id r Q base e cellsₑ (x >>= fun ps => y >>= fun qs => pure (ps ++ qs)) := by
  intro u hu
  obtain ⟨ps, u', hrun, hne, hsound⟩ := hx u hu
  obtain ⟨qs, u'', hrun', _, hsound'⟩ := hy.exists_some hsound
  refine ⟨ps ++ qs, u'', ?_, fun h => hne (List.append_eq_nil_iff.mp h).1, hsound'⟩
  rw [Check.bind_apply, hrun]
  change (y >>= fun qs => pure (ps ++ qs)) u' = _
  rw [Check.bind_apply, hrun']
  rfl

theorem Blames.preceded {x y : Check (List Problem)}
    (hx : Ensures False (StaysOver id r Q e cellsₑ) x (· = []))
    (hy : Blames id r Q base e cellsₑ y) :
    Blames id r Q base e cellsₑ (x >>= fun ps => y >>= fun qs => pure (ps ++ qs)) := by
  refine Blames.after hx fun u hu => ?_
  obtain ⟨qs, u', hrun, hne, hsound⟩ := hy u hu
  refine ⟨[] ++ qs, u', ?_, hne, hsound⟩
  rw [Check.bind_apply, hrun]
  rfl

theorem silent_append {I : Session → Prop} {x y : Check (List Problem)}
    (hx : Ensures False I x (· = [])) (hy : Ensures False I y (· = [])) :
    Ensures False I (x >>= fun ps => y >>= fun qs => pure (ps ++ qs)) (· = []) := by
  refine hx.bind fun ps hps => hy.bind fun qs hqs => ?_
  rw [hps, hqs]
  exact Ensures.pure rfl

/-- An answer that is the same each time, and what follows from it. -/
theorem ensures_again {I : Session → Prop} {y : Check α} {g : α → Check β} {a : α} {R : β → Prop}
    (hy : Ensures False I y (· = a)) (hg : Ensures False I (g a) R) : Ensures False I (y >>= g) R :=
  hy.bind fun _ hb => hb ▸ hg

end

/-! ## Forms of specs -/

namespace Spec

section
variable (id : Nat) (r : Registry) (Q : Target → Prop) (s : Session) (base : List Target)

/-- From where the first check ended the spec answers as it did, and explains itself accordingly. -/
structure Repeats (d : Delegate) (spec : Spec) (v : Value) (e : Session) (cellsₑ : List Target)
    (c : Conformed) : Prop where
  again : Ensures False (StaysOver id r Q e cellsₑ) (conformWith d spec v) (· = c)
  silent : c.isValid = true → ∀ path,
    Ensures False (StaysOver id r Q e cellsₑ) (explainWith d spec path v) (· = [])
  blamed : c.isValid = false → ∀ path, Blames id r Q base e cellsₑ (explainWith d spec path v)

structure Repeatable (d d' : Delegate) (spec : Spec) (v : Value) : Prop where
  leads : Leads id r Q s base (conformWith d spec v) (Repeats id r Q base d' spec v)
  ends : InStep (Ends id r Q base) d' d' spec v

end

section
variable {id : Nat} {r : Registry} {Q : Target → Prop} {s e : Session} {base cellsₑ : List Target}
  {d d' : Delegate} {v : Value}

theorem repeatable_isInstance (i : Instance) (k : ValueKind) (v : Value) :
    Repeatable id r Q s base d d' (isInstance i k) v where
  ends := inStep_isInstance (compositional_ends base) i k v
  leads := by
    unfold conformWith
    refine Leads.pure fun e cellsₑ hbase => ⟨?_, fun h path => ?_, fun h path => ?_⟩
    · unfold conformWith
      exact Ensures.pure rfl
    · unfold explainWith
      rw [Conformed.isValid_ofBool] at h
      exact Ensures.pure ((rejection_eq_nil _ _ _ _ _).mpr h)
    · unfold explainWith
      rw [Conformed.isValid_ofBool] at h
      refine blames_pure hbase fun hnil => ?_
      rw [(rejection_eq_nil _ _ _ _ _).mp hnil] at h
      cases h

theorem repeatable_unbound (i : Instance) (p : String) (v : Value) :
    Repeatable id r Q s base d d' (unbound i p) v where
  ends := inStep_unbound (compositional_ends base) i p v
  leads := by
    unfold conformWith
    refine Leads.pure fun e cellsₑ _ => ⟨?_, fun _ path => ?_, fun h => by cases h⟩
    · unfold conformWith
      exact Ensures.pure rfl
    · unfold explainWith
      exact Ensures.pure rfl

theorem repeatable_consistency (i : Instance) (groups : List PlaceholderGroup) (v : Value) :
    Repeatable id r Q s base d d' (consistency i groups) v where
  ends := inStep_consistency (compositional_ends base) i groups v
  leads := by
    have hlawful := Meaning.lawful_consistency (consistency i groups) groups
    unfold conformWith
    refine Leads.pure fun e cellsₑ hbase => ⟨?_, fun h path => ?_, fun h path => ?_⟩
    · unfold conformWith
      exact Ensures.pure rfl
    · unfold explainWith
      have hnil := (hlawful path v).mpr h
      cases v <;> exact Ensures.pure hnil
    · unfold explainWith
      have hne : (Meaning.consistency (consistency i groups) groups).explain path v ≠ [] := by
        intro hnil
        have hvalid := (hlawful path v).mp hnil
        rw [show (conformConsistency groups v).isValid = true from hvalid] at h
        cases h
      cases v <;> exact blames_pure hbase hne

theorem Repeatable.decorated {spec : Spec} (h : Repeatable id r Q s base d d' spec v) (i : Instance)
    (label : Option String) : Repeatable id r Q s base d d' (decorated i spec label) v where
  ends := h.ends.decorated i label
  leads := by
    rw [conformWith_decorated]
    refine h.leads.mono fun e cellsₑ c _ hc => ⟨?_, fun hvalid path => ?_, fun hinvalid path => ?_⟩
    · rw [conformWith_decorated]
      exact hc.again
    · rw [explainWith_decorated]
      exact hc.silent hvalid path
    · rw [explainWith_decorated]
      exact hc.blamed hinvalid path

/-! ### Alternatives -/

/-- If no alternative holds, the first one is to blame already. -/
theorem conformFirst_leads {specs : List Spec}
    (h : ∀ spec ∈ specs, Repeatable id r Q s base d d' spec v) :
    Leads id r Q s base (conformFirst d specs v) fun e cellsₑ c =>
      Ensures False (StaysOver id r Q e cellsₑ) (conformFirst d' specs v) (· = c) ∧
        (c.isValid = false → specs ≠ [] → ∀ path,
          Blames id r Q base e cellsₑ (explainEach d' specs path v)) := by
  induction specs with
  | nil =>
    unfold conformFirst
    refine Leads.pure fun e cellsₑ _ => ⟨Ensures.pure rfl, fun _ hne => absurd rfl hne⟩
  | cons spec specs ih =>
    have hspecs := fun spec' hspec => h spec' (List.mem_cons_of_mem spec hspec)
    unfold conformFirst
    refine (h spec List.mem_cons_self).leads.bind fun c => ?_
    cases c with
    | valid w =>
      refine Leads.pure fun e cellsₑ _ hc => ⟨?_, fun hinvalid => by cases hinvalid⟩
      exact ensures_again hc.again (Ensures.pure rfl)
    | invalid =>
      refine (ih hspecs).mono fun e cellsₑ c' _ hrest hc => ⟨?_, fun _ _ path => ?_⟩
      · exact ensures_again hc.again hrest.1
      · unfold explainEach
        exact (hc.blamed rfl path).followed
          (explainEach_inStep (compositional_ends base) (fun spec' hspec => (hspecs spec' hspec).ends)
            path)

theorem repeatable_oneOf {specs : List Spec} (hne : specs ≠ [])
    (h : ∀ spec ∈ specs, Repeatable id r Q s base d d' spec v) (i : Instance) :
    Repeatable id r Q s base d d' (oneOf i specs) v where
  ends := inStep_oneOf (compositional_ends base) (fun spec hspec => (h spec hspec).ends) i
  leads := by
    unfold conformWith
    refine (conformFirst_leads h).mono fun e cellsₑ c _ hc =>
      ⟨?_, fun hvalid path => ?_, fun hinvalid path => ?_⟩
    · unfold conformWith
      exact hc.1
    · unfold explainWith
      refine ensures_again hc.1 ?_
      rw [if_pos hvalid]
      exact Ensures.pure rfl
    · unfold explainWith
      refine Blames.after hc.1 ?_
      rw [if_neg (by rw [hinvalid]; exact Bool.false_ne_true)]
      exact hc.2 hinvalid hne path

/-! ### Lists -/

/-- The items before the first invalid one are explained in silence. -/
theorem conformItems_leads {item : Spec} {vs : List Value}
    (h : ∀ w ∈ vs, Repeatable id r Q s base d d' item w) :
    Leads id r Q s base (conformItems (conformWith d item) vs) fun e cellsₑ items =>
      Ensures False (StaysOver id r Q e cellsₑ) (conformItems (conformWith d' item) vs) (· = items) ∧
        (items.isSome = true → ∀ path n, Ensures False (StaysOver id r Q e cellsₑ)
          (explainItems (explainWith d' item) path n vs) (· = [])) ∧
        (items = none → ∀ path n,
          Blames id r Q base e cellsₑ (explainItems (explainWith d' item) path n vs)) := by
  induction vs with
  | nil =>
    unfold conformItems
    refine Leads.pure fun e cellsₑ _ => ⟨Ensures.pure rfl, fun _ path n => ?_, fun h => by cases h⟩
    unfold explainItems
    exact Ensures.pure rfl
  | cons w vs ih =>
    have hvs := fun w' hw => h w' (List.mem_cons_of_mem w hw)
    unfold conformItems
    refine (h w List.mem_cons_self).leads.bind fun c => ?_
    cases c with
    | invalid =>
      refine Leads.pure fun e cellsₑ _ hc => ⟨?_, (fun h => by cases h), fun _ path n => ?_⟩
      · exact ensures_again hc.again (Ensures.pure rfl)
      · unfold explainItems
        exact (hc.blamed rfl _).followed
          (explainItems_inStep (compositional_ends base) (fun w' hw => (hvs w' hw).ends) path (n + 1))
    | valid u =>
      refine (ih hvs).bind fun items => ?_
      refine Leads.pure fun e cellsₑ _ hrest hc => ⟨?_, fun hsome path n => ?_, fun hnone path n => ?_⟩
      · exact ensures_again hc.again (ensures_again hrest.1 (Ensures.pure rfl))
      · unfold explainItems
        rw [Option.isSome_map] at hsome
        exact silent_append (hc.silent rfl _) (hrest.2.1 hsome path (n + 1))
      · unfold explainItems
        exact Blames.preceded (hc.silent rfl _)
          (hrest.2.2 (Option.map_eq_none_iff.mp hnone) path (n + 1))

theorem repeatable_collOf {item : Spec}
    (h : ∀ items, v.items? = some items → ∀ w ∈ items, Repeatable id r Q s base d d' item w)
    (i : Instance) : Repeatable id r Q s base d d' (collOf i item) v where
  ends := inStep_collOf (compositional_ends base) (fun items hitems w hw => (h items hitems w hw).ends)
    i
  leads := by
    unfold conformWith
    cases v with
    | list vs | tuple vs =>
      refine (conformItems_leads (h vs rfl)).bind fun items => ?_
      cases items with
      | some items =>
        refine Leads.pure fun e cellsₑ _ hc => ⟨?_, fun _ path => ?_, fun h => by cases h⟩
        · unfold conformWith
          exact ensures_again hc.1 (Ensures.pure rfl)
        · unfold explainWith
          exact hc.2.1 rfl path 0
      | none =>
        refine Leads.pure fun e cellsₑ _ hc => ⟨?_, (fun h => by cases h), fun _ path => ?_⟩
        · unfold conformWith
          exact ensures_again hc.1 (Ensures.pure rfl)
        · unfold explainWith
          exact hc.2.2 rfl path 0
    | null | bool | int | float | string | bytes | object =>
      refine Leads.pure fun e cellsₑ hbase => ⟨?_, (fun h => by cases h), fun _ path => ?_⟩
      · unfold conformWith
        exact Ensures.pure rfl
      · unfold explainWith
        exact blames_pure hbase (List.cons_ne_nil _ _)

/-! ### Records -/

/-- The keys before the first missing or invalid one are explained in silence. -/
theorem conformKeys_leads {keys : List (String × Spec)}
    (h : ∀ key ∈ keys, ∀ w, v.get? key.1 = some w → Repeatable id r Q s base d d' key.2 w) :
    Leads id r Q s base (conformKeys d keys v) fun e cellsₑ declared =>
      Ensures False (StaysOver id r Q e cellsₑ) (conformKeys d' keys v) (· = declared) ∧
        (declared.isSome = true → ∀ owner path, Ensures False (StaysOver id r Q e cellsₑ)
          (explainKeys d' owner keys path v) (· = [])) ∧
        (declared = none → ∀ owner path,
          Blames id r Q base e cellsₑ (explainKeys d' owner keys path v)) := by
  induction keys with
  | nil =>
    unfold conformKeys
    refine Leads.pure fun e cellsₑ _ =>
      ⟨Ensures.pure rfl, fun _ owner path => ?_, fun h => by cases h⟩
    unfold explainKeys
    exact Ensures.pure rfl
  | cons key keys ih =>
    obtain ⟨name, spec⟩ := key
    have hkeys := fun key hkey => h key (List.mem_cons_of_mem _ hkey)
    have hends : ∀ owner path, Ends id r Q base (explainKeys d' owner keys path v)
        (explainKeys d' owner keys path v) := fun owner path =>
      explainKeys_inStep (compositional_ends base) owner
        (fun key hkey w hw => (hkeys key hkey w hw).ends) path
    rw [conformKeys]
    cases hget : v.get? name with
    | none =>
      refine Leads.pure fun e cellsₑ hbase => ⟨?_, (fun h => by cases h), fun _ owner path => ?_⟩
      · rw [conformKeys, hget]
        exact Ensures.pure rfl
      · rw [explainKeys, hget]
        exact (blames_pure hbase (List.cons_ne_nil _ _)).followed (hends owner path)
    | some present =>
      have hpresent := h (name, spec) List.mem_cons_self present hget
      refine hpresent.leads.bind fun c => ?_
      cases c with
      | invalid =>
        refine Leads.pure fun e cellsₑ _ hc => ⟨?_, (fun h => by cases h), fun _ owner path => ?_⟩
        · rw [conformKeys, hget]
          exact ensures_again hc.again (Ensures.pure rfl)
        · rw [explainKeys, hget]
          exact (hc.blamed rfl _).followed (hends owner path)
      | valid w =>
        refine (ih hkeys).bind fun declared => ?_
        refine Leads.pure fun e cellsₑ _ hrest hc =>
          ⟨?_, fun hsome owner path => ?_, fun hnone owner path => ?_⟩
        · rw [conformKeys, hget]
          exact ensures_again hc.again (ensures_again hrest.1 (Ensures.pure rfl))
        · rw [explainKeys, hget]
          rw [Option.isSome_map] at hsome
          exact silent_append (hc.silent rfl _) (hrest.2.1 hsome owner path)
        · rw [explainKeys, hget]
          exact Blames.preceded (hc.silent rfl _)
            (hrest.2.2 (Option.map_eq_none_iff.mp hnone) owner path)

theorem repeatable_dict {keys : List (String × Spec)}
    (h : ∀ key ∈ keys, ∀ w, v.get? key.1 = some w → Repeatable id r Q s base d d' key.2 w)
    (i : Instance) (extra : ExtraFields) :
    Repeatable id r Q s base d d' (dict i keys extra) v where
  ends := inStep_dict (compositional_ends base) (fun key hkey w hw => (h key hkey w hw).ends) i extra
  leads := by
    unfold conformWith
    cases v with
    | object pairs =>
      have hextra := fun path =>
        Meaning.explainExtra_eq_nil (dict i keys extra) extra path (undeclared keys pairs)
      refine (conformKeys_leads h).bind fun declared => ?_
      cases declared with
      | none =>
        refine Leads.pure fun e cellsₑ hbase hc => ⟨?_, (fun h => by cases h), fun _ path => ?_⟩
        · unfold conformWith
          exact ensures_again hc.1 (Ensures.pure rfl)
        · unfold explainWith
          exact (hc.2.2 rfl _ path).followed (y := pure _) (Ensures.pure trivial)
      | some declared =>
        cases hothers : conformExtra extra (undeclared keys pairs) with
        | some others =>
          refine Leads.pure fun e cellsₑ hbase hc => ⟨?_, fun _ path => ?_, fun h => by cases h⟩
          · unfold conformWith
            simp only [hothers]
            exact ensures_again hc.1 (Ensures.pure rfl)
          · unfold explainWith
            have hnil := (hextra path).mpr (by rw [hothers]; rfl)
            exact silent_append (hc.2.1 rfl _ path) (y := pure _) (Ensures.pure hnil)
        | none =>
          refine Leads.pure fun e cellsₑ hbase hc => ⟨?_, (fun h => by cases h), fun _ path => ?_⟩
          · unfold conformWith
            simp only [hothers]
            exact ensures_again hc.1 (Ensures.pure rfl)
          · unfold explainWith
            refine Blames.preceded (hc.2.1 rfl _ path) (y := pure _) (blames_pure hbase fun hnil => ?_)
            have hsome := (hextra path).mp hnil
            rw [hothers] at hsome
            cases hsome
    | null | bool | int | float | string | bytes | list | tuple =>
      refine Leads.pure fun e cellsₑ hbase => ⟨?_, (fun h => by cases h), fun _ path => ?_⟩
      · unfold conformWith
        exact Ensures.pure rfl
      · unfold explainWith
        exact blames_pure hbase (List.cons_ne_nil _ _)

/-- The second stage takes whatever the first makes of the value. -/
theorem repeatable_allOf_pair {first second : Spec} (hfirst : Repeatable id r Q s base d d' first v)
    (hsecond : ∀ w, Repeatable id r Q s base d d' second w) (i : Instance) :
    Repeatable id r Q s base d d' (allOf i [first, second]) v where
  ends := inStep_allOf_pair (compositional_ends base) hfirst.ends (fun w => (hsecond w).ends) i
  leads := by
    unfold conformWith conformThrough
    refine hfirst.leads.bind fun c => ?_
    cases c with
    | invalid =>
      refine Leads.pure fun e cellsₑ _ hc => ⟨?_, (fun h => by cases h), fun _ path => ?_⟩
      · unfold conformWith conformThrough
        exact ensures_again hc.again (Ensures.pure rfl)
      · unfold explainWith explainThrough
        exact Blames.after hc.again (hc.blamed rfl path)
    | valid w =>
      unfold conformThrough
      refine (hsecond w).leads.bind fun c => ?_
      cases c with
      | invalid =>
        refine Leads.pure fun e cellsₑ _ hc' hc => ⟨?_, (fun h => by cases h), fun _ path => ?_⟩
        · unfold conformWith conformThrough
          refine ensures_again hc.again ?_
          unfold conformThrough
          exact ensures_again hc'.again (Ensures.pure rfl)
        · unfold explainWith explainThrough
          refine Blames.after hc.again ?_
          unfold explainThrough
          exact Blames.after hc'.again (hc'.blamed rfl path)
      | valid u =>
        unfold conformThrough
        refine Leads.pure fun e cellsₑ _ hc' hc => ⟨?_, fun _ path => ?_, fun h => by cases h⟩
        · unfold conformWith conformThrough
          refine ensures_again hc.again ?_
          unfold conformThrough
          refine ensures_again hc'.again ?_
          unfold conformThrough
          exact Ensures.pure rfl
        · unfold explainWith explainThrough
          refine ensures_again hc.again ?_
          unfold explainThrough
          refine ensures_again hc'.again ?_
          unfold explainThrough
          exact Ensures.pure rfl

theorem repeatable_record {config : DeriveConfig} {groups : List PlaceholderGroup}
    {keys : List (String × Spec)} {spec : Spec} (hform : RecordForm config groups keys spec)
    (h : ∀ key ∈ keys, ∀ w, v.get? key.1 = some w → Repeatable id r Q s base d d' key.2 w) :
    Repeatable id r Q s base d d' spec v := by
  cases hform with
  | plain i j label _ => exact (repeatable_dict h j config.extra).decorated i label
  | grouped i j k l label _ =>
    exact (repeatable_allOf_pair (repeatable_dict h k config.extra)
      (repeatable_consistency l groups) j).decorated i label

end

end Spec

end Conform
