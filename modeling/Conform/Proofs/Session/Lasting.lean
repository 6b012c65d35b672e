import Conform.Proofs.Kind.Groups
import Conform.Proofs.Registry.Distinct
import Conform.Proofs.Session.Events
/-!
Acceptance over time. A value that was found to be valid stays valid, whatever happens to the
registry: a union may come to accept it by another alternative, but the alternative that accepted it
first goes on to do so, since the cells that it needed are filled.
-/

namespace Conform

open Session (Intact IntactOver)

/-! ## What records are made of -/

namespace Spec

variable {d : Delegate} {i : Instance} {keys : List (String × Spec)} {extra : ExtraFields} {v w : Value}
  {s t : Session}

/-- The walk of a dictionary spec accepts an object with all keys as they should be, and leaves what
it does not declare to the mode. -/
theorem conformWith_dict_valid : conformWith d (dict i keys extra) v s = some (.valid w, t) ↔
    ∃ pairs declared others, v = .object pairs ∧ w = .object (declared ++ others) ∧
      conformKeys d keys v s = some (some declared, t) ∧
      conformExtra extra (undeclared keys pairs) = some others := by
  constructor
  · intro h
    unfold conformWith at h
    cases v with
    | object pairs =>
      simp only [Check.bind_apply] at h
      obtain ⟨⟨found, m⟩, hkeys, hrest⟩ := Option.bind_eq_some_iff.mp h
      cases found with
      | none => cases hrest
      | some declared =>
        simp only at hrest
        cases hextra : conformExtra extra (undeclared keys pairs) with
        | none =>
          rw [hextra] at hrest
          cases hrest
        | some others =>
          rw [hextra] at hrest
          cases hrest
          exact ⟨pairs, declared, others, rfl, rfl, hkeys, hextra⟩
    | null | bool | int | float | string | bytes | list | tuple => cases h
  · rintro ⟨pairs, declared, others, rfl, rfl, hkeys, hextra⟩
    unfold conformWith
    simp only [Check.bind_apply, hkeys, Option.bind_some, hextra]
    rfl

/-- Under a key whose spec is an unbound placeholder the value is taken as it is. -/
theorem lookup_of_unbound {declared : List (String × Value)}
    (h : conformKeys d keys v s = some (some declared, t)) {key : String} {j : Instance} {p : String}
    (hkey : keys.lookup key = some (unbound j p)) :
    ∃ w, v.get? key = some w ∧ declared.lookup key = some w := by
  induction keys generalizing s declared with
  | nil => cases hkey
  | cons pair keys ih =>
    obtain ⟨name, spec⟩ := pair
    unfold conformKeys at h
    cases hget : v.get? name with
    | none =>
      rw [hget] at h
      cases h
    | some present =>
      simp only [hget, Check.bind_apply] at h
      obtain ⟨⟨c, m⟩, hrun, hrest⟩ := Option.bind_eq_some_iff.mp h
      cases c with
      | invalid => cases hrest
      | valid w =>
        obtain ⟨⟨found, m'⟩, hkeys, hmade⟩ := Option.bind_eq_some_iff.mp hrest
        cases found with
        | none => cases hmade
        | some rest =>
          cases hmade
          rw [List.lookup_cons] at hkey
          split at hkey
          · next heq =>
            obtain rfl := eq_of_beq heq
            cases hkey
            unfold conformWith at hrun
            cases hrun
            exact ⟨_, hget, List.lookup_cons_self⟩
          · next hne =>
            obtain ⟨w', hw', hlookup⟩ := ih hkeys hkey
            refine ⟨w', hw', ?_⟩
            rw [List.lookup_cons, hne]
            exact hlookup

theorem conformThrough_consistency (d : Delegate) (l : Instance) (groups : List PlaceholderGroup)
    (made : Value) : conformThrough d [consistency l groups] made =
      pure (conformConsistency groups made) := by
  simp only [conformThrough, conformWith, pure_bind]
  cases conformConsistency groups made <;> rfl

/-- The second of two stages sees to it that what the first one makes agrees. -/
theorem conformWith_agreeing_valid {spec : Spec} {l : Instance} {groups : List PlaceholderGroup} :
    conformWith d (allOf i [spec, consistency l groups]) v s = some (.valid w, t) ↔
      ∃ made, conformWith d spec v s = some (.valid made, t) ∧
        conformConsistency groups made = .valid w := by
  constructor
  · intro h
    unfold conformWith conformThrough at h
    rw [Check.bind_apply] at h
    obtain ⟨⟨c, m⟩, hrun, hrest⟩ := Option.bind_eq_some_iff.mp h
    cases c with
    | invalid => cases hrest
    | valid made =>
      have hagree := (congrFun (conformThrough_consistency d l groups made) m).symm.trans hrest
      obtain ⟨hgroups, rfl⟩ := Prod.mk.inj (Option.some.inj hagree)
      exact ⟨made, hrun, hgroups⟩
  · rintro ⟨made, hrun, hgroups⟩
    unfold conformWith conformThrough
    rw [Check.bind_apply, hrun]
    refine (congrFun (conformThrough_consistency d l groups made) t).trans ?_
    rw [hgroups]
    rfl

end Spec

/-- Whether the groups of a record are content depends on its fields for placeholders only. -/
theorem conformConsistency_congr {fields : List Field} {pairs pairs' : List (String × Value)}
    (hsame : ∀ f ∈ fields, ∀ p, f.kind = .placeholder p →
      (Value.object pairs).get? f.name = (Value.object pairs').get? f.name) {w : Value}
    (h : Spec.conformConsistency (Session.placeholderGroups fields) (.object pairs) = .valid w) :
    ∃ w', Spec.conformConsistency (Session.placeholderGroups fields) (.object pairs') = .valid w' := by
  have hvalid : (Spec.conformConsistency (Session.placeholderGroups fields)
      (.object pairs)).isValid = true := by
    rw [h]
    rfl
  rw [Spec.conformConsistency_isValid] at hvalid
  simp only [Spec.dissenters_eq_nil] at hvalid
  rw [Session.forall_placeholderGroups] at hvalid
  have hvalid' : (Spec.conformConsistency (Session.placeholderGroups fields)
      (.object pairs')).isValid = true := by
    rw [Spec.conformConsistency_isValid]
    simp only [Spec.dissenters_eq_nil]
    rw [Session.forall_placeholderGroups]
    intro f hf g hg p hfp hgp w u hw hu
    refine hvalid f hf g hg p hfp hgp w u ?_ ?_
    · rw [hsame f hf p hfp, hw]
    · rw [hsame g hg p hgp, hu]
  cases hmade : Spec.conformConsistency (Session.placeholderGroups fields) (.object pairs') with
  | valid w' => exact ⟨w', rfl⟩
  | invalid =>
    rw [hmade] at hvalid'
    cases hvalid'

/-- The first spec under a field's name is the one that stands for its kind. -/
theorem StandFields.lookup_placeholder {id : Nat} {r : Registry} {Q : Target → Prop}
    {cells : List Target} {fields : List Field} {keys : List (String × Spec)}
    (h : StandFields id r Q cells fields keys) (hfields : Field.Distinct fields) {f : Field}
    (hf : f ∈ fields) {p : String} (hkind : f.kind = .placeholder p) :
    ∃ i, keys.lookup f.name = some (.unbound i p) := by
  induction fields generalizing keys with
  | nil => cases hf
  | cons g fields ih =>
    cases h with
    | cons hg hs =>
      obtain ⟨hnew, hdistinct⟩ := List.nodup_cons.mp hfields
      rcases List.mem_cons.mp hf with rfl | hf
      · rw [hkind] at hg
        cases hg with
        | placeholder i _ => exact ⟨i, List.lookup_cons_self⟩
      · have hne : f.name ≠ g.name := fun heq => hnew (List.mem_map.mpr ⟨f, hf, heq⟩)
        rw [List.lookup_cons, beq_eq_false_iff_ne.mpr hne]
        exact ih hs hdistinct hf

/-! ## Walks that accept again -/

section
variable {id : Nat} {r : Registry} {cells : List Target} {n m : Nat} {v : Value}

/-- The later walk has an answer in every intact session, and accepts the value if the earlier walk
did and nothing was lost since. -/
structure Lasts (id : Nat) (r : Registry) (cells : List Target) (n m : Nat) (s : Spec) (v : Value) :
    Prop where
  answers : Answering id r cells (s.conformWith (.within m) v) (s.conformWith (.within m) v)
  again : ∀ {s₀ w t u}, s.conformWith (.within n) v s₀ = some (.valid w, t) →
    IntactOver id r cells u → u.Retains t →
      ∃ w' u', s.conformWith (.within m) v u = some (.valid w', u')

/-- Alternatives before the one that accepted the value may accept it by now. -/
theorem conformFirst_again {ss : List Spec} (h : ∀ s ∈ ss, Lasts id r cells n m s v)
    {s₀ t u : Session} {w : Value}
    (hfirst : Spec.conformFirst (.within n) ss v s₀ = some (.valid w, t))
    (hu : IntactOver id r cells u) (hretains : u.Retains t) :
    ∃ w' u', Spec.conformFirst (.within m) ss v u = some (.valid w', u') := by
  induction ss generalizing s₀ u with
  | nil => cases hfirst
  | cons s ss ih =>
    obtain ⟨hs, hss⟩ := List.forall_mem_cons.mp h
    unfold Spec.conformFirst at hfirst ⊢
    rw [Check.bind_apply] at hfirst
    obtain ⟨⟨c, t₁⟩, hrun, hrest⟩ := Option.bind_eq_some_iff.mp hfirst
    obtain ⟨c', u₁, hrun', _, hu₁⟩ := hs.answers u hu
    rw [Check.bind_apply, hrun']
    cases c' with
    | valid w' => exact ⟨w', u₁, rfl⟩
    | invalid =>
      cases c with
      | valid _ =>
        cases hrest
        obtain ⟨w', u', hagain⟩ := hs.again hrun hu hretains
        cases hrun'.symm.trans hagain
      | invalid =>
        exact ih hss hrest hu₁ (hretains.trans ((Spec.advancing_within m s v).conform u _ u₁ hrun').retains)

theorem conformItems_again {item : Spec} {vs : List Value}
    (h : ∀ w ∈ vs, Lasts id r cells n m item w) {s₀ t u : Session} {ws : List Value}
    (hitems : Spec.conformItems (item.conformWith (.within n)) vs s₀ = some (some ws, t))
    (hu : IntactOver id r cells u) (hretains : u.Retains t) :
    ∃ ws' u', Spec.conformItems (item.conformWith (.within m)) vs u = some (some ws', u') := by
  induction vs generalizing s₀ u ws with
  | nil => exact ⟨[], u, rfl⟩
  | cons w vs ih =>
    obtain ⟨hw, hvs⟩ := List.forall_mem_cons.mp h
    unfold Spec.conformItems at hitems ⊢
    rw [Check.bind_apply] at hitems
    obtain ⟨⟨c, t₁⟩, hrun, hrest⟩ := Option.bind_eq_some_iff.mp hitems
    cases c with
    | invalid => cases hrest
    | valid _ =>
      obtain ⟨⟨found, t₂⟩, hothers, hmade⟩ := Option.bind_eq_some_iff.mp hrest
      cases found with
      | none => cases hmade
      | some others =>
        cases hmade
        have hsince : t.Retains t₁ := (Spec.conformItems_inStep Check.compositional_advancing
          (fun w _ => Spec.advancing_within n item w) t₁ _ t hothers).retains
        obtain ⟨w', u₁, hagain⟩ := hw.again hrun hu (hsince.trans hretains)
        obtain ⟨c, u₁', hrun', _, hu₁⟩ := hw.answers u hu
        cases hagain.symm.trans hrun'
        have hretains₁ : u₁.Retains t :=
          hretains.trans ((Spec.advancing_within m item w).conform u _ u₁ hagain).retains
        obtain ⟨others', u', hothers'⟩ := ih hvs hothers hu₁ hretains₁
        refine ⟨w' :: others', u', ?_⟩
        rw [Check.bind_apply, hagain]
        simp only [Option.bind_some, Check.bind_apply, hothers']
        rfl

theorem conformKeys_again {keys : List (String × Spec)}
    (h : ∀ key ∈ keys, ∀ w, v.get? key.1 = some w → Lasts id r cells n m key.2 w)
    {s₀ t u : Session} {declared : List (String × Value)}
    (hkeys : Spec.conformKeys (.within n) keys v s₀ = some (some declared, t))
    (hu : IntactOver id r cells u) (hretains : u.Retains t) :
    ∃ declared' u', Spec.conformKeys (.within m) keys v u = some (some declared', u') := by
  induction keys generalizing s₀ u declared with
  | nil =>
    unfold Spec.conformKeys
    exact ⟨[], u, rfl⟩
  | cons key keys ih =>
    obtain ⟨name, s⟩ := key
    obtain ⟨hkey, hrest⟩ := List.forall_mem_cons.mp h
    unfold Spec.conformKeys at hkeys ⊢
    cases hget : v.get? name with
    | none =>
      rw [hget] at hkeys
      cases hkeys
    | some present =>
      simp only [hget, Check.bind_apply] at hkeys
      obtain ⟨⟨c, t₁⟩, hrun, hafter⟩ := Option.bind_eq_some_iff.mp hkeys
      cases c with
      | invalid => cases hafter
      | valid _ =>
        obtain ⟨⟨found, t₂⟩, hothers, hmade⟩ := Option.bind_eq_some_iff.mp hafter
        cases found with
        | none => cases hmade
        | some others =>
          cases hmade
          have hsince : t.Retains t₁ := (Spec.conformKeys_inStep Check.compositional_advancing
            (fun key _ w _ => Spec.advancing_within n key.2 w) t₁ _ t hothers).retains
          have hlasts := hkey present hget
          obtain ⟨w', u₁, hagain⟩ := hlasts.again hrun hu (hsince.trans hretains)
          obtain ⟨c, u₁', hrun', _, hu₁⟩ := hlasts.answers u hu
          cases hagain.symm.trans hrun'
          have hretains₁ : u₁.Retains t :=
            hretains.trans ((Spec.advancing_within m s present).conform u _ u₁ hagain).retains
          obtain ⟨others', u', hothers'⟩ := ih hrest hothers hu₁ hretains₁
          refine ⟨(name, w') :: others', u', ?_⟩
          simp only [Check.bind_apply, hagain, Option.bind_some, hothers']
          rfl

theorem collOf_again {item : Spec} {i : Instance}
    (h : ∀ items, v.items? = some items → ∀ w ∈ items, Lasts id r cells n m item w)
    {s₀ t u : Session} {w : Value}
    (hrun : (Spec.collOf i item).conformWith (.within n) v s₀ = some (.valid w, t))
    (hu : IntactOver id r cells u) (hretains : u.Retains t) :
    ∃ w' u', (Spec.collOf i item).conformWith (.within m) v u = some (.valid w', u') := by
  unfold Spec.conformWith at hrun ⊢
  cases v with
  | list vs | tuple vs =>
    simp only [Check.bind_apply] at hrun ⊢
    obtain ⟨⟨found, t₁⟩, hitems, hmade⟩ := Option.bind_eq_some_iff.mp hrun
    cases found with
    | none => cases hmade
    | some ws =>
      cases hmade
      obtain ⟨ws', u', hagain⟩ := conformItems_again (h vs rfl) hitems hu hretains
      rw [hagain]
      exact ⟨_, u', rfl⟩
  | null | bool | int | float | string | bytes | object => cases hrun

/-- The record's fields that have to agree are unbound, so they agree again. -/
theorem record_again {fields : List Field} {keys : List (String × Spec)} {s : Spec}
    (hfields : Field.Distinct fields) (hstand : StandFields id r (fun _ => True) cells fields keys)
    (hform : RecordForm r.config (Session.placeholderGroups fields) keys s)
    (h : ∀ key ∈ keys, ∀ w, v.get? key.1 = some w → Lasts id r cells n m key.2 w)
    {s₀ t u : Session} {w : Value} (hrun : s.conformWith (.within n) v s₀ = some (.valid w, t))
    (hu : IntactOver id r cells u) (hretains : u.Retains t) :
    ∃ w' u', s.conformWith (.within m) v u = some (.valid w', u') := by
  cases hform with
  | plain i j label _ =>
    unfold Spec.conformWith at hrun ⊢
    obtain ⟨pairs, declared, others, hv, _, hkeys, hextra⟩ := Spec.conformWith_dict_valid.mp hrun
    obtain ⟨declared', u', hagain⟩ := conformKeys_again h hkeys hu hretains
    exact ⟨_, u', Spec.conformWith_dict_valid.mpr ⟨pairs, declared', others, hv, rfl, hagain, hextra⟩⟩
  | grouped i j k l label _ =>
    unfold Spec.conformWith at hrun ⊢
    obtain ⟨made, hdict, hgroups⟩ := Spec.conformWith_agreeing_valid.mp hrun
    obtain ⟨pairs, declared, others, rfl, rfl, hkeys, hextra⟩ := Spec.conformWith_dict_valid.mp hdict
    obtain ⟨declared', u', hagain⟩ := conformKeys_again h hkeys hu hretains
    have hsame : ∀ f ∈ fields, ∀ p, f.kind = .placeholder p →
        (Value.object (declared ++ others)).get? f.name =
          (Value.object (declared' ++ others)).get? f.name := by
      intro f hf p hkind
      obtain ⟨i, hkey⟩ := hstand.lookup_placeholder hfields hf hkind
      obtain ⟨w, hw, hlookup⟩ := Spec.lookup_of_unbound hkeys hkey
      obtain ⟨w', hw', hlookup'⟩ := Spec.lookup_of_unbound hagain hkey
      cases hw.symm.trans hw'
      simp only [Value.get?, List.lookup_append, hlookup, hlookup', Option.some_or]
    obtain ⟨w', hw'⟩ := conformConsistency_congr hsame hgroups
    exact ⟨w', u', Spec.conformWith_agreeing_valid.mpr ⟨_, Spec.conformWith_dict_valid.mpr
      ⟨pairs, declared', others, rfl, rfl, hagain, hextra⟩, hw'⟩⟩

theorem lasts_isInstance (i : Instance) (k : ValueKind) (v : Value) :
    Lasts id r cells n m (.isInstance i k) v := by
  have hwalk : ∀ l s, (Spec.isInstance i k).conformWith (.within l) v s =
      some (.ofBool (v.kind = k) v, s) := by
    intro l s
    unfold Spec.conformWith
    rfl
  refine ⟨fun s hs => ⟨_, s, hwalk m s, hwalk m s, hs⟩, fun {s₀ w t u} hrun _ _ => ⟨w, u, ?_⟩⟩
  rw [hwalk] at hrun ⊢
  rw [(Prod.mk.inj (Option.some.inj hrun)).1]

/-- The lazy references that the table knows accept again, for values less than `m` deep. -/
def LazilyLasts (id : Nat) (r : Registry) (cells : List Target) (n m : Nat) : Prop :=
  ∀ i reference w, cells[reference.cell]? = some reference.target → reference.target.IsOf id →
    w.depth < m → Lasts id r cells n m (.deferred i reference) w

mutual

theorem Stands.lasts (hlazy : LazilyLasts id r cells n m) :
    ∀ {k : Kind} {s : Spec}, Stands id r (fun _ => True) cells k s →
      ∀ v : Value, v.depth < m → Lasts id r cells n m s v
  | _, _, .leaf i k, v, _ => lasts_isInstance i k v
  | _, _, .nothing i, v, _ => lasts_isInstance i .null v
  | _, _, .placeholder i p, v, hv => by
    refine ⟨((Stands.placeholder i p).answering hv).conform, fun {s₀ w t u} _ _ _ => ?_⟩
    unfold Spec.conformWith
    exact ⟨v, u, rfl⟩
  | _, _, .record h, v, hv => h.lasts hlazy v (Nat.le_of_lt hv)
  | _, _, .lazyRecord i _ hcell, v, hv => hlazy i _ v hcell rfl hv
  | _, _, .forward i _ hcell, v, hv => hlazy i _ v hcell rfl hv
  | _, _, .list i h, v, hv => by
    refine ⟨((Stands.list i h).answering hv).conform, fun {s₀ w t u} hrun hu hretains => ?_⟩
    refine collOf_again (fun items hitems w hw => h.lasts hlazy w ?_) hrun hu hretains
    exact Nat.lt_trans (Value.depth_lt_of_mem_items hitems hw) hv
  | _, _, .union i hs, v, hv => by
    refine ⟨((Stands.union i hs).answering hv).conform, fun {s₀ w t u} hrun hu hretains => ?_⟩
    unfold Spec.conformWith at hrun ⊢
    exact conformFirst_again (hs.lasts hlazy v hv) hrun hu hretains

theorem StandAll.lasts (hlazy : LazilyLasts id r cells n m) :
    ∀ {ks : List Kind} {ss : List Spec}, StandAll id r (fun _ => True) cells ks ss →
      ∀ v : Value, v.depth < m → ∀ s ∈ ss, Lasts id r cells n m s v
  | _, _, .nil, _, _ => fun _ hs => absurd hs List.not_mem_nil
  | _, _, .cons h hs, v, hv => List.forall_mem_cons.mpr ⟨h.lasts hlazy v hv, hs.lasts hlazy v hv⟩

theorem StandFields.lasts (hlazy : LazilyLasts id r cells n m) :
    ∀ {fields : List Field} {keys : List (String × Spec)},
      StandFields id r (fun _ => True) cells fields keys → ∀ v : Value, v.depth ≤ m →
        ∀ key ∈ keys, ∀ w, v.get? key.1 = some w → Lasts id r cells n m key.2 w
  | _, _, .nil, _, _ => fun _ hkey => absurd hkey List.not_mem_nil
  | _, _, .cons h hs, v, hv =>
    List.forall_mem_cons.mpr
      ⟨fun w hw => h.lasts hlazy w (Nat.lt_of_lt_of_le (Value.depth_lt_of_get? hw) hv),
        hs.lasts hlazy v hv⟩

theorem StandsRecord.lasts (hlazy : LazilyLasts id r cells n m) :
    ∀ {a : Applied} {s : Spec}, StandsRecord id r (fun _ => True) cells a s →
      ∀ v : Value, v.depth ≤ m → Lasts id r cells n m s v
  | a, _, .mk hq hfields hkeys hform, v, hv => by
    have hanswers := (Answers.shape (.mk (a := (a.1, a.2)) hq hfields hkeys hform)).answering hv
    refine ⟨hanswers.conform, fun {s₀ w t u} hrun hu hretains => ?_⟩
    exact record_again (Registry.distinct_fieldsOf hfields) hkeys hform (hkeys.lasts hlazy v hv) hrun
      hu hretains

end

theorem Answers.lasts (hlazy : LazilyLasts id r cells n m) {target : Target} {s : Spec}
    (h : Answers id r (fun _ => True) cells target s) (hv : v.depth ≤ m) :
    Lasts id r cells n m s v := by
  cases h with
  | shape h => exact h.lasts hlazy v hv
  | forward _ h => exact h.lasts hlazy v hv
  | builtin i _ _ => exact lasts_isInstance i _ v

/-- What the earlier walk found behind the reference is still in its cell. -/
theorem deferred_lasts (n m : Nat) (cells : List Target) : LazilyLasts id r cells n m := by
  induction n generalizing m cells with
  | zero =>
    intro i reference v hcell htarget hv
    refine ⟨(inStep_left (deferred_answering (spared_nothing id r) m cells i reference v hcell htarget
      trivial hv)).conform, ?_⟩
    intro s₀ w t u hrun _ _
    rw [Spec.conformWith_resolve rfl] at hrun
    rcases hfound : (Session.resolve reference).run s₀ with ⟨e | spec, t₁⟩
    · rw [hfound] at hrun
      cases hrun
    · rw [hfound] at hrun
      cases hrun
  | succ n ih =>
    intro i reference v hcell htarget hv
    refine ⟨(inStep_left (deferred_answering (spared_nothing id r) m cells i reference v hcell htarget
      trivial hv)).conform, ?_⟩
    obtain ⟨m, rfl⟩ : ∃ k, m = k + 1 := ⟨m - 1, by omega⟩
    rintro s₀ w t u hrun ⟨more, hmore, hu⟩ hretains
    rw [Spec.conformWith_deferred] at hrun
    rcases hfound : (Session.resolve reference).run s₀ with ⟨e | spec, t₁⟩
    · rw [hfound] at hrun
      cases hrun
    · rw [hfound] at hrun
      have hsince := ((Spec.advancing_within n spec v).conform t₁ _ t hrun).retains
      have hfilled := hretains.filled (hsince.filled ((Session.resolve_retains hfound).2 spec rfl))
      obtain ⟨target, hknown, hanswers⟩ := hu.filled hfilled
      obtain rfl := Option.some.inj ((cell_mono hmore hcell).symm.trans hknown)
      rw [Spec.conformWith_deferred, Session.run_resolve, hfilled]
      exact (hanswers.lasts (ih m more) (Nat.le_of_lt_succ hv)).again hrun
        ⟨more, List.prefix_refl _, hu⟩ hretains

end

/-! ## Checks of derived specs -/

namespace Caller

variable {id : Nat} {r : Registry} {kinds : List Kind} {c : Caller}

/-- What a spec of the caller's accepted at some time, it accepts in every later session. -/
theorem Intact.conform_again (h : c.Intact id r kinds) {i : Nat} {spec : Spec}
    (hspec : c.specs[i]? = some spec) {v w : Value} {s₀ t : Session}
    (hrun : Check.conform spec v s₀ = some (.valid w, t)) (hretains : c.session.Retains t) :
    ∃ w' u, Check.conform spec v c.session = some (.valid w', u) := by
  obtain ⟨cells, hintact, hspecs⟩ := h
  obtain ⟨k, hstands⟩ := hspecs.of_spec hspec
  exact (hstands.lasts (deferred_lasts _ _ cells) v (Check.depth_lt_reach v c.session)).again hrun
    ⟨cells, List.prefix_refl _, hintact⟩ hretains

end Caller

/-! ## The same check at two times -/

/-- A value that is held against the spec of a history, and again when more has happened. -/
structure Recheck extends History where
  value : Value
  later : List Event

namespace Recheck

section
variable (t : Recheck)

def check : Call := .conform t.opening.specs.length t.value

def checked : Answer × Caller := t.caller.call 0 t.check

def rechecked : Answer × Caller := (t.checked.2.pass 0 t.later).call 0 t.check

/-- No look of the first check fails. -/
def Resolves : Prop :=
  ∀ spec ∈ t.caller.specs[t.opening.specs.length]?,
    Check.ConformResolves spec t.value t.caller.session

end

/-- Acceptance is stable: both checks are answered, a value that was valid is valid again, and if no
look of the first check failed the second answer is the first one. -/
theorem conform_stable (t : Recheck) (hmade : t.derived.1 = .made) :
    ∃ outcome outcome', t.checked.1 = .conformed outcome ∧ t.rechecked.1 = .conformed outcome' ∧
      (outcome.isValid = true → outcome'.isValid = true) ∧ (t.Resolves → outcome' = outcome) := by
  obtain ⟨spec, hcaller⟩ := History.exists_spec hmade
  obtain ⟨r, kinds, hintact⟩ := t.intact_caller
  -- The first check.
  obtain ⟨outcome, s, hrun, hchecked⟩ := hintact.check hcaller fun hstands =>
    (hstands.answering (Check.depth_lt_reach t.value t.caller.session)).conform
  have hcheck : Check.conform spec t.value t.caller.session = some (outcome, s) := hrun
  have hfirst : t.checked = (.conformed outcome, ⟨s, t.caller.specs⟩) := by
    simp only [checked, check, Caller.call, hcaller, hcheck]
  -- What happens until the second one loses nothing of what the first one has found.
  obtain ⟨r', more, _, hlater⟩ := hchecked.pass t.later
  have hretains : (Caller.pass 0 ⟨s, t.caller.specs⟩ t.later).Retains ⟨s, t.caller.specs⟩ :=
    .of_pass _ _
  have hcaller' := hretains.getElem? hcaller
  obtain ⟨outcome', s', hrun', _⟩ := hlater.check hcaller' fun hstands =>
    (hstands.answering (Check.depth_lt_reach t.value _)).conform
  have hcheck' : Check.conform spec t.value
      (Caller.pass 0 ⟨s, t.caller.specs⟩ t.later).session = some (outcome', s') := hrun'
  have hsecond : t.rechecked.1 = .conformed outcome' := by
    unfold rechecked
    simp only [hfirst, check, Caller.call, hcaller', hcheck']
  refine ⟨outcome, outcome', congrArg Prod.fst hfirst, hsecond, fun hvalid => ?_, fun hresolves => ?_⟩
  · cases outcome with
    | invalid => cases hvalid
    | valid w =>
      obtain ⟨w', u, hagain⟩ := hlater.conform_again hcaller' hcheck hretains.session
      cases hagain.symm.trans hcheck'
      rfl
  · have hagain := Check.conform_replayed hcheck (hresolves spec hcaller) hretains.session
    cases hagain.symm.trans hcheck'
    rfl

/-- A list of nodes; the registry is dropped once a first list was checked. -/
def dropped : Recheck where
  name := "shapes"
  config := .default
  before := [.step (.register ⟨"Node", [], [⟨"next", .optional (.forward "Node" [])⟩], []⟩)]
  kind := .record "Node" []
  after := [.clone "registry" "copy"]
  value := .object [("next", .object [("next", .null)])]
  later := [.drop "registry", .drop "copy"]

theorem resolves_dropped : dropped.Resolves := by
  have h : ∀ spec ∈ dropped.caller.specs[dropped.opening.specs.length]?,
      (Check.conformRefusing (fun _ => true) spec dropped.value dropped.caller.session).isSome =
        true := by
    decide +kernel
  exact h

theorem conform_stable_dropped :
    dropped.derived.1 = .made ∧ dropped.Resolves ∧
      (dropped.checked.2.pass 0 dropped.later).session.isAlive 0 = false ∧
      dropped.rechecked.1 = .conformed (.valid dropped.value) := by
  have hmade : dropped.derived.1 = .made := by decide +kernel
  have hfirst : dropped.checked.1 = .conformed (.valid dropped.value) := by decide +kernel
  obtain ⟨outcome, outcome', hchecked, hrechecked, _, hsame⟩ := conform_stable dropped hmade
  cases hfirst.symm.trans hchecked
  refine ⟨hmade, resolves_dropped, by decide +kernel, ?_⟩
  rw [hrechecked, hsame resolves_dropped]

end Recheck

end Conform
