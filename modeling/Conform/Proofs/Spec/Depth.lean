import Conform.Proofs.Check.Walk
import Conform.Proofs.Kind.Groups
/-!
How deep conformed values are. Only coercions make values deeper; a container around a coerced value
is as much deeper as the value is. A bound on what coercions make, lowered by the containers around
them, therefore bounds what a whole spec makes of a value.
-/

namespace Conform

namespace Value

theorem depthOfPairs_le {pairs : List (String × Value)} {n : Nat} :
    depthOfPairs pairs ≤ n ↔ ∀ pair ∈ pairs, pair.2.depth ≤ n := by
  induction pairs with
  | nil => simp [depthOfPairs]
  | cons pair pairs ih =>
    obtain ⟨key, v⟩ := pair
    rw [depthOfPairs, List.forall_mem_cons, ← ih, Nat.max_le]

end Value

namespace Meaning

/-- Conforming makes no value deeper than `n` that was not as deep before. -/
def Rises (n : Nat) (m : Meaning) : Prop :=
  ∀ v w, m.conform v = .valid w → w.depth ≤ max v.depth n

variable {n : Nat} {m : Meaning} {ms : List Meaning}

theorem rises_anything : anything.Rises n := by
  intro v w h
  cases h
  exact Nat.le_max_left _ _

theorem rises_unresolved (owner : Spec) (e : SpecError) : (unresolved owner e).Rises n := by
  intro v w h
  cases h

theorem rises_ofCheck (owner : Spec) (passes : Value → Bool) (reason : Value → String) :
    (ofCheck owner passes reason).Rises n := by
  intro v w h
  simp only [ofCheck, Conformed.ofBool] at h
  split at h
  · cases h
    exact Nat.le_max_left _ _
  · cases h

theorem Rises.coerce (hm : m.Rises n) {coercer : Coercer}
    (hcoercer : ∀ v w, coercer.apply v = .ok w → w.depth ≤ max v.depth n) (owner : Spec)
    (failureReason : Option (Value → String → String)) :
    (coerce owner coercer failureReason m).Rises n := by
  intro v u h
  simp only [Meaning.coerce] at h
  cases happly : coercer.apply v with
  | error e =>
    rw [happly] at h
    cases h
  | ok w =>
    rw [happly] at h
    have hw := hcoercer v w happly
    have hu := hm w u h
    omega

theorem rises_oneOf (hms : ∀ m ∈ ms, m.Rises n) : (oneOf ms).Rises n := by
  intro v w h
  change conformFirst ms v = .valid w at h
  induction ms with
  | nil => cases h
  | cons m ms ih =>
    unfold conformFirst at h
    cases hfirst : m.conform v with
    | valid u =>
      rw [hfirst] at h
      cases h
      exact hms m List.mem_cons_self v w hfirst
    | invalid =>
      rw [hfirst] at h
      exact ih (fun m hm => hms m (List.mem_cons_of_mem _ hm)) h

theorem rises_allOf (hms : ∀ m ∈ ms, m.Rises n) : (allOf ms).Rises n := by
  intro v w h
  change conformThrough ms v = .valid w at h
  induction ms generalizing v with
  | nil =>
    cases h
    exact Nat.le_max_left _ _
  | cons m ms ih =>
    unfold conformThrough at h
    cases hfirst : m.conform v with
    | invalid =>
      rw [hfirst] at h
      cases h
    | valid u =>
      rw [hfirst] at h
      have hu := hms m List.mem_cons_self v u hfirst
      have hw := ih (fun m hm => hms m (List.mem_cons_of_mem _ hm)) u h
      omega

/-! ## Containers -/

theorem Rises.conformItems (hm : m.Rises n) {vs ws : List Value}
    (h : m.conformItems vs = some ws) :
    Value.depthOfItems ws ≤ max (Value.depthOfItems vs) n := by
  induction vs generalizing ws with
  | nil =>
    cases h
    exact Nat.zero_le _
  | cons v vs ih =>
    unfold Meaning.conformItems at h
    cases hv : m.conform v with
    | invalid =>
      rw [hv] at h
      cases h
    | valid w =>
      rw [hv] at h
      obtain ⟨rest, hrest, rfl⟩ := Option.map_eq_some_iff.mp h
      have hw := hm v w hv
      have hws := ih hrest
      simp only [Value.depthOfItems]
      omega

theorem Rises.collOf (hm : m.Rises (n - 1)) (owner : Spec) : (collOf owner m).Rises n := by
  intro v w h
  cases v with
  | list items | tuple items =>
    simp only [Meaning.collOf] at h
    cases hitems : m.conformItems items with
    | none =>
      rw [hitems] at h
      cases h
    | some ws =>
      rw [hitems] at h
      cases h
      have hdepth := hm.conformItems hitems
      simp only [Value.depth]
      omega
  | null | bool | int | float | string | bytes | object => cases h

theorem rises_conformKeys {keys : List (String × Meaning)} (hkeys : ∀ key ∈ keys, key.2.Rises n)
    {v : Value} {pairs : List (String × Value)} (h : conformKeys keys v = some pairs) :
    ∀ pair ∈ pairs, pair.2.depth ≤ max (v.depth - 1) n := by
  induction keys generalizing pairs with
  | nil =>
    cases h
    exact fun _ hp => absurd hp List.not_mem_nil
  | cons key keys ih =>
    obtain ⟨name, m⟩ := key
    unfold conformKeys at h
    cases hget : v.get? name with
    | none =>
      rw [hget] at h
      cases h
    | some present =>
      rw [hget] at h
      cases hpresent : m.conform present with
      | invalid =>
        simp only [hpresent] at h
        cases h
      | valid w =>
        simp only [hpresent] at h
        obtain ⟨rest, hrest, rfl⟩ := Option.map_eq_some_iff.mp h
        refine List.forall_mem_cons.mpr
          ⟨?_, ih (fun key hkey => hkeys key (List.mem_cons_of_mem _ hkey)) hrest⟩
        have hdepth := Value.depth_lt_of_get? hget
        have hw := hkeys (name, m) List.mem_cons_self present w hpresent
        simp only
        omega

theorem conformExtra_subset {extra : ExtraFields} {pairs others : List (String × Value)}
    (h : Spec.conformExtra extra pairs = some others) : others ⊆ pairs := by
  unfold Spec.conformExtra at h
  split at h
  · cases h
    exact List.nil_subset _
  · cases h
    exact List.Subset.refl _
  · split at h
    · cases h
      exact List.nil_subset _
    · cases h

theorem rises_dict {keys : List (String × Meaning)} (hkeys : ∀ key ∈ keys, key.2.Rises (n - 1))
    (owner : Spec) {undeclared : List (String × Value) → List (String × Value)}
    (hundeclared : ∀ pairs, undeclared pairs ⊆ pairs) (extra : ExtraFields) :
    (dict owner undeclared extra keys).Rises n := by
  intro v w h
  cases v with
  | object pairs =>
    simp only [dict] at h
    cases hdeclared : conformKeys keys (.object pairs) with
    | none =>
      rw [hdeclared] at h
      cases h
    | some declared =>
      cases hothers : Spec.conformExtra extra (undeclared pairs) with
      | none =>
        rw [hdeclared, hothers] at h
        cases h
      | some others =>
        rw [hdeclared, hothers] at h
        cases h
        have hpairs : Value.depthOfPairs (declared ++ others) ≤
            max ((Value.object pairs).depth - 1) (n - 1) := by
          refine Value.depthOfPairs_le.mpr fun pair hpair => ?_
          rcases List.mem_append.mp hpair with hmem | hmem
          · exact rises_conformKeys hkeys hdeclared pair hmem
          · have hpair := hundeclared pairs (conformExtra_subset hothers hmem)
            have hdepth := Value.depthOfPairs_le.mp (Nat.le_refl (Value.depthOfPairs pairs)) pair hpair
            simp only [Value.depth]
            omega
        simp only [Value.depth] at hpairs ⊢
        omega
  | null | bool | int | float | string | bytes | list | tuple => cases h

end Meaning

/-! ## Placeholder groups -/

namespace Spec

theorem mem_replacePair {key : String} {v : Value} {pairs : List (String × Value)}
    {pair : String × Value} (h : pair ∈ replacePair key v pairs) : pair ∈ pairs ∨ pair.2 = v := by
  induction pairs with
  | nil => cases h
  | cons first pairs ih =>
    unfold replacePair at h
    split at h
    · rcases List.mem_cons.mp h with rfl | hmem
      · exact .inr rfl
      · exact .inl (List.mem_cons_of_mem _ hmem)
    · rcases List.mem_cons.mp h with rfl | hmem
      · exact .inl List.mem_cons_self
      · exact (ih hmem).imp_left (List.mem_cons_of_mem _)

theorem forall_mem_conformGroup {p : Value → Prop} {v : Value}
    (hv : ∀ key w, v.get? key = some w → p w) {group : PlaceholderGroup}
    {output written : List (String × Value)} (houtput : ∀ pair ∈ output, p pair.2)
    (h : conformGroup v group output = some written) : ∀ pair ∈ written, p pair.2 := by
  have hmembers : ∀ member ∈ presentMembers group v, p member.2 := fun member hmember =>
    hv member.1 member.2 (mem_presentMembers.mp hmember).2
  unfold conformGroup at h
  split at h
  · cases h
    generalize presentMembers group v = members at hmembers
    induction members generalizing output with
    | nil => exact houtput
    | cons member members ih =>
      rw [List.foldl_cons]
      refine ih (fun pair hpair => ?_) fun m hm => hmembers m (List.mem_cons_of_mem _ hm)
      rcases mem_replacePair hpair with hold | hnew
      · exact houtput pair hold
      · rw [hnew]
        exact hmembers member List.mem_cons_self
  · cases h

theorem forall_mem_conformGroups {p : Value → Prop} {v : Value}
    (hv : ∀ key w, v.get? key = some w → p w) {groups : List PlaceholderGroup}
    {output written : List (String × Value)} (houtput : ∀ pair ∈ output, p pair.2)
    (h : conformGroups v groups output = some written) : ∀ pair ∈ written, p pair.2 := by
  induction groups generalizing output with
  | nil =>
    cases h
    exact houtput
  | cons group groups ih =>
    unfold conformGroups at h
    obtain ⟨between, hbetween, hrest⟩ := Option.bind_eq_some_iff.mp h
    exact ih (forall_mem_conformGroup hv houtput hbetween) hrest

end Spec

theorem Meaning.rises_consistency {n : Nat} (owner : Spec) (groups : List PlaceholderGroup) :
    (consistency owner groups).Rises n := by
  intro v w h
  change Spec.conformConsistency groups v = .valid w at h
  cases v with
  | object pairs =>
    unfold Spec.conformConsistency at h
    simp only at h
    split at h
    · next output houtput =>
      cases h
      have hpresent : ∀ key w, (Value.object pairs).get? key = some w →
          w.depth ≤ Value.depthOfPairs pairs := fun _ _ hget =>
        Nat.le_of_lt_succ (Value.depth_lt_of_get? hget)
      have hpairs : Value.depthOfPairs output ≤ Value.depthOfPairs pairs :=
        Value.depthOfPairs_le.mpr (Spec.forall_mem_conformGroups hpresent
          (Value.depthOfPairs_le.mp (Nat.le_refl _)) houtput)
      simp only [Value.depth]
      omega
    · cases h
  | null | bool | int | float | string | bytes | list | tuple => cases h

/-! ## Whole trees -/

namespace Spec

mutual

/-- No coercion in the tree makes a value deeper than `n`, less the containers around it, that was
not as deep before. -/
def RisesTo (n : Nat) : Spec → Prop
  | decorated _ s _ => RisesTo n s
  | coerce _ coercer s _ =>
    (∀ v w, coercer.apply v = .ok w → w.depth ≤ max v.depth n) ∧ RisesTo n s
  | oneOf _ ss | allOf _ ss => AllRiseTo n ss
  | collOf _ item => RisesTo (n - 1) item
  | dict _ keys _ => KeysRiseTo (n - 1) keys
  | anything _ | never _ | predicate _ _ | equalTo _ _ | isInstance _ _ | isIn _ _ | deferred _ _
  | unbound _ _ | consistency _ _ => True

def AllRiseTo (n : Nat) : List Spec → Prop
  | [] => True
  | s :: ss => RisesTo n s ∧ AllRiseTo n ss

def KeysRiseTo (n : Nat) : List (String × Spec) → Prop
  | [] => True
  | (_, s) :: rest => RisesTo n s ∧ KeysRiseTo n rest

end

theorem allRiseTo_iff {n : Nat} {ss : List Spec} : AllRiseTo n ss ↔ ∀ s ∈ ss, s.RisesTo n := by
  induction ss with
  | nil => simp [AllRiseTo]
  | cons s ss ih => rw [AllRiseTo, List.forall_mem_cons, ih]

theorem keysRiseTo_iff {n : Nat} {keys : List (String × Spec)} :
    KeysRiseTo n keys ↔ ∀ key ∈ keys, key.2.RisesTo n := by
  induction keys with
  | nil => simp [KeysRiseTo]
  | cons key keys ih => rw [KeysRiseTo, List.forall_mem_cons, ih]

section
variable {refs : Instance → Reference → Meaning}

mutual

theorem rises_meaning (hrefs : ∀ i reference, (refs i reference).Rises 0) :
    ∀ (n : Nat) (s : Spec), s.RisesTo n → (meaning refs s).Rises n
  | _, anything _, _ | _, unbound _ _, _ => Meaning.rises_anything
  | _, never _, _ | _, predicate _ _, _ | _, equalTo _ _, _ | _, isInstance _ _, _ | _, isIn _ _, _ =>
    Meaning.rises_ofCheck _ _ _
  | n, decorated _ s _, h => rises_meaning hrefs n s (by rwa [RisesTo] at h)
  | n, coerce _ _ s _, h => by
    rw [RisesTo] at h
    exact (rises_meaning hrefs n s h.2).coerce h.1 _ _
  | n, oneOf _ ss, h => Meaning.rises_oneOf (rises_meanings hrefs n ss (by rwa [RisesTo] at h))
  | n, allOf _ ss, h => Meaning.rises_allOf (rises_meanings hrefs n ss (by rwa [RisesTo] at h))
  | n, collOf _ item, h => (rises_meaning hrefs (n - 1) item (by rwa [RisesTo] at h)).collOf _
  | n, dict _ keys _, h =>
    Meaning.rises_dict (rises_keyMeanings hrefs (n - 1) keys (by rwa [RisesTo] at h)) _
      (fun _ => List.filter_sublist.subset) _
  | n, deferred i reference, _ => fun v w h =>
    Nat.le_trans (hrefs i reference v w h) (by omega)
  | _, consistency _ _, _ => Meaning.rises_consistency _ _

theorem rises_meanings (hrefs : ∀ i reference, (refs i reference).Rises 0) :
    ∀ (n : Nat) (ss : List Spec), AllRiseTo n ss → ∀ m ∈ meanings refs ss, m.Rises n
  | _, [], _ => fun _ hm => absurd hm List.not_mem_nil
  | n, s :: ss, h => by
    rw [AllRiseTo] at h
    rw [meanings]
    exact List.forall_mem_cons.mpr ⟨rises_meaning hrefs n s h.1, rises_meanings hrefs n ss h.2⟩

theorem rises_keyMeanings (hrefs : ∀ i reference, (refs i reference).Rises 0) :
    ∀ (n : Nat) (keys : List (String × Spec)), KeysRiseTo n keys →
      ∀ key ∈ keyMeanings refs keys, key.2.Rises n
  | _, [], _ => fun _ hkey => absurd hkey List.not_mem_nil
  | n, (_, s) :: rest, h => by
    rw [KeysRiseTo] at h
    rw [keyMeanings]
    exact List.forall_mem_cons.mpr ⟨rises_meaning hrefs n s h.1, rises_keyMeanings hrefs n rest h.2⟩

end

/-- Only values up to a depth come to the parts of a tree whose coercions rise no higher. -/
theorem handsOn_risesTo (hrefs : ∀ i reference, (refs i reference).Rises 0) (depth : Nat) :
    HandsOn refs fun s v => v.depth ≤ depth ∧ ∃ n ≤ depth, s.RisesTo n where
  decorated := by
    rintro _ _ _ _ ⟨hv, n, hn, h⟩
    rw [RisesTo] at h
    exact ⟨hv, n, hn, h⟩
  coerce := by
    rintro _ _ _ _ v w ⟨hv, n, hn, h⟩ happly
    rw [RisesTo] at h
    have hw := h.1 v w happly
    exact ⟨by omega, n, hn, h.2⟩
  alternative := by
    rintro _ _ s _ ⟨hv, n, hn, h⟩ hs
    rw [RisesTo] at h
    exact ⟨hv, n, hn, allRiseTo_iff.mp h s hs⟩
  stage := by
    rintro _ s ss v ⟨hv, n, hn, h⟩
    rw [RisesTo, AllRiseTo] at h
    refine ⟨⟨hv, n, hn, h.1⟩, fun w hw => ?_⟩
    have hdepth := rises_meaning hrefs n s h.1 v w hw
    exact ⟨by omega, n, hn, by rw [RisesTo]; exact h.2⟩
  item := by
    rintro _ _ v w items ⟨hv, n, hn, h⟩ hitems hw
    rw [RisesTo] at h
    have hdepth := Value.depth_lt_of_mem_items hitems hw
    exact ⟨by omega, n - 1, by omega, h⟩
  key := by
    rintro _ _ _ key v w ⟨hv, n, hn, h⟩ hkey hw
    rw [RisesTo] at h
    have hdepth := Value.depth_lt_of_get? hw
    exact ⟨by omega, n - 1, by omega, keysRiseTo_iff.mp h key hkey⟩

end

end Spec

end Conform
