import Conform.Proofs.Spec.Meaning
import Mathlib.Data.List.Forall2
/-!
Checks against meanings. A check walks a spec and may change the session at every lazy reference; the
rules here say, for each form of spec, that the walk answers what the meaning does as long as the
walks of its parts do. What is looked up on the way is left open: it only has to keep the sessions
within an invariant.
-/

namespace Conform

namespace Check

variable {α β : Type} {stuck : Prop} {I : Session → Prop}

theorem bind_apply (x : Check α) (f : α → Check β) (s : Session) :
    (x >>= f) s = (x s).bind fun p => f p.1 p.2 := rfl

/-- From a session in `I`, what `x` answers satisfies `R` and the session stays in `I`. Whether it may
have no answer is what `stuck` says. -/
def Ensures (stuck : Prop) (I : Session → Prop) (x : Check α) (R : α → Prop) : Prop :=
  ∀ s, I s →
    match x s with
    | some (a, t) => R a ∧ I t
    | none => stuck

theorem Ensures.of_some {x : Check α} {R : α → Prop} (hx : Ensures stuck I x R) {s t : Session}
    {a : α} (hs : I s) (hrun : x s = some (a, t)) : R a ∧ I t := by
  have h := hx s hs
  rw [hrun] at h
  exact h

theorem Ensures.exists_some {x : Check α} {R : α → Prop} (hx : Ensures False I x R) {s : Session}
    (hs : I s) : ∃ a t, x s = some (a, t) ∧ R a ∧ I t := by
  have h := hx s hs
  cases hrun : x s with
  | none => rw [hrun] at h; exact h.elim
  | some p => rw [hrun] at h; exact ⟨p.1, p.2, rfl, h⟩

theorem Ensures.pure {a : α} {R : α → Prop} (h : R a) : Ensures stuck I (pure a) R :=
  fun _ hs => ⟨h, hs⟩

theorem Ensures.bind {x : Check α} {f : α → Check β} {R : α → Prop} {S : β → Prop}
    (hx : Ensures stuck I x R) (hf : ∀ a, R a → Ensures stuck I (f a) S) :
    Ensures stuck I (x >>= f) S := by
  intro s hs
  have h := hx s hs
  rw [bind_apply]
  cases hrun : x s with
  | none => rw [hrun] at h; exact h
  | some p => rw [hrun] at h; exact hf p.1 h.1 p.2 h.2

theorem Ensures.of_none {x : Check α} {R : α → Prop} (hstuck : stuck) (hx : ∀ s, x s = none) :
    Ensures stuck I x R := by
  intro s _
  rw [hx s]
  exact hstuck

theorem Ensures.mono {x : Check α} {R S : α → Prop} (hx : Ensures stuck I x R)
    (himp : ∀ a, R a → S a) : Ensures stuck I x S := by
  intro s hs
  have h := hx s hs
  cases hrun : x s with
  | none => rw [hrun] at h; exact h
  | some p => rw [hrun] at h; exact ⟨himp p.1 h.1, h.2⟩

/-- What is answered is the answer of some run. -/
theorem Ensures.ran {x : Check α} {R : α → Prop} (hx : Ensures stuck I x R) :
    Ensures stuck I x fun a => R a ∧ ∃ s t, x s = some (a, t) := by
  intro s hs
  have h := hx s hs
  cases hrun : x s with
  | none => rw [hrun] at h; exact h
  | some p => rw [hrun] at h; exact ⟨⟨h.1, s, p.2, hrun⟩, h.2⟩

/-- Of two lists in a row all is good if all of either is. -/
theorem Ensures.append {x y : Check (List α)} {good : α → Prop}
    (hx : Ensures stuck I x fun as => ∀ a ∈ as, good a)
    (hy : Ensures stuck I y fun as => ∀ a ∈ as, good a) :
    Ensures stuck I (do return (← x) ++ (← y)) fun as => ∀ a ∈ as, good a := by
  refine hx.bind fun as has => hy.bind fun bs hbs => ?_
  exact Ensures.pure fun a ha => (List.mem_append.mp ha).elim (has a) (hbs a)

end Check

open Check (Ensures)

namespace Conformed

/-- What is valid, if anything is, has the property. -/
def Yields (c : Conformed) (P : Value → Prop) : Prop := ∀ w, c = .valid w → P w

variable {P : Value → Prop} {v : Value}

theorem yields_invalid (P : Value → Prop) : invalid.Yields P := fun _ h => by cases h

theorem yields_valid (h : P v) : (valid v).Yields P := by
  intro w hw
  cases hw
  exact h

theorem yields_ofBool {passes : Bool} (h : passes = true → P v) : (ofBool passes v).Yields P := by
  cases passes with
  | true => exact yields_valid (h rfl)
  | false => exact yields_invalid P

end Conformed

namespace Spec

variable {τ : Type}

/-- The walks of a spec over a value answer what a meaning does. Of problems only what `tell` tells
is compared. -/
structure Implements (stuck : Prop) (I : Session → Prop) (d : Delegate) (tell : Problem → τ) (s : Spec)
    (m : Meaning) (v : Value) : Prop where
  conform : Ensures stuck I (conformWith d s v) (· = m.conform v)
  explain : ∀ path,
    Ensures stuck I (explainWith d s path v) fun ps => ps.map tell = (m.explain path v).map tell

/-- Problems of one spec tell the same as problems of the other. -/
def Alike (tell : Problem → τ) (s owner : Spec) : Prop :=
  ∀ path v reason, tell ⟨path, v, s, reason⟩ = tell ⟨path, v, owner, reason⟩

variable {stuck : Prop} {I : Session → Prop} {d : Delegate} {tell : Problem → τ} {id : Instance}
  {v : Value}

theorem map_rejection {s owner : Spec} (hs : Alike tell s owner) (passes : Bool) (path : Path)
    (v : Value) (reason : String) :
    (rejection passes s path v reason).map tell = (rejection passes owner path v reason).map tell := by
  cases passes <;> simp [rejection, hs path v reason]

/-! ## Leaves -/

theorem implements_anything : Implements stuck I d tell (anything id) .anything v where
  conform := by
    unfold conformWith
    exact Ensures.pure rfl
  explain path := by
    unfold explainWith
    exact Ensures.pure rfl

theorem implements_unbound {placeholder : String} :
    Implements stuck I d tell (unbound id placeholder) .anything v where
  conform := by
    unfold conformWith
    exact Ensures.pure rfl
  explain path := by
    unfold explainWith
    exact Ensures.pure rfl

theorem implements_never {owner : Spec} (hs : Alike tell (never id) owner) :
    Implements stuck I d tell (never id) (.ofCheck owner (fun _ => false) fun _ => neverReason) v where
  conform := by
    unfold conformWith
    exact Ensures.pure rfl
  explain path := by
    unfold explainWith
    exact Ensures.pure (by simp [Meaning.ofCheck, rejection, hs path v])

theorem implements_predicate {owner : Spec} {p : Predicate}
    (hs : Alike tell (predicate id p) owner) :
    Implements stuck I d tell (predicate id p) (.ofCheck owner p.passes p.reason) v where
  conform := by
    unfold conformWith
    exact Ensures.pure rfl
  explain path := by
    unfold explainWith
    exact Ensures.pure (map_rejection hs _ _ _ _)

theorem implements_equalTo {owner : Spec} {expected : Value}
    (hs : Alike tell (equalTo id expected) owner) :
    Implements stuck I d tell (equalTo id expected)
      (.ofCheck owner (·.looselyEqual expected) (equalToReason expected)) v where
  conform := by
    unfold conformWith
    exact Ensures.pure rfl
  explain path := by
    unfold explainWith
    exact Ensures.pure (map_rejection hs _ _ _ _)

theorem implements_isInstance {owner : Spec} {kind : ValueKind}
    (hs : Alike tell (isInstance id kind) owner) :
    Implements stuck I d tell (isInstance id kind)
      (.ofCheck owner (fun v => v.kind = kind) (isInstanceReason kind)) v where
  conform := by
    unfold conformWith
    exact Ensures.pure rfl
  explain path := by
    unfold explainWith
    exact Ensures.pure (map_rejection hs _ _ _ _)

theorem implements_isIn {owner : Spec} {members : List Value}
    (hs : Alike tell (isIn id members) owner) :
    Implements stuck I d tell (isIn id members)
      (.ofCheck owner (isMember members) fun _ => "not " ++ isInDescription members) v where
  conform := by
    unfold conformWith
    exact Ensures.pure rfl
  explain path := by
    unfold explainWith
    exact Ensures.pure (map_rejection hs _ _ _ _)

theorem implements_consistency {owner : Spec} {groups : List PlaceholderGroup}
    (hs : Alike tell (consistency id groups) owner) :
    Implements stuck I d tell (consistency id groups) (.consistency owner groups) v where
  conform := by
    unfold conformWith
    exact Ensures.pure rfl
  explain path := by
    unfold explainWith
    cases v with
    | object pairs => exact Ensures.pure rfl
    | null | bool | int | float | string | bytes | list | tuple =>
      exact Ensures.pure (by simp [Meaning.consistency, hs path])

/-! ## One part -/

theorem Implements.decorated {s : Spec} {m : Meaning} (h : Implements stuck I d tell s m v)
    (description : Option String) : Implements stuck I d tell (decorated id s description) m v where
  conform := by simpa using h.conform
  explain path := by simpa using h.explain path

theorem implements_coerce {s owner : Spec} {m : Meaning} {coercer : Coercer}
    {failureReason : Option (Value → String → String)}
    (hs : Alike tell (coerce id coercer s failureReason) owner)
    (h : ∀ w, coercer.apply v = .ok w → Implements stuck I d tell s m w) :
    Implements stuck I d tell (coerce id coercer s failureReason)
      (.coerce owner coercer failureReason m) v where
  conform := by
    unfold conformWith
    cases happ : coercer.apply v with
    | ok w => simpa [Meaning.coerce, happ] using (h w happ).conform
    | error e => exact Ensures.pure (by simp [Meaning.coerce, happ])
  explain path := by
    unfold explainWith
    cases happ : coercer.apply v with
    | ok w => simpa [Meaning.coerce, happ] using (h w happ).explain path
    | error e =>
      refine Ensures.pure ?_
      simp only [Meaning.coerce, happ, List.map_cons, List.map_nil]
      exact congrArg (fun t => [t]) (hs path v _)

/-! ## Alternatives -/

section
variable {ss : List Spec} {ms : List Meaning}

theorem conformFirst_ensures (h : List.Forall₂ (fun s m => Implements stuck I d tell s m v) ss ms) :
    Ensures stuck I (conformFirst d ss v) (· = Meaning.conformFirst ms v) := by
  induction h with
  | nil =>
    unfold conformFirst
    exact Ensures.pure rfl
  | cons hs _ ih =>
    unfold conformFirst
    refine hs.conform.bind fun c hc => ?_
    simp only [Meaning.conformFirst, ← hc]
    cases c with
    | valid w => exact Ensures.pure rfl
    | invalid => exact ih

theorem explainEach_ensures (h : List.Forall₂ (fun s m => Implements stuck I d tell s m v) ss ms)
    (path : Path) :
    Ensures stuck I (explainEach d ss path v) fun ps =>
      ps.map tell = (ms.flatMap fun m => m.explain path v).map tell := by
  induction h with
  | nil =>
    unfold explainEach
    exact Ensures.pure rfl
  | cons hs _ ih =>
    unfold explainEach
    refine (hs.explain path).bind fun ps hps => ?_
    refine ih.bind fun qs hqs => ?_
    exact Ensures.pure (by simp [hps, hqs])

theorem implements_oneOf (h : List.Forall₂ (fun s m => Implements stuck I d tell s m v) ss ms) :
    Implements stuck I d tell (oneOf id ss) (.oneOf ms) v where
  conform := by
    unfold conformWith
    exact conformFirst_ensures h
  explain path := by
    unfold explainWith
    refine (conformFirst_ensures h).bind fun c hc => ?_
    simp only [Meaning.oneOf, ← hc]
    split
    · exact Ensures.pure rfl
    · exact explainEach_ensures h path

/-! ## Stages -/

/-- Every stage does what its meaning does with the values that reach it. -/
inductive Staged (stuck : Prop) (I : Session → Prop) (d : Delegate) (tell : Problem → τ) :
    List Spec → List Meaning → Value → Prop
  | nil (v : Value) : Staged stuck I d tell [] [] v
  | cons {s : Spec} {m : Meaning} {ss : List Spec} {ms : List Meaning} {v : Value} :
    Implements stuck I d tell s m v → (∀ w, m.conform v = .valid w → Staged stuck I d tell ss ms w) →
      Staged stuck I d tell (s :: ss) (m :: ms) v

theorem conformThrough_ensures (h : Staged stuck I d tell ss ms v) :
    Ensures stuck I (conformThrough d ss v) (· = Meaning.conformThrough ms v) := by
  induction h with
  | nil =>
    unfold conformThrough
    exact Ensures.pure rfl
  | cons hs _ ih =>
    unfold conformThrough
    refine hs.conform.bind fun c hc => ?_
    simp only [Meaning.conformThrough, ← hc]
    cases c with
    | valid w => exact ih w hc.symm
    | invalid => exact Ensures.pure rfl

theorem explainThrough_ensures (h : Staged stuck I d tell ss ms v) (path : Path) :
    Ensures stuck I (explainThrough d ss path v) fun ps =>
      ps.map tell = (Meaning.explainThrough ms path v).map tell := by
  induction h with
  | nil =>
    unfold explainThrough
    exact Ensures.pure rfl
  | cons hs _ ih =>
    unfold explainThrough
    refine hs.conform.bind fun c hc => ?_
    simp only [Meaning.explainThrough, ← hc]
    cases c with
    | valid w => exact ih w hc.symm
    | invalid => exact hs.explain path

theorem implements_allOf (h : Staged stuck I d tell ss ms v) :
    Implements stuck I d tell (allOf id ss) (.allOf ms) v where
  conform := by
    unfold conformWith
    exact conformThrough_ensures h
  explain path := by
    unfold explainWith
    exact explainThrough_ensures h path

end

/-! ## Containers -/

section
variable {item : Spec} {m : Meaning}

/-- What is made of the items stands to them, one by one, as what is made of each stands to it. -/
theorem conformItems_forall₂ {R : Value → Value → Prop} {vs : List Value}
    (h : ∀ u ∈ vs, Ensures stuck I (conformWith d item u) (·.Yields (R · u))) :
    Ensures stuck I (conformItems (conformWith d item) vs) fun made =>
      ∀ ws, made = some ws → List.Forall₂ R ws vs := by
  induction vs with
  | nil =>
    refine Ensures.pure fun ws hws => ?_
    cases hws
    exact .nil
  | cons u vs ih =>
    obtain ⟨hu, hvs⟩ := List.forall_mem_cons.mp h
    unfold conformItems
    refine hu.bind fun c hc => ?_
    cases c with
    | invalid => exact Ensures.pure fun _ hws => by cases hws
    | valid w =>
      refine (ih hvs).bind fun made hmade => Ensures.pure fun ws hws => ?_
      obtain ⟨rest, hrest, rfl⟩ := Option.map_eq_some_iff.mp hws
      exact .cons (hc w rfl) (hmade rest hrest)

theorem conformItems_ensures {vs : List Value}
    (h : ∀ w ∈ vs, Implements stuck I d tell item m w) :
    Ensures stuck I (conformItems (conformWith d item) vs) (· = m.conformItems vs) := by
  induction vs with
  | nil => exact Ensures.pure rfl
  | cons w vs ih =>
    unfold conformItems
    refine (h w (by simp)).conform.bind fun c hc => ?_
    simp only [Meaning.conformItems, ← hc]
    cases c with
    | invalid => exact Ensures.pure rfl
    | valid u =>
      refine (ih fun u hu => h u (by simp [hu])).bind fun o ho => ?_
      exact Ensures.pure (by rw [ho])

theorem explainItems_ensures {vs : List Value} (h : ∀ w ∈ vs, Implements stuck I d tell item m w)
    (path : Path) (n : Nat) :
    Ensures stuck I (explainItems (explainWith d item) path n vs) fun ps =>
      ps.map tell = (m.explainItems path n vs).map tell := by
  induction vs generalizing n with
  | nil => exact Ensures.pure rfl
  | cons w vs ih =>
    unfold explainItems
    refine ((h w (by simp)).explain _).bind fun ps hps => ?_
    refine (ih (fun u hu => h u (by simp [hu])) (n + 1)).bind fun qs hqs => ?_
    exact Ensures.pure (by simp [Meaning.explainItems, hps, hqs])

theorem implements_collOf {owner : Spec} (hs : Alike tell (collOf id item) owner)
    (h : ∀ items, v.items? = some items → ∀ w ∈ items, Implements stuck I d tell item m w) :
    Implements stuck I d tell (collOf id item) (.collOf owner m) v where
  conform := by
    unfold conformWith
    cases v with
    | list items =>
      refine (conformItems_ensures (h items rfl)).bind fun o ho => ?_
      subst ho
      cases hitems : m.conformItems items <;>
        exact Ensures.pure (by simp [Meaning.collOf, hitems, Meaning.contain])
    | tuple items =>
      refine (conformItems_ensures (h items rfl)).bind fun o ho => ?_
      subst ho
      cases hitems : m.conformItems items <;>
        exact Ensures.pure (by simp [Meaning.collOf, hitems, Meaning.contain])
    | null | bool | int | float | string | bytes | object => exact Ensures.pure rfl
  explain path := by
    unfold explainWith
    simp only [Meaning.collOf]
    cases hitems : v.items? with
    | some items => exact explainItems_ensures (h items hitems) path 0
    | none => exact Ensures.pure (by simp [hs path v])

end

section
variable {keys : List (String × Spec)} {ms : List (String × Meaning)}

/-- Keys of one name whose specs do what the meanings do with the values under that name. -/
def KeyImplements (stuck : Prop) (I : Session → Prop) (d : Delegate) (tell : Problem → τ) (v : Value)
    (key : String × Spec) (m : String × Meaning) : Prop :=
  key.1 = m.1 ∧ ∀ w, v.get? key.1 = some w → Implements stuck I d tell key.2 m.2 w

theorem conformKeys_ensures (h : List.Forall₂ (KeyImplements stuck I d tell v) keys ms) :
    Ensures stuck I (conformKeys d keys v) (· = Meaning.conformKeys ms v) := by
  induction h with
  | nil =>
    unfold conformKeys
    exact Ensures.pure rfl
  | @cons pair pair' _ _ hpair _ ih =>
    obtain ⟨key, s⟩ := pair
    obtain ⟨key', m⟩ := pair'
    obtain ⟨hname, hs⟩ := hpair
    obtain rfl : key = key' := hname
    simp only [conformKeys, Meaning.conformKeys]
    cases hget : v.get? key with
    | none => exact Ensures.pure rfl
    | some present =>
      refine (hs present hget).conform.bind fun c hc => ?_
      simp only at hc
      simp only [← hc]
      cases c with
      | invalid => exact Ensures.pure rfl
      | valid w =>
        refine ih.bind fun o ho => ?_
        exact Ensures.pure (by rw [ho])

theorem explainKeys_ensures {s owner : Spec} (hs : Alike tell s owner)
    (h : List.Forall₂ (KeyImplements stuck I d tell v) keys ms) (path : Path) :
    Ensures stuck I (explainKeys d s keys path v) fun ps =>
      ps.map tell = (Meaning.explainKeys owner ms path v).map tell := by
  induction h with
  | nil =>
    unfold explainKeys
    exact Ensures.pure rfl
  | @cons pair pair' rest rest' hpair _ ih =>
    obtain ⟨key, part⟩ := pair
    obtain ⟨key', m⟩ := pair'
    obtain ⟨hname, hpart⟩ := hpair
    obtain rfl : key = key' := hname
    have hrest : ∀ ps, ps.map tell = (Meaning.explainKey owner path v key m).map tell →
        Ensures stuck I (do let qs ← explainKeys d s rest path v; pure (ps ++ qs))
          fun ps => ps.map tell = (Meaning.explainKeys owner ((key, m) :: rest') path v).map tell := by
      intro ps hps
      refine ih.bind fun qs hqs => ?_
      simp only [Meaning.explainKeys] at hqs
      exact Ensures.pure (by simp [Meaning.explainKeys, hps, hqs])
    unfold Meaning.explainKey at hrest
    unfold explainKeys
    cases hget : v.get? key with
    | some present =>
      simp only [hget] at hrest
      exact ((hpart present hget).explain _).bind hrest
    | none =>
      simp only [hget] at hrest
      exact hrest _ (by simp [hs _ .null])

theorem map_explainExtra {s owner : Spec} (hs : Alike tell s owner) (extra : ExtraFields)
    (path : Path) (undeclared : List (String × Value)) :
    (Meaning.explainExtra s extra path undeclared).map tell =
      (Meaning.explainExtra owner extra path undeclared).map tell := by
  simp only [Meaning.explainExtra, List.map_map]
  exact List.map_congr_left fun pair _ => hs _ _ _

theorem implements_dict {owner : Spec} {extra : ExtraFields}
    (hs : Alike tell (dict id keys extra) owner)
    (h : List.Forall₂ (KeyImplements stuck I d tell v) keys ms) :
    Implements stuck I d tell (dict id keys extra) (.dict owner (undeclared keys) extra ms) v where
  conform := by
    unfold conformWith
    cases v with
    | object pairs =>
      refine (conformKeys_ensures h).bind fun o ho => ?_
      subst ho
      simp only [Meaning.dict]
      cases hkeys : Meaning.conformKeys ms (.object pairs) with
      | none => exact Ensures.pure rfl
      | some declared =>
        cases hextra : conformExtra extra (undeclared keys pairs) <;> exact Ensures.pure rfl
    | null | bool | int | float | string | bytes | list | tuple => exact Ensures.pure rfl
  explain path := by
    unfold explainWith
    cases v with
    | object pairs =>
      refine (explainKeys_ensures hs h path).bind fun ps hps => ?_
      have hextra := map_explainExtra hs extra path (undeclared keys pairs)
      refine Ensures.pure ?_
      simp only [Meaning.dict, List.map_append, hps, ← hextra]
      rfl
    | null | bool | int | float | string | bytes | list | tuple =>
      exact Ensures.pure (by simp [Meaning.dict, hs path])

end

/-! ## Lazy references -/

/-- The outcome of a reference, if it is settled, and the meaning of the spec that is found. -/
theorem implements_deferred {reference : Reference} {m : Meaning} {found : Except SpecError Spec}
    (hfound : Ensures stuck I (d.resolve reference) (· = found))
    (herror : ∀ e, found = .error e →
      m.conform v = .invalid ∧ ∀ path, (m.explain path v).map tell =
        [tell ⟨path, v, deferred id reference, "unresolved reference: " ++ e.message⟩])
    (hok : ∀ s, found = .ok s → Ensures stuck I (d.conform s v) (· = m.conform v) ∧
      ∀ path, Ensures stuck I (d.explain s path v) fun ps =>
        ps.map tell = (m.explain path v).map tell) :
    Implements stuck I d tell (deferred id reference) m v where
  conform := by
    unfold conformWith
    refine hfound.bind fun o ho => ?_
    subst ho
    cases o with
    | ok s => exact (hok s rfl).1
    | error e => exact Ensures.pure (herror e rfl).1.symm
  explain path := by
    unfold explainWith
    refine hfound.bind fun o ho => ?_
    subst ho
    cases o with
    | ok s => exact (hok s rfl).2 path
    | error e => exact Ensures.pure (by simp [(herror e rfl).2 path])

/-! ## Whole trees -/

section
variable {refs : Instance → Reference → Meaning}

/-- `Fits` says which values may come to which specs: with a value that comes to a spec, it holds of
what the spec hands to its parts. -/
structure HandsOn (refs : Instance → Reference → Meaning) (Fits : Spec → Value → Prop) : Prop where
  decorated {i : Instance} {s : Spec} {description : Option String} {v : Value} :
    Fits (decorated i s description) v → Fits s v
  coerce {i : Instance} {coercer : Coercer} {s : Spec}
    {failureReason : Option (Value → String → String)} {v w : Value} :
    Fits (coerce i coercer s failureReason) v → coercer.apply v = .ok w → Fits s w
  alternative {i : Instance} {ss : List Spec} {s : Spec} {v : Value} :
    Fits (oneOf i ss) v → s ∈ ss → Fits s v
  stage {i : Instance} {s : Spec} {ss : List Spec} {v : Value} :
    Fits (allOf i (s :: ss)) v →
      Fits s v ∧ ∀ w, (meaning refs s).conform v = .valid w → Fits (allOf i ss) w
  item {i : Instance} {s : Spec} {v w : Value} {items : List Value} :
    Fits (collOf i s) v → v.items? = some items → w ∈ items → Fits s w
  key {i : Instance} {keys : List (String × Spec)} {extra : ExtraFields} {key : String × Spec}
    {v w : Value} : Fits (dict i keys extra) v → key ∈ keys → v.get? key.1 = some w → Fits key.2 w

theorem HandsOn.and {Fits Fits' : Spec → Value → Prop} (h : HandsOn refs Fits)
    (h' : HandsOn refs Fits') : HandsOn refs fun s v => Fits s v ∧ Fits' s v where
  decorated hv := ⟨h.decorated hv.1, h'.decorated hv.2⟩
  coerce hv happly := ⟨h.coerce hv.1 happly, h'.coerce hv.2 happly⟩
  alternative hv hs := ⟨h.alternative hv.1 hs, h'.alternative hv.2 hs⟩
  stage hv := ⟨⟨(h.stage hv.1).1, (h'.stage hv.2).1⟩,
    fun w hw => ⟨(h.stage hv.1).2 w hw, (h'.stage hv.2).2 w hw⟩⟩
  item hv hitems hw := ⟨h.item hv.1 hitems hw, h'.item hv.2 hitems hw⟩
  key hv hkey hw := ⟨h.key hv.1 hkey hw, h'.key hv.2 hkey hw⟩

variable {Fits : Spec → Value → Prop}

mutual

/-- The walks of a tree answer what it means, if they do so at its lazy references with the values
that come there. -/
theorem implements_fitting (hfits : HandsOn refs Fits)
    (hrefs : ∀ id reference v, Fits (deferred id reference) v →
      Implements stuck I d tell (deferred id reference) (refs id reference) v) :
    ∀ s v, Fits s v → Implements stuck I d tell s (meaning refs s) v
  | anything _, _, _ => implements_anything
  | never _, _, _ => implements_never fun _ _ _ => rfl
  | predicate _ _, _, _ => implements_predicate fun _ _ _ => rfl
  | equalTo _ _, _, _ => implements_equalTo fun _ _ _ => rfl
  | isInstance _ _, _, _ => implements_isInstance fun _ _ _ => rfl
  | isIn _ _, _, _ => implements_isIn fun _ _ _ => rfl
  | decorated _ s description, v, h =>
    (implements_fitting hfits hrefs s v (hfits.decorated h)).decorated description
  | coerce _ _ s _, _, h =>
    implements_coerce (fun _ _ _ => rfl) fun w happly =>
      implements_fitting hfits hrefs s w (hfits.coerce h happly)
  | oneOf _ ss, v, h =>
    implements_oneOf (implements_all hfits hrefs ss v fun _ hs => hfits.alternative h hs)
  | allOf _ ss, v, h => implements_allOf (implements_stages hfits hrefs ss v h)
  | collOf _ item, _, h =>
    implements_collOf (fun _ _ _ => rfl) fun _ hitems w hw =>
      implements_fitting hfits hrefs item w (hfits.item h hitems hw)
  | dict _ keys _, v, h =>
    implements_dict (fun _ _ _ => rfl)
      (implements_keys hfits hrefs keys v fun _ hkey _ hw => hfits.key h hkey hw)
  | deferred id reference, v, h => hrefs id reference v h
  | unbound _ _, _, _ => implements_unbound
  | consistency _ _, _, _ => implements_consistency fun _ _ _ => rfl

theorem implements_all (hfits : HandsOn refs Fits)
    (hrefs : ∀ id reference v, Fits (deferred id reference) v →
      Implements stuck I d tell (deferred id reference) (refs id reference) v) :
    ∀ ss v, (∀ s ∈ ss, Fits s v) →
      List.Forall₂ (fun s m => Implements stuck I d tell s m v) ss (meanings refs ss)
  | [], _, _ => .nil
  | s :: ss, v, h =>
    .cons (implements_fitting hfits hrefs s v (h s List.mem_cons_self))
      (implements_all hfits hrefs ss v fun t ht => h t (List.mem_cons_of_mem s ht))

theorem implements_stages (hfits : HandsOn refs Fits)
    (hrefs : ∀ id reference v, Fits (deferred id reference) v →
      Implements stuck I d tell (deferred id reference) (refs id reference) v) {i : Instance} :
    ∀ ss v, Fits (allOf i ss) v → Staged stuck I d tell ss (meanings refs ss) v
  | [], v, _ => .nil v
  | s :: ss, v, h =>
    .cons (implements_fitting hfits hrefs s v (hfits.stage h).1) fun w hw =>
      implements_stages hfits hrefs ss w ((hfits.stage h).2 w hw)

theorem implements_keys (hfits : HandsOn refs Fits)
    (hrefs : ∀ id reference v, Fits (deferred id reference) v →
      Implements stuck I d tell (deferred id reference) (refs id reference) v) :
    ∀ (keys : List (String × Spec)) (v : Value),
      (∀ key ∈ keys, ∀ w, v.get? key.1 = some w → Fits key.2 w) →
        List.Forall₂ (KeyImplements stuck I d tell v) keys (keyMeanings refs keys)
  | [], _, _ => .nil
  | (name, s) :: rest, v, h =>
    .cons
      ⟨rfl, fun w hw => implements_fitting hfits hrefs s w (h (name, s) List.mem_cons_self w hw)⟩
      (implements_keys hfits hrefs rest v fun key hkey => h key (List.mem_cons_of_mem _ hkey))

end

/-- The walks of a tree answer what it means if they do so at its lazy references. -/
theorem implements_meaning
    (hrefs : ∀ id reference v,
      Implements stuck I d tell (deferred id reference) (refs id reference) v) (s : Spec)
    (v : Value) : Implements stuck I d tell s (meaning refs s) v := by
  have hfits : HandsOn refs fun _ _ => True :=
    ⟨fun _ => trivial, fun _ _ => trivial, fun _ _ => trivial, fun _ => ⟨trivial, fun _ _ => trivial⟩,
      fun _ _ _ => trivial, fun _ _ _ => trivial⟩
  exact implements_fitting hfits (fun id reference v _ => hrefs id reference v) s v trivial

end

end Spec

end Conform
