import Conform.Proofs.Session.Follows
import Conform.Proofs.Session.Construct
import Mathlib.Data.Set.Insert
/-!
One instance, one spec. Whatever makes specs, of what is at hand, by derivation or by a look behind a lazy
reference, makes each of them around an instance that none was before, so of all specs that were ever made no two
share an instance. The specs that were made so far are a set that grows with the session.
-/

namespace Conform

/-! ## The specs that were made -/

/-- All specs of the session are among those that were made, and so are the specs in these; of them no two
share an instance, and the instances that are yet to be made are of none. -/
structure Session.Holds (s : Session) (W : Set Spec) : Prop where
  single : ∀ a ∈ W, ∀ b ∈ W, a.id = b.id → a = b
  inner : ∀ spec ∈ W, ∀ part ∈ spec.inner, part ∈ W
  made : ∀ spec ∈ W, ∀ n, spec.id = .made n → n < s.nextSerial
  implied : ∀ kind, .isInstance (.implied kind) kind ∈ W
  names : ∀ entry ∈ s.names, entry.2 ∈ W
  memo : ∀ entry ∈ s.memo, entry.2 ∈ W
  filled : ∀ entry ∈ s.filled, entry.2 ∈ W

namespace Session.Holds

variable {s : Session} {W : Set Spec}

/-- Before anything is made there are only the implied specs. -/
theorem empty : Session.empty.Holds {spec | ∃ kind, spec = .isInstance (.implied kind) kind} where
  single := by
    rintro _ ⟨k, rfl⟩ _ ⟨l, rfl⟩ h
    obtain rfl : k = l := by cases h; rfl
    rfl
  inner := by
    rintro _ ⟨k, rfl⟩ part hpart
    cases hpart
  made := by
    rintro _ ⟨k, rfl⟩ n h
    cases h
  implied kind := ⟨kind, rfl⟩
  names := nofun
  memo := nofun
  filled := nofun

/-- A new instance is of none of the specs that were made. -/
theorem make (h : s.Holds W) {spec : Spec} (hid : spec.id = .made s.nextSerial)
    (hinner : ∀ part ∈ spec.inner, part ∈ W) :
    Session.Holds { s with nextSerial := s.nextSerial + 1 } (insert spec W) where
  single a ha b hb hab := by
    have hnew : ∀ c ∈ W, c.id ≠ spec.id := fun c hc heq =>
      absurd (h.made c hc s.nextSerial (heq.trans hid)) (Nat.lt_irrefl _)
    rcases ha with rfl | ha <;> rcases hb with rfl | hb
    · rfl
    · exact absurd hab.symm (hnew b hb)
    · exact absurd hab (hnew a ha)
    · exact h.single a ha b hb hab
  inner a ha part hpart := by
    rcases ha with rfl | ha
    · exact .inr (hinner part hpart)
    · exact .inr (h.inner a ha part hpart)
  made a ha n hn := by
    rcases ha with rfl | ha
    · obtain rfl : s.nextSerial = n := by
        rw [hid] at hn
        cases hn
        rfl
      exact Nat.lt_succ_self _
    · exact Nat.lt_succ_of_lt (h.made a ha n hn)
  implied kind := .inr (h.implied kind)
  names entry hentry := .inr (h.names entry hentry)
  memo entry hentry := .inr (h.memo entry hentry)
  filled entry hentry := .inr (h.filled entry hentry)

end Session.Holds

namespace Build

open Session (newInstance)

/-- More and more specs were made. -/
def amongMade : Stages (Set Spec) where
  Upto V W := V ⊆ W
  Holds W s := s.Holds W
  refl _ := subset_rfl
  trans := Set.Subset.trans

/-- The build goes on from a session that holds these specs, and maybe more, to one that holds more still. -/
abbrev Brings {α : Type} (W : Set Spec) (x : Build α) (R : Set Spec → α → Prop) : Prop :=
  Carries amongMade W x R

/-- The spec is among those that were made. -/
def Among (V : Set Spec) (spec : Spec) : Prop := spec ∈ V

section
variable {W : Set Spec}

/-- A spec is made of specs that were made before, around a new instance. -/
theorem brings_made {make : Instance → Spec} (hid : ∀ i, (make i).id = i)
    (hinner : ∀ i, ∀ part ∈ (make i).inner, part ∈ W) :
    Brings W (do return make (← newInstance)) Among := by
  intro V s hV hs
  refine ⟨insert (make (.made s.nextSerial)) V, Set.subset_insert _ _,
    hs.make (hid _) fun part hpart => hV (hinner _ part hpart), fun spec hspec => ?_⟩
  cases hspec
  exact Set.mem_insert _ _

theorem brings_leaf {make : Instance → Spec} (hid : ∀ i, (make i).id = i)
    (hinner : ∀ i, (make i).inner = []) : Brings W (do return make (← newInstance)) Among :=
  brings_made hid fun i part hpart => by
    rw [hinner] at hpart
    cases hpart

theorem brings_newCell : Brings W Session.newCell fun _ _ => True := fun V _ _ hs =>
  ⟨V, subset_rfl, { hs with }, fun _ _ => trivial⟩

theorem carried_among : Carried amongMade Among where
  mono hW hspec := hW hspec
  made hid _ hinner := brings_made hid hinner

end

/-! ## Derivations -/

open Session (refer memoize deriveKind deriveKinds deriveFields recordSpec deriveShape liveRegistry derive specFor
  find resolve)

section
variable {W : Set Spec} {registry : Nat} {deriveRecord : String → List Kind → Build Spec}

theorem brings_refer (label : String) (target : Target) : Brings W (refer label target) Among :=
  brings_newCell.bind fun _ _ _ _ => brings_leaf (fun _ => rfl) fun _ => rfl

mutual

theorem brings_deriveKind (h : ∀ V name args, W ⊆ V → Brings V (deriveRecord name args) Among) :
    ∀ k : Kind, Brings W (deriveKind registry deriveRecord k) Among
  | .leaf _ | .nothing | .placeholder _ => by
    unfold deriveKind
    exact brings_leaf (fun _ => rfl) fun _ => rfl
  | .record name args => h W name args subset_rfl
  | .forward _ _ => brings_refer _ _
  | .list item => by
    unfold deriveKind
    refine (brings_deriveKind h item).bind fun V spec _ hspec => ?_
    exact brings_made (fun _ => rfl) fun _ => List.forall_mem_singleton.mpr hspec
  | .union ks => by
    unfold deriveKind
    refine (brings_deriveKinds h ks).bind fun V specs _ hspecs => ?_
    exact brings_made (fun _ => rfl) fun _ => hspecs

theorem brings_deriveKinds (h : ∀ V name args, W ⊆ V → Brings V (deriveRecord name args) Among) :
    ∀ ks : List Kind, Brings W (deriveKinds registry deriveRecord ks) fun V specs =>
      ∀ spec ∈ specs, Among V spec
  | [] => carries_pure fun _ _ => List.forall_mem_nil _
  | k :: ks => by
    unfold deriveKinds
    refine (brings_deriveKind h k).bind fun V spec hV hspec => ?_
    refine ((brings_deriveKinds h ks).mono hV).bind fun V' specs hV' hspecs => ?_
    exact carries_pure fun V'' hV'' => List.forall_mem_cons.mpr
      ⟨hV'' (hV' hspec), fun spec' hspec' => hV'' (hspecs spec' hspec')⟩

end

theorem brings_deriveFields (h : ∀ V name args, W ⊆ V → Brings V (deriveRecord name args) Among)
    (fields : List Field) : Brings W (deriveFields registry deriveRecord fields) fun V keys =>
      ∀ key ∈ keys, Among V key.2 := by
  induction fields with
  | nil => exact carries_pure fun _ _ => List.forall_mem_nil _
  | cons f fields ih =>
    unfold deriveFields
    refine (brings_deriveKind h f.kind).bind fun V spec hV hspec => ?_
    refine (ih.mono hV).bind fun V' keys hV' hkeys => ?_
    exact carries_pure fun V'' hV'' => List.forall_mem_cons.mpr
      ⟨hV'' (hV' hspec), fun key hkey => hV'' (hkeys key hkey)⟩

/-- The spec of a record is made part by part. -/
theorem recordSpec_eq (config : DeriveConfig) (label : String) (groups : List PlaceholderGroup)
    (keys : List (String × Spec)) :
    recordSpec config label groups keys = (do
      let dict ← (do return Spec.dict (← newInstance) keys config.extra)
      let spec ←
        (if config.checkPlaceholders && !groups.isEmpty then do
          let consistency ← (do return Spec.consistency (← newInstance) groups)
          return Spec.allOf (← newInstance) [dict, consistency]
        else return dict)
      return Spec.decorated (← newInstance) spec (some label)) := by
  unfold recordSpec
  cases config.checkPlaceholders && !groups.isEmpty <;> simp [bind_assoc]

theorem brings_recordSpec (config : DeriveConfig) (label : String) (groups : List PlaceholderGroup)
    {keys : List (String × Spec)} (hkeys : ∀ key ∈ keys, Among W key.2) :
    Brings W (recordSpec config label groups keys) Among := by
  have hdict : Brings W (do return Spec.dict (← newInstance) keys config.extra) Among :=
    brings_made (fun _ => rfl) fun _ => List.forall_mem_map.mpr hkeys
  have hgrouped : ∀ V dict, Among V dict → Brings V (do
      let consistency ← (do return Spec.consistency (← newInstance) groups)
      return Spec.allOf (← newInstance) [dict, consistency]) Among := by
    intro V dict hdict
    refine (brings_leaf (fun _ => rfl) fun _ => rfl).bind fun V' consistency hV' hconsistency => ?_
    exact brings_made (fun _ => rfl) fun _ =>
      List.forall_mem_cons.mpr ⟨hV' hdict, List.forall_mem_singleton.mpr hconsistency⟩
  rw [recordSpec_eq]
  refine hdict.bind fun V dict _ hdict => Carries.bind (R := Among) ?_ fun V' spec _ hspec => ?_
  · split
    · exact hgrouped V dict hdict
    · exact carries_pure fun V' hV' => hV' hdict
  · exact brings_made (fun _ => rfl) fun _ => List.forall_mem_singleton.mpr hspec

theorem brings_memoize (key : MemoKey) {spec : Spec} (hspec : Among W spec) :
    Brings W (memoize key spec) Among := by
  intro V s hV hs
  rw [Session.run_memoize]
  cases hkept : s.memo.lookup key with
  | some kept =>
    refine ⟨V, subset_rfl, hs, fun made hmade => ?_⟩
    cases hmade
    exact hs.memo _ (mem_of_lookup_pair hkept)
  | none =>
    refine ⟨V, subset_rfl, { hs with memo := ?_ }, fun made hmade => ?_⟩
    · exact List.forall_mem_append.mpr ⟨hs.memo, List.forall_mem_singleton.mpr (hV hspec)⟩
    · cases hmade
      exact hV hspec

/-- A derivation asks the memo first. -/
theorem brings_recalled {memoizing : Bool} {key : MemoKey} {x : Build Spec}
    (hx : Brings W x Among) :
    Brings W (do
      let s ← get
      match if memoizing then s.memo.lookup key else none with
      | some kept => return kept
      | none => x) Among := by
  refine carries_get.bind fun V s hV hs => ?_
  split
  · next kept hkept =>
    refine carries_pure fun V' hV' => hV' (hs.memo (key, kept) (mem_of_lookup_pair ?_))
    cases memoizing with
    | true => exact hkept
    | false => cases hkept
  · exact hx.mono hV

theorem brings_deriveShape (id : Nat) (r : Registry) (steps : Nat) (stack : List String) (name : String)
    (args : List Kind) : Brings W (deriveShape id r steps stack name args) Among := by
  -- The shapes that a field mentions are derived with a step less, among all that was made by then.
  induction steps generalizing W stack name args with
  | zero =>
    unfold deriveShape
    refine brings_recalled ?_
    split
    · exact brings_refer _ _
    · exact (carries_lift _).bind fun _ _ _ _ => (carries_lift _).bind fun _ _ _ _ => brings_refer _ _
  | succ steps ih =>
    unfold deriveShape
    refine brings_recalled ?_
    split
    · exact brings_refer _ _
    · refine (carries_lift _).bind fun _ shape _ _ => (carries_lift _).bind fun _ _ _ _ => ?_
      refine (carries_lift _).bind fun _ fields _ _ => ?_
      refine (brings_deriveFields (fun _ name args _ => ih _ name args) fields).bind
        fun _ keys _ hkeys => ?_
      refine (brings_recordSpec _ _ _ hkeys).bind fun V spec _ hspec => ?_
      split
      · exact brings_memoize _ hspec
      · exact carries_pure fun V' hV' => hV' hspec

theorem brings_liveRegistry (id : Nat) : Brings W (liveRegistry id) fun _ _ => True := by
  refine carries_get.bind fun V s _ _ => ?_
  split
  · split
    · exact carries_pure fun _ _ => trivial
    · exact carries_throw _
  · exact carries_throw _

theorem brings_derive (id : Nat) (name : String) (args : List Kind) :
    Brings W (derive id name args) Among :=
  (brings_liveRegistry id).bind fun _ _ _ _ => brings_deriveShape _ _ _ _ _ _

theorem brings_specFor (id : Nat) (k : Kind) : Brings W (specFor id k) Among :=
  (brings_liveRegistry id).bind fun _ _ _ _ =>
    brings_deriveKind (fun _ _ _ _ => brings_deriveShape _ _ _ _ _ _) k

/-! ## Lazy references -/

theorem brings_find (target : Target) : Brings W (find target) Among := by
  cases target with
  | shape id name args => exact brings_derive id name args
  | forward id name args =>
    refine (brings_liveRegistry id).bind fun V r _ _ => ?_
    split
    · exact brings_derive id name args
    · split
      · exact brings_leaf (fun _ => rfl) fun _ => rfl
      · exact carries_throw _
  | bound name =>
    refine carries_get.bind fun V s _ hs => ?_
    split
    · next spec hspec =>
      exact carries_pure fun V' hV' => hV' (hs.names (name, spec) (mem_of_lookup_pair hspec))
    · exact carries_throw _

theorem brings_fill (cell : Nat) {spec : Spec} (hspec : Among W spec) :
    Brings W (modify fun s : Session => { s with filled := s.filled ++ [(cell, spec)] })
      fun _ _ => True := by
  intro V s hV hs
  refine ⟨V, subset_rfl, { hs with filled := ?_ }, fun _ _ => trivial⟩
  exact List.forall_mem_append.mpr ⟨hs.filled, List.forall_mem_singleton.mpr (hV hspec)⟩

theorem brings_resolve (reference : Reference) : Brings W (resolve reference) Among := by
  refine carries_get.bind fun V s _ hs => ?_
  split
  · next spec hspec =>
    refine carries_pure fun V' hV' => hV' (hs.filled (reference.cell, spec) ?_)
    exact mem_of_lookup_pair hspec
  · refine (brings_find reference.target).bind fun V' spec _ hspec => ?_
    refine (brings_fill reference.cell hspec).bind fun U _ hU _ => ?_
    exact carries_pure fun U' hU' => hU' (hU hspec)

end

/-! ## All that makes specs -/

section
variable {W : Set Spec} {specs : List Spec}

/-- The ways to make a spec where some are at hand. -/
inductive Makes (specs : List Spec) : Build Spec → Prop
  | constructs {x : Build Spec} : Constructs specs x → Makes specs x
  | specize {of : Speccable} : of.AtHand specs → Makes specs of.specize
  /-- Also a union of nothing. -/
  | oneOf {of : List Speccable} : (∀ part ∈ of, part.AtHand specs) → Makes specs (oneOf of)
  | unbound (placeholder : String) : Makes specs (unbound placeholder)
  | consistency (groups : List PlaceholderGroup) : Makes specs (consistency groups)
  | deferred (label name : String) : Makes specs (deferred label name)
  | matching (text : String) : Makes specs (matching text)
  | coerceTo (coercer : Coercer) (kind : ValueKind) : Makes specs (coerceTo coercer kind)
  | derive (id : Nat) (name : String) (args : List Kind) : Makes specs (Session.derive id name args)
  | specFor (id : Nat) (kind : Kind) : Makes specs (Session.specFor id kind)
  | resolve (reference : Reference) : Makes specs (Session.resolve reference)

theorem Makes.brings (hspecs : ∀ spec ∈ specs, Among W spec) {x : Build Spec} (h : Makes specs x) :
    Brings W x Among := by
  cases h with
  | constructs h => exact h.carries carried_among hspecs
  | specize hof => exact Speccable.specize_carries carried_among hspecs hof
  | oneOf hof =>
    refine (Speccable.specize_all_carries carried_among hspecs hof).bind fun V alternatives _ hmade => ?_
    exact brings_made (fun _ => rfl) fun _ => hmade.2
  | unbound | consistency => exact brings_leaf (fun _ => rfl) fun _ => rfl
  | deferred label name => exact brings_newCell.bind fun _ _ _ _ => brings_leaf (fun _ => rfl) fun _ => rfl
  | matching text =>
    unfold Build.matching
    split
    · exact brings_leaf (fun _ => rfl) fun _ => rfl
    · exact carries_throw _
  | coerceTo coercer kind =>
    refine (brings_leaf (fun _ => rfl) fun _ => rfl).bind fun V spec _ hspec => ?_
    exact brings_made (fun _ => rfl) fun _ => List.forall_mem_singleton.mpr hspec
  | derive id name args => exact brings_derive id name args
  | specFor id kind => exact brings_specFor id kind
  | resolve reference => exact brings_resolve reference

end

end Build

end Conform
