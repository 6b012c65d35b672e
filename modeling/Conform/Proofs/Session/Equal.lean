import Conform.Proofs.Check.Consistency
import Conform.Proofs.Check.Describe
import Conform.Proofs.Session.Calls
import Conform.Proofs.Session.Instances
import Conform.Proofs.Spec.Equal
/-!
Equality of the specs that callers can get hold of. Of these no two share an instance, so specs are equal that
are one spec or have equal identities; that is an equivalence, and equal specs conform every value alike.
-/

namespace Conform

/-! ## Checks -/

/-- Specs that were made stay made, and look-ups make more. -/
theorem Session.course_holds :
    Course fun s t => ∀ W, s.Holds W → ∃ V, W ⊆ V ∧ t.Holds V where
  refl _ W hs := ⟨W, subset_rfl, hs⟩
  trans hst htu W hs := by
    obtain ⟨V, hV, ht⟩ := hst W hs
    obtain ⟨U, hU, hu⟩ := htu V ht
    exact ⟨U, hV.trans hU, hu⟩
  look reference s W hs := by
    obtain ⟨V, hV, ht, _⟩ := Build.brings_resolve reference W s subset_rfl hs
    exact ⟨V, hV, ht⟩

namespace Caller

/-! ## Callers -/

/-- A spec that a caller can get hold of: one that it kept, or that the session keeps, one that a placeholder
group implies, or one that is in such a spec. -/
inductive Has (c : Caller) : Spec → Prop
  | kept {spec : Spec} : spec ∈ c.specs → Has c spec
  | named {name : String} {spec : Spec} : (name, spec) ∈ c.session.names → Has c spec
  | memoized {key : MemoKey} {spec : Spec} : (key, spec) ∈ c.session.memo → Has c spec
  | behind {cell : Nat} {spec : Spec} : (cell, spec) ∈ c.session.filled → Has c spec
  | implied (kind : ValueKind) : Has c (.isInstance (.implied kind) kind)
  | inner {spec part : Spec} : Has c spec → part ∈ spec.inner → Has c part

/-- A step of a caller: it makes a spec, or it keeps one that it can get hold of, binds a name to it, holds a value
against it or has it described; or registries change, come and go. -/
inductive Goes (c : Caller) : Caller → Prop
  | make {x : Build Spec} : Build.Makes c.specs x → Goes c (c.keep (x.run c.session)).2
  | keep {spec : Spec} : c.Has spec → Goes c ⟨c.session, c.specs ++ [spec]⟩
  | bind (name : String) {spec : Spec} : c.Has spec → Goes c ⟨c.session.bindSpec name spec, c.specs⟩
  | conform {spec : Spec} {v : Value} {outcome : Conformed} {s : Session} : c.Has spec →
    Check.conform spec v c.session = some (outcome, s) → Goes c ⟨s, c.specs⟩
  | explain {spec : Spec} {path : Path} {v : Value} {problems : List Problem} {s : Session} : c.Has spec →
    Check.explain spec path v c.session = some (problems, s) → Goes c ⟨s, c.specs⟩
  | describe {spec : Spec} {text : String} {s : Session} : c.Has spec →
    Check.describe spec c.session = some (text, s) → Goes c ⟨s, c.specs⟩
  | registries (registries : List Registry) (handles : List (String × Nat)) :
    Goes c ⟨{ c.session with registries := registries, handles := handles }, c.specs⟩

/-- A caller that began with nothing. -/
def Reached (c : Caller) : Prop := Relation.ReflTransGen Goes ⟨.empty, []⟩ c

/-- All specs that the caller keeps, and all of its session, are among those that were made. -/
structure Within (c : Caller) (W : Set Spec) : Prop where
  session : c.session.Holds W
  specs : ∀ spec ∈ c.specs, spec ∈ W

variable {c c' : Caller} {W : Set Spec} {a b d : Spec}

theorem Within.has (h : c.Within W) (ha : c.Has a) : a ∈ W := by
  induction ha with
  | kept hmem => exact h.specs _ hmem
  | named hmem => exact h.session.names _ hmem
  | memoized hmem => exact h.session.memo _ hmem
  | behind hmem => exact h.session.filled _ hmem
  | implied kind => exact h.session.implied kind
  | inner _ hpart ih => exact h.session.inner _ ih _ hpart

/-- What a step makes is made then, and all else was made before. -/
theorem Within.goes (h : c.Within W) (hgoes : c.Goes c') : ∃ V, c'.Within V := by
  have hcheck : ∀ s, (∃ V, W ⊆ V ∧ Session.Holds s V) → ∃ V, Within ⟨s, c.specs⟩ V := by
    rintro s ⟨V, hV, hs⟩
    exact ⟨V, hs, fun spec hspec => hV (h.specs spec hspec)⟩
  have hwithin := Spec.along_within Session.course_holds
  -- Only what is made is new; all other steps keep to what the caller can get hold of.
  cases hgoes with
  | @make x hmakes =>
    obtain ⟨V, hV, hs, hmade⟩ := hmakes.brings h.specs W c.session subset_rfl h.session
    have hspecs : ∀ spec ∈ c.specs, spec ∈ V := fun spec hspec => hV (h.specs spec hspec)
    refine ⟨V, ?_⟩
    rcases hrun : x.run c.session with ⟨e | spec, s⟩
    · rw [hrun] at hs
      exact ⟨hs, hspecs⟩
    · rw [hrun] at hs hmade
      exact ⟨hs, List.forall_mem_append.mpr ⟨hspecs, List.forall_mem_singleton.mpr (hmade spec rfl)⟩⟩
  | keep hspec =>
    exact ⟨W, h.session, List.forall_mem_append.mpr ⟨h.specs, List.forall_mem_singleton.mpr (h.has hspec)⟩⟩
  | bind name hspec =>
    refine ⟨W, { h.session with names := ?_ }, h.specs⟩
    refine List.forall_mem_cons.mpr ⟨h.has hspec, fun entry hentry => ?_⟩
    exact h.session.names entry (List.mem_of_mem_filter hentry)
  | conform _ hrun => exact hcheck _ ((hwithin _ _ _).conform _ _ _ hrun W h.session)
  | explain _ hrun => exact hcheck _ ((hwithin _ _ _).explain _ _ _ _ hrun W h.session)
  | describe _ hrun => exact hcheck _ (Spec.describe_along Session.course_holds _ _ _ _ _ hrun W h.session)
  | registries => exact ⟨W, { h.session with }, h.specs⟩

theorem Reached.within (hc : Reached c) : ∃ W, c.Within W := by
  induction hc with
  | refl => exact ⟨_, .empty, nofun⟩
  | tail _ hgoes ih =>
    obtain ⟨W, hW⟩ := ih
    exact hW.goes hgoes

/-- No two specs that a caller can get hold of share an instance. -/
theorem Reached.eq_of_id (hc : Reached c) (ha : c.Has a) (hb : c.Has b) (h : a.id = b.id) : a = b := by
  obtain ⟨W, hW⟩ := hc.within
  exact hW.session.single a (hW.has ha) b (hW.has hb) h

/-! ## Equality -/

theorem Reached.equal_iff (hc : Reached c) (ha : c.Has a) (hb : c.Has b) :
    a.equal b = true ↔ a = b ∨ a.Identified b := by
  rw [Spec.equal_iff]
  exact or_congr_left ⟨hc.eq_of_id ha hb, congrArg Spec.id⟩

/-- Of two calls that find the same behind lazy references, equal specs give the same outcome. -/
theorem conform_eq_of_finds {f : Forecast} {v : Value} {s s' t t' : Session} {outcome outcome' : Conformed}
    (h : a = b ∨ a.Identified b) (hrun : Check.conform a v s = some (outcome, t))
    (hs : Check.ConformFinds f a v s) (hrun' : Check.conform b v s' = some (outcome', t'))
    (hs' : Check.ConformFinds f b v s') : outcome = outcome' := by
  rcases h with rfl | hidentified
  · exact Check.conform_eq_of_meaning_eq (fun _ => rfl) hrun hs hrun' hs'
  · obtain ⟨i, j, hi, hj, hij⟩ := hidentified
    rw [Spec.conform_of_identity hi] at hrun
    rw [Spec.conform_of_identity hj] at hrun'
    cases hrun
    cases hrun'
    rw [hij.accepts_eq]

/-- Equality of specs is an equivalence, and equal specs conform every value alike: from one session to the same
outcome and the same session, and from any two to the same outcome if both calls find the same behind every
lazy reference. -/
theorem equal_extensional (hc : Reached c) (ha : c.Has a) (hb : c.Has b) (hd : c.Has d) :
    a.equal a = true ∧ (a.equal b = true → b.equal a = true) ∧
      (a.equal b = true → b.equal d = true → a.equal d = true) ∧
      (a.equal b = true → ∀ v, (∀ s, Check.conform a v s = Check.conform b v s) ∧
        ∀ f s s' t t' outcome outcome', Check.ConformFinds f a v s → Check.ConformFinds f b v s' →
          Check.conform a v s = some (outcome, t) → Check.conform b v s' = some (outcome', t') →
            outcome = outcome') := by
  rw [hc.equal_iff ha ha, hc.equal_iff ha hb, hc.equal_iff hb ha, hc.equal_iff hb hd, hc.equal_iff ha hd]
  refine ⟨.inl rfl, ?_, ?_, fun h v => ⟨fun s => ?_, ?_⟩⟩
  · rintro (rfl | h)
    · exact .inl rfl
    · exact .inr h.symm
  · rintro (rfl | h) (rfl | h')
    · exact .inl rfl
    · exact .inr h'
    · exact .inr h
    · exact .inr (h.trans h')
  · rcases h with rfl | h
    · rfl
    · exact h.conform_eq v s
  · exact fun f s s' t t' outcome outcome' hs hs' hrun hrun' => conform_eq_of_finds h hrun hs hrun' hs'

/-! ### Zeros -/

/-- The spec of an equal value in a list. -/
def ofOne (serial : Nat) (x : Double) : Spec := .equalTo (.made serial) (.list [.float x])

def zeros : Caller :=
  ⟨{ Session.empty with nextSerial := 3 }, [ofOne 0 (.zero false), ofOne 1 (.zero true), ofOne 2 (.nan false)]⟩

theorem reached_zeros : Reached zeros := by
  have hmake : ∀ (c : Caller) x, Goes c (c.keep ((Build.equalTo (.list [.float x])).run c.session)).2 :=
    fun c x => .make (.constructs (.equalTo _))
  have hfirst := (Relation.ReflTransGen.refl (r := Goes) (a := ⟨.empty, []⟩)).tail (hmake _ (.zero false))
  exact (hfirst.tail (hmake _ (.zero true))).tail (hmake _ (.nan false))

/-- The zeros are equal where they stand in values, and so are their specs, which take one and the same list. What
is not a number differs from itself, but its spec does not. -/
theorem equal_extensional_zeros :
    Reached zeros ∧ zeros.Has (ofOne 0 (.zero false)) ∧ zeros.Has (ofOne 1 (.zero true)) ∧
      zeros.Has (ofOne 2 (.nan false)) ∧
      ((ofOne 0 (.zero false)).equal (ofOne 1 (.zero true)) = true ∧
        (ofOne 1 (.zero true)).equal (ofOne 0 (.zero false)) = true ∧
        (ofOne 0 (.zero false)).equal (ofOne 0 (.zero false)) = true ∧
        ∃ outcome,
          Check.conform (ofOne 0 (.zero false)) (.list [.int 0]) .empty = some (outcome, .empty) ∧
          Check.conform (ofOne 1 (.zero true)) (.list [.int 0]) .empty = some (outcome, .empty) ∧
          Check.conform (ofOne 1 (.zero true)) (.list [.int 0]) zeros.session =
            some (outcome, zeros.session)) ∧
      (Value.list [.float (.nan false)]).equal (.list [.float (.nan false)]) = false ∧
      (ofOne 2 (.nan false)).equal (ofOne 2 (.nan false)) = true := by
  have hzero : zeros.Has (ofOne 0 (.zero false)) := .kept (List.mem_of_getElem? (i := 0) rfl)
  have hminus : zeros.Has (ofOne 1 (.zero true)) := .kept (List.mem_of_getElem? (i := 1) rfl)
  have hnan : zeros.Has (ofOne 2 (.nan false)) := .kept (List.mem_of_getElem? (i := 2) rfl)
  have hequal : (ofOne 0 (.zero false)).equal (ofOne 1 (.zero true)) = true := by decide +kernel
  obtain ⟨_, hsymm, htrans, hconform⟩ := equal_extensional reached_zeros hzero hminus hzero
  obtain ⟨hnow, hlater⟩ := hconform hequal (.list [.int 0])
  obtain ⟨outcome, hrun⟩ : ∃ outcome,
      Check.conform (ofOne 0 (.zero false)) (.list [.int 0]) .empty = some (outcome, .empty) := ⟨_, rfl⟩
  obtain ⟨outcome', hrun'⟩ : ∃ outcome',
      Check.conform (ofOne 1 (.zero true)) (.list [.int 0]) zeros.session =
        some (outcome', zeros.session) := ⟨_, rfl⟩
  obtain rfl : outcome = outcome' :=
    hlater (fun _ => .error .registryDropped) _ _ _ _ _ _ rfl rfl hrun hrun'
  exact ⟨reached_zeros, hzero, hminus, hnan,
    ⟨hequal, hsymm hequal, htrans hequal (hsymm hequal), outcome, hrun, (hnow .empty).symm.trans hrun, hrun'⟩,
    by decide +kernel, (equal_extensional reached_zeros hnan hnan hnan).1⟩

end Caller

end Conform
