import Conform.Proofs.Check.Verdict
import Conform.Proofs.Value.Equality
import Conform.Proofs.Value.Sort
import Mathlib.Data.List.Induction
/-!
Sets. A set drops the members that an earlier one is loosely equal to, which costs it values where loose
equality is not transitive; without floats it comes down to its distinct members in order, so that sets
of the same members are one.
-/

namespace Conform

open Value (FloatFree TellsApart IsExact)

namespace Spec

/-! ## What a set keeps -/

/-- The members that no earlier one is loosely equal to. -/
def distinct (members : List Value) : List Value :=
  members.foldl (fun kept m => if isMember kept m then kept else kept ++ [m]) []

theorem isMember_iff {members : List Value} {v : Value} :
    isMember members v = true ↔ ∃ m ∈ members, m.looselyEqual v = true :=
  List.any_eq_true

theorem distinct_concat (members : List Value) (m : Value) : distinct (members ++ [m]) =
    if isMember (distinct members) m then distinct members else distinct members ++ [m] := by
  rw [distinct, List.foldl_append]
  rfl

section
variable {members : List Value} {m k : Value}

theorem mem_of_mem_distinct (h : k ∈ distinct members) : k ∈ members := by
  induction members using List.reverseRecOn with
  | nil => exact absurd h List.not_mem_nil
  | append_singleton members m ih =>
    rw [distinct_concat] at h
    split at h
    · exact List.mem_append_left _ (ih h)
    · rcases List.mem_append.mp h with h | h
      · exact List.mem_append_left _ (ih h)
      · exact List.mem_append_right _ h

/-- A member that was dropped has one in its place. -/
theorem exists_mem_distinct (h : m ∈ members) :
    ∃ k ∈ distinct members, k = m ∨ k.looselyEqual m = true := by
  induction members using List.reverseRecOn with
  | nil => exact absurd h List.not_mem_nil
  | append_singleton members n ih =>
    rw [distinct_concat]
    rcases List.mem_append.mp h with h | h
    · obtain ⟨k, hk, hkm⟩ := ih h
      split
      · exact ⟨k, hk, hkm⟩
      · exact ⟨k, List.mem_append_left _ hk, hkm⟩
    · obtain rfl := List.mem_singleton.mp h
      split
      next hmember =>
        obtain ⟨k, hk, hkm⟩ := isMember_iff.mp hmember
        exact ⟨k, hk, .inr hkm⟩
      next => exact ⟨m, List.mem_append_right _ h, .inl rfl⟩

theorem pairwise_distinct (members : List Value) :
    (distinct members).Pairwise fun k m => ¬k.looselyEqual m = true := by
  induction members using List.reverseRecOn with
  | nil => exact .nil
  | append_singleton members n ih =>
    rw [distinct_concat]
    split
    · exact ih
    next hmember =>
      refine List.pairwise_append.mpr ⟨ih, List.pairwise_singleton _ _, fun k hk m hm hkm => ?_⟩
      obtain rfl := List.mem_singleton.mp hm
      exact hmember (isMember_iff.mpr ⟨k, hk, hkm⟩)

theorem canonicalMembers_perm (members : List Value) :
    (canonicalMembers members).Perm (distinct members) :=
  Value.sort_perm _

theorem isMember_canonicalMembers (members : List Value) (v : Value) :
    isMember (canonicalMembers members) v = isMember (distinct members) v :=
  (canonicalMembers_perm members).any_eq

end

/-! ## Membership -/

section
variable {p q : Value → Prop} {members : List Value} {v : Value}

/-- Nothing is lost with the dropped members if the members' integers are told apart. -/
theorem isMember_canonicalMembers_of_tellsApart (h : TellsApart p q)
    (hmembers : ∀ m ∈ members, m.MadeOf p) (hv : v.MadeOf q) :
    isMember (canonicalMembers members) v = isMember members v := by
  rw [isMember_canonicalMembers, Bool.eq_iff_iff, isMember_iff, isMember_iff]
  constructor
  · rintro ⟨k, hk, hkv⟩
    exact ⟨k, mem_of_mem_distinct hk, hkv⟩
  · rintro ⟨m, hm, hmv⟩
    obtain ⟨k, hk, rfl | hkm⟩ := exists_mem_distinct hm
    · exact ⟨k, hk, hmv⟩
    · have hk' := hmembers k (mem_of_mem_distinct hk)
      exact ⟨k, hk, h.looselyEqual_trans hk' (hmembers m hm) hv hkm hmv⟩

end

/-! ## Sets without floats -/

section
variable {members members' : List Value} (h : ∀ m ∈ members, m.FloatFree)
include h

theorem nodup_canonicalMembers : (canonicalMembers members).Nodup := by
  refine (canonicalMembers_perm members).nodup_iff.mpr ?_
  refine (pairwise_distinct members).imp_of_mem fun hk hm hkm heq => hkm ?_
  exact (FloatFree.looselyEqual_iff_eq (h _ (mem_of_mem_distinct hk))
    (h _ (mem_of_mem_distinct hm))).mpr heq

theorem mem_canonicalMembers {v : Value} : v ∈ canonicalMembers members ↔ v ∈ members := by
  rw [(canonicalMembers_perm members).mem_iff]
  refine ⟨mem_of_mem_distinct, fun hv => ?_⟩
  obtain ⟨k, hk, rfl | hkv⟩ := exists_mem_distinct hv
  · exact hk
  · rwa [← (FloatFree.looselyEqual_iff_eq (h k (mem_of_mem_distinct hk)) (h v hv)).mp hkv]

theorem canonicalMembers_pairwise :
    (canonicalMembers members).Pairwise fun v w => v.totalCompare w = .lt := by
  have hascending : (canonicalMembers members).Pairwise fun v w => (v.totalCompare w).isLE :=
    Value.sort_pairwise Value.unblurred_floatFree fun k hk => h k (mem_of_mem_distinct hk)
  refine (hascending.and (nodup_canonicalMembers h)).imp_of_mem fun {v w} hv hw hvw => ?_
  cases hcompare : v.totalCompare w with
  | lt => rfl
  | eq =>
    have hv' := h v ((mem_canonicalMembers h).mp hv)
    have hw' := h w ((mem_canonicalMembers h).mp hw)
    exact absurd ((FloatFree.totalCompare_eq_iff hv' hw').mp hcompare) hvw.2
  | gt =>
    rw [hcompare] at hvw
    exact absurd hvw.1 nofun

/-- What a set comes to depends on what its members are, not on their order or how often each occurs. -/
theorem canonicalMembers_congr (h' : ∀ m ∈ members', m.FloatFree)
    (hsame : ∀ v, v ∈ members ↔ v ∈ members') :
    canonicalMembers members = canonicalMembers members' := by
  have hperm : (canonicalMembers members).Perm (canonicalMembers members') := by
    refine (List.perm_ext_iff_of_nodup (nodup_canonicalMembers h) (nodup_canonicalMembers h')).mpr ?_
    intro v
    rw [mem_canonicalMembers h, mem_canonicalMembers h', hsame]
  refine hperm.eq_of_pairwise (fun v w _ _ hvw hwv => ?_) (canonicalMembers_pairwise h)
    (canonicalMembers_pairwise h')
  rw [Value.totalCompare_swap v w, hvw] at hwv
  cases hwv

example : canonicalMembers [.string "b", .list [.int 2], .int 2, .string "b", .null] =
    [.null, .int 2, .string "b", .list [.int 2]] := by
  decide +kernel

theorem equal_isIn_self (i j : Instance) :
    (isIn i (canonicalMembers members)).equal (isIn j (canonicalMembers members)) = true := by
  have hitems : Value.itemsEqualBy Value.scalarEqual (canonicalMembers members)
      (canonicalMembers members) = true := by
    refine Value.itemsEqualBy_iff.mpr (List.forall₂_same.mpr fun v hv => ?_)
    have hv' := h v ((mem_canonicalMembers h).mp hv)
    exact (FloatFree.equal_iff_eq hv' hv').mpr rfl
  exact Bool.or_eq_true_iff.mpr (.inr hitems)

end

end Spec

namespace Build

/-! ## What sets answer -/

/-- At any time the spec is described by one text, and rejects what it does not accept for one reason. -/
structure AnswersFor (spec : Spec) (text reason : String) (accepts : Value → Bool) : Prop where
  describe (u : Session) : Check.describe spec u = some (text, u)
  conform (v : Value) (u : Session) : Check.conform spec v u = some (.ofBool (accepts v) v, u)
  explain (path : Path) (v : Value) (u : Session) :
    Check.explain spec path v u = some (Spec.rejection (accepts v) spec path v reason, u)

theorem answersFor_isIn (i : Instance) (members : List Value) :
    AnswersFor (.isIn i members) (Spec.isInDescription members)
      ("not " ++ Spec.isInDescription members) (Spec.isMember members) where
  describe _ := rfl
  conform _ _ := rfl
  explain _ _ _ := rfl

theorem verdict_isIn (members : List Value) (v : Value) :
    Verdict (isIn members) v (Spec.isMember (Spec.canonicalMembers members) v) := fun _ =>
  ⟨_, _, rfl, (answersFor_isIn _ _).conform v⟩

/-! ## Dropped members -/

/-- Dropping members changes no answer exactly if there is no float among the members' scalars that is
loosely equal to an integer among them and to another one among the values. -/
theorem isIn_accepts_iff (p q : Value → Prop) :
    (∀ members v, (∀ m ∈ members, m.MadeOf p) → v.MadeOf q →
      Verdict (isIn members) v (Spec.isMember members v)) ↔ TellsApart p q := by
  constructor
  · intro h m n x hm hx hn hmx hnx
    have hmadeOf : ∀ k ∈ [.int m, .float x], Value.MadeOf p k :=
      List.forall_mem_cons.mpr ⟨Value.madeOf_int.mpr hm,
        List.forall_mem_singleton.mpr (Value.madeOf_float.mpr hx)⟩
    have hverdict := h [.int m, .float x] (.int n) hmadeOf (Value.madeOf_int.mpr hn)
    have hmember : Spec.isMember [.int m, .float x] (.int n) = true :=
      Spec.isMember_iff.mpr ⟨.float x, by simp, (Value.looselyEqual_float_int x n).trans hnx⟩
    -- The float is dropped for the first integer, so that no other integer is a member.
    have hdropped : Spec.isMember [.int m] (.float x) = true :=
      Spec.isMember_iff.mpr ⟨.int m, by simp, (Value.looselyEqual_int_float m x).trans hmx⟩
    have hdistinct : Spec.distinct [.int m, .float x] = [.int m] := by
      have hfirst : Spec.distinct [.int m] = [.int m] := rfl
      rw [← List.singleton_append, Spec.distinct_concat, hfirst, if_pos hdropped]
    have hkept := hverdict.unique (verdict_isIn _ _)
    rw [Spec.isMember_canonicalMembers, hdistinct, hmember] at hkept
    obtain ⟨k, hk, hkn⟩ := Spec.isMember_iff.mp hkept.symm
    obtain rfl := List.mem_singleton.mp hk
    exact Value.looselyEqual_int_int.mp hkn
  · intro h members v hmembers hv
    rw [← Spec.isMember_canonicalMembers_of_tellsApart h hmembers hv]
    exact verdict_isIn members v

/-- 2 ^ 53 is loosely equal to the second member, which was dropped for the first. -/
theorem isIn_rejects_member :
    Verdict (isIn [.int 9007199254740993, .float ⟨false, 1076, 0⟩]) (.int 9007199254740992) false ∧
      Spec.isMember [.int 9007199254740993, .float ⟨false, 1076, 0⟩]
        (.int 9007199254740992) = true := by
  have hkept : Spec.isMember (Spec.canonicalMembers [.int 9007199254740993, .float ⟨false, 1076, 0⟩])
      (.int 9007199254740992) = false := by decide +kernel
  exact ⟨hkept ▸ verdict_isIn _ _, by decide +kernel⟩

theorem tellsApart_isExact : TellsApart IsExact IsExact := fun _ _ _ hm _ hn hmx hnx =>
  Int64.toInt_inj.mp (Double.eq_of_equal_ofInt hm hn hmx hnx)

/-- As long as the integers are doubles exactly, dropping members changes no answer. -/
theorem isIn_accepts_exact : TellsApart IsExact IsExact ∧
    ∀ members v, (∀ m ∈ members, m.MadeOf IsExact) → v.MadeOf IsExact →
      Verdict (isIn members) v (Spec.isMember members v) :=
  ⟨tellsApart_isExact, (isIn_accepts_iff IsExact IsExact).mpr tellsApart_isExact⟩

/-! ## Canonical sets -/

/-- Without floats a set keeps each of its members once and in ascending order; and two sets of the same
members are equal specs with the same description, that reject the same values for the same reason. -/
theorem isIn_canonical :
    (∀ members, (∀ m ∈ members, m.FloatFree) → ∀ s, ∃ i kept t,
      (isIn members).run s = (.ok (.isIn i kept), t) ∧
        kept.Pairwise (fun v w => v.totalCompare w = .lt) ∧ kept.Nodup ∧
          ∀ v, v ∈ kept ↔ v ∈ members) ∧
    ∀ members members', (∀ m ∈ members, m.FloatFree) → (∀ m ∈ members', m.FloatFree) →
      (∀ v, v ∈ members ↔ v ∈ members') → ∀ s s', ∃ spec spec' t t' text reason accepts,
        (isIn members).run s = (.ok spec, t) ∧ (isIn members').run s' = (.ok spec', t') ∧
          spec.equal spec' = true ∧ AnswersFor spec text reason accepts ∧
            AnswersFor spec' text reason accepts := by
  constructor
  · intro members h s
    exact ⟨_, _, _, rfl, Spec.canonicalMembers_pairwise h, Spec.nodup_canonicalMembers h,
      fun v => Spec.mem_canonicalMembers h⟩
  · intro members members' h h' hsame s s'
    have hcongr := Spec.canonicalMembers_congr h h' hsame
    refine ⟨_, _, _, _, _, _, _, rfl, rfl, ?_, answersFor_isIn _ _, hcongr ▸ answersFor_isIn _ _⟩
    rw [← hcongr]
    exact Spec.equal_isIn_self h _ _

/-- A string and a list, in either order and the string twice. -/
theorem isIn_canonical_rearranged :
    (∀ m ∈ [.string "b", .list [.int 1], .string "b"], Value.FloatFree m) ∧
    (∀ m ∈ [.list [.int 1], .string "b"], Value.FloatFree m) ∧
    (∀ s, ∃ i kept t,
      (isIn [.string "b", .list [.int 1], .string "b"]).run s = (.ok (.isIn i kept), t) ∧
        kept.Pairwise (fun v w => v.totalCompare w = .lt)) ∧
    ∀ s s', ∃ spec spec' t t' text reason accepts,
      (isIn [.string "b", .list [.int 1], .string "b"]).run s = (.ok spec, t) ∧
        (isIn [.list [.int 1], .string "b"]).run s' = (.ok spec', t') ∧
          spec.equal spec' = true ∧ AnswersFor spec text reason accepts ∧
            AnswersFor spec' text reason accepts := by
  have h : ∀ m ∈ [.string "b", .list [.int 1], .string "b"], Value.FloatFree m := by
    simp [Value.FloatFree, Value.MadeOf, Value.AllMadeOf, Value.kind]
  have h' : ∀ m ∈ [.list [.int 1], .string "b"], Value.FloatFree m := by
    simp [Value.FloatFree, Value.MadeOf, Value.AllMadeOf, Value.kind]
  have hsame : ∀ v : Value, v ∈ [.string "b", .list [.int 1], .string "b"] ↔
      v ∈ [.list [.int 1], .string "b"] := by
    intro v
    simp only [List.mem_cons, List.not_mem_nil, or_false]
    tauto
  refine ⟨h, h', fun s => ?_, isIn_canonical.2 _ _ h h' hsame⟩
  obtain ⟨i, kept, t, hrun, hascending, -⟩ := isIn_canonical.1 _ h s
  exact ⟨i, kept, t, hrun, hascending⟩

end Build

end Conform
