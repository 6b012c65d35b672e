import Conform.Proofs.Check.Membership
import Conform.Proofs.Value.Text
/-!
Texts that readers can rely on. Without floats and bytes two values of one text are equal, so that the reason
for a rejection never shows the expected value and the actual one alike, and sets that are described alike are
equal specs.
-/

namespace Conform

open Value (Readable)

namespace Spec

section
variable {members members' : List Value}

theorem readable_canonicalMembers (h : ∀ m ∈ members, m.Readable) :
    Readable (.list (canonicalMembers members)) := by
  refine Value.madeOf_list.mpr fun m hm => h m ?_
  exact (mem_canonicalMembers fun m hm => (h m hm).floatFree).mp hm

/-- The description of a set tells the members that it keeps. -/
theorem isInDescription_injective (h : ∀ m ∈ members, m.Readable) (h' : ∀ m ∈ members', m.Readable)
    (htext : isInDescription (canonicalMembers members) =
      isInDescription (canonicalMembers members')) :
    canonicalMembers members = canonicalMembers members' := by
  rw [← String.toList_inj, isInDescription, isInDescription, String.toList_append,
    String.toList_append] at htext
  have hshown := String.toList_inj.mp (List.append_cancel_left htext)
  exact Value.list.inj ((readable_canonicalMembers h).shown_injective (readable_canonicalMembers h')
    hshown)

/-- What is shown of a value is not shown of one that it is not equal to. -/
theorem shown_ne_of_rejected {expected v : Value} (hexpected : expected.Readable) (hv : v.Readable)
    (h : v.looselyEqual expected = false) : expected.shown ≠ v.shown := by
  intro hshown
  obtain rfl := hexpected.shown_injective hv hshown
  have hequal := (Value.FloatFree.looselyEqual_iff_eq hv.floatFree hv.floatFree).mpr rfl
  rw [hequal] at h
  cases h

end

end Spec

namespace Build

/-- Without floats and bytes in them values of one text are equal; a problem of an equality spec shows two
texts that differ, for the value that is expected and the one that is there; and two sets are equal specs
as soon as they are described by one text. -/
theorem shown_unambiguous :
    (∀ v w : Value, v.Readable → w.Readable → v.shown = w.shown → v = w ∧ v.equal w = true) ∧
    (∀ expected v : Value, expected.Readable → v.Readable → ∀ s, ∃ spec t,
      (equalTo expected).run s = (.ok spec, t) ∧ ∀ path u, ∃ problems,
        Check.explain spec path v u = some (problems, u) ∧ ∀ p ∈ problems,
          p.value = v ∧ p.reason = Spec.equalToReason expected v ∧ expected.shown ≠ v.shown) ∧
    ∀ members members' : List Value, (∀ m ∈ members, m.Readable) → (∀ m ∈ members', m.Readable) →
      ∀ s s', ∃ spec spec' t t', (isIn members).run s = (.ok spec, t) ∧
        (isIn members').run s' = (.ok spec', t') ∧ ∀ u u', ∃ text text',
          Check.describe spec u = some (text, u) ∧ Check.describe spec' u' = some (text', u') ∧
            (text = text' → spec.equal spec' = true) := by
  refine ⟨fun v w hv hw h => ?_, fun expected v hexpected hv s => ?_,
    fun members members' h h' s s' => ?_⟩
  · obtain rfl := hv.shown_injective hw h
    exact ⟨rfl, (Value.FloatFree.equal_iff_eq hv.floatFree hv.floatFree).mpr rfl⟩
  · refine ⟨_, _, rfl, fun path u => ⟨_, rfl, fun p hp => ?_⟩⟩
    cases haccepted : v.looselyEqual expected with
    | true =>
      rw [Spec.rejection, haccepted] at hp
      exact absurd hp List.not_mem_nil
    | false =>
      rw [Spec.rejection, haccepted] at hp
      obtain rfl := List.mem_singleton.mp hp
      exact ⟨rfl, rfl, Spec.shown_ne_of_rejected hexpected hv haccepted⟩
  · refine ⟨_, _, _, _, rfl, rfl, fun u u' => ⟨_, _, rfl, rfl, fun htext => ?_⟩⟩
    rw [← Spec.isInDescription_injective h h' htext]
    exact Spec.equal_isIn_self (fun m hm => (h m hm).floatFree) _ _

/-- One string with a list's punctuation in it, two strings, and sets of both. -/
theorem shown_unambiguous_punctuated :
    (Readable (.list [.string "a\", \"b"]) ∧ Readable (.list [.string "a", .string "b"]) ∧
      (Value.list [.string "a\", \"b"]).shown ≠ (Value.list [.string "a", .string "b"]).shown) ∧
    (∀ s, ∃ spec t, (equalTo (.list [.string "a", .string "b"])).run s = (.ok spec, t) ∧
      ∀ path u, ∃ p, Check.explain spec path (.list [.string "a\", \"b"]) u = some ([p], u) ∧
        p.reason = Spec.equalToReason (.list [.string "a", .string "b"]) (.list [.string "a\", \"b"])) ∧
    ∀ s s', ∃ spec spec' t t',
      (isIn [.string "b", .list [.string "a\", \"b"]]).run s = (.ok spec, t) ∧
        (isIn [.list [.string "a\", \"b"], .string "b", .string "b"]).run s' = (.ok spec', t') ∧
          spec.equal spec' = true := by
  have hone : Readable (.list [.string "a\", \"b"]) := by
    simp [Readable, Value.MadeOf, Value.AllMadeOf, Value.kind]
  have htwo : Readable (.list [.string "a", .string "b"]) := by
    simp [Readable, Value.MadeOf, Value.AllMadeOf, Value.kind]
  have hstring : Readable (.string "b") := by simp [Readable, Value.MadeOf, Value.kind]
  obtain ⟨htold, hrejected, hsets⟩ := shown_unambiguous
  refine ⟨⟨hone, htwo, fun hshown => ?_⟩, fun s => ?_, fun s s' => ?_⟩
  · exact absurd (htold _ _ hone htwo hshown).1 (by decide)
  · obtain ⟨spec, t, hrun, hexplain⟩ := hrejected _ _ htwo hone s
    refine ⟨spec, t, hrun, fun path u => ?_⟩
    obtain ⟨problems, hproblems, hreason⟩ := hexplain path u
    obtain rfl := Except.ok.inj (Prod.mk.inj hrun).1
    obtain rfl := (Prod.mk.inj (Option.some.inj hproblems)).1
    exact ⟨_, rfl, (hreason _ List.mem_cons_self).2.1⟩
  · obtain ⟨spec, spec', t, t', hrun, hrun', hdescribe⟩ :=
      hsets [.string "b", .list [.string "a\", \"b"]]
        [.list [.string "a\", \"b"], .string "b", .string "b"]
        (List.forall_mem_cons.mpr ⟨hstring, List.forall_mem_singleton.mpr hone⟩)
        (List.forall_mem_cons.mpr ⟨hone, by simp [hstring]⟩) s s'
    refine ⟨spec, spec', t, t', hrun, hrun', ?_⟩
    obtain ⟨text, text', htext, htext', hequal⟩ := hdescribe s s'
    obtain rfl := Except.ok.inj (Prod.mk.inj hrun).1
    obtain rfl := Except.ok.inj (Prod.mk.inj hrun').1
    refine hequal ?_
    rw [← (Prod.mk.inj (Option.some.inj htext)).1, ← (Prod.mk.inj (Option.some.inj htext')).1]
    have hkept : Spec.canonicalMembers [.string "b", .list [.string "a\", \"b"]] =
        Spec.canonicalMembers [.list [.string "a\", \"b"], .string "b", .string "b"] := by
      decide +kernel
    rw [hkept]

end Build

end Conform
