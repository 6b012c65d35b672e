import Conform.Proofs.Kind.Loosening
import Conform.Proofs.Kind.Reorders
import Conform.Proofs.Session.Direct
/-!
Specs that are derived under looser configurations. A union may come to accept a value by another
alternative, with another outcome, but what was accepted is not rejected; and where all keys are kept
the outcome is the value itself up to the order of pairs.
-/

namespace Conform

namespace Registry

/-- The spec of the kind can be had at any time, and from then on the value has this outcome. -/
def Yields (r : Registry) (k : Kind) (v : Value) (outcome : Conformed) : Prop :=
  ∀ before after : List Call,
    let c := ((Caller.of r).run 0 before).2
    ∃ c', c.call 0 (.specFor k) = (.made, c') ∧
      ((c'.run 0 after).2.call 0 (.conform c.specs.length v)).1 = .conformed outcome

/-- The registry with another mode for keys that are not declared. -/
def withExtra (r : Registry) (extra : ExtraFields) : Registry :=
  r.under { r.config with extra := extra }

/-- The registry with the check of placeholders on or off. -/
def withCheck (r : Registry) (checkPlaceholders : Bool) : Registry :=
  r.under { r.config with checkPlaceholders := checkPlaceholders }

section
variable {r : Registry} {k : Kind}

theorem WellFormed.yields (hr : r.WellFormed) (hk : k.WellFormed r) (v : Value) :
    r.Yields k v ((k.meaning 0 (r.refs 0 (v.depth + 1))).conform v) := by
  intro before after
  obtain ⟨kinds, hc⟩ := (Caller.Sound.of r r.BuiltinUnregistered).run hr.settled.toClosed before
  obtain ⟨c', hmade, hmeans⟩ := hc.specFor_means hr hk
  exact ⟨c', hmade, (hmeans after).1 v⟩

/-- The outcome under a configuration that differs in no builtin name, and whether it is a value. -/
theorem WellFormed.exists_yields (hr : r.WellFormed) (hk : k.WellFormed r) (v : Value)
    (config : DeriveConfig) (h : config.builtinNames = r.config.builtinNames) :
    ∃ outcome, (r.under config).Yields k v outcome ∧
      (outcome.isValid = true ↔ Matches (r.under config) v k) ∧
      (config.extra = .allow → v.DistinctKeys → ∀ w, outcome = .valid w → w.Permuted v) := by
  have hr' := hr.under h
  have hk' := (wellFormed_kind_under h).mpr hk
  refine ⟨_, hr'.yields hk' v, Kind.meaning_isValid_iff_matches hr' hk' (Nat.lt_succ_self _), ?_⟩
  exact fun hextra hv w hw => reorders_meaning hextra _ k v w hv hw

end

/-- Loosening the configuration rejects nothing that was accepted. Keys that are not declared may as
well be kept as dropped; they may be dropped as well as forbidden; and placeholders may go unchecked.
Where all keys are kept, and no object has a key twice, the outcome is the value up to the order of the
pairs in its objects. -/
theorem WellFormed.loosening {r : Registry} (hr : r.WellFormed) {k : Kind} (hk : k.WellFormed r)
    (v : Value) :
    ∃ allowed ignored forbidden checked unchecked,
      (r.withExtra .allow).Yields k v allowed ∧ (r.withExtra .ignore).Yields k v ignored ∧
      (r.withExtra .forbid).Yields k v forbidden ∧ (r.withCheck true).Yields k v checked ∧
      (r.withCheck false).Yields k v unchecked ∧
      (allowed.isValid = true ↔ ignored.isValid = true) ∧
      (forbidden.isValid = true → ignored.isValid = true) ∧
      (checked.isValid = true → unchecked.isValid = true) ∧
      (v.DistinctKeys → ∀ w, allowed = .valid w → w.Permuted v) := by
  obtain ⟨allowed, hallowed, hallow, hsame⟩ :=
    hr.exists_yields hk v { r.config with extra := .allow } rfl
  obtain ⟨ignored, hignored, hignore, _⟩ :=
    hr.exists_yields hk v { r.config with extra := .ignore } rfl
  obtain ⟨forbidden, hforbidden, hforbid, _⟩ :=
    hr.exists_yields hk v { r.config with extra := .forbid } rfl
  obtain ⟨checked, hchecked, hcheck, _⟩ :=
    hr.exists_yields hk v { r.config with checkPlaceholders := true } rfl
  obtain ⟨unchecked, hunchecked, huncheck, _⟩ :=
    hr.exists_yields hk v { r.config with checkPlaceholders := false } rfl
  refine ⟨allowed, ignored, forbidden, checked, unchecked, hallowed, hignored, hforbidden, hchecked,
    hunchecked, ?_, ?_, ?_, hsame rfl⟩
  · rw [hallow, hignore]
    have hkeep : { r.config with extra := .allow }.Looser { r.config with extra := .ignore } :=
      .of_extra r.config (by decide)
    have hdrop : { r.config with extra := .ignore }.Looser { r.config with extra := .allow } :=
      .of_extra r.config (by decide)
    exact ⟨Matches.loosen hdrop k v, Matches.loosen hkeep k v⟩
  · rw [hforbid, hignore]
    exact Matches.loosen (.of_extra r.config fun _ => rfl) k v
  · rw [hcheck, huncheck]
    exact Matches.loosen (.unchecked r.config true) k v

/-- A chain of numbers whose second node has a key that is not declared. -/
def overfull : Value :=
  .object [("name", .string "a"), ("note", .string "b"), ("value", .int 1),
    ("next", .object [("more", .null), ("name", .string "c"), ("next", .null), ("note", .string "d"),
      ("value", .int 2)])]

theorem WellFormed.loosening_chain :
    chain.WellFormed ∧ (Kind.record "Node" [.leaf .int]).WellFormed .chain ∧ overfull.DistinctKeys ∧
      ∃ allowed ignored forbidden checked unchecked,
        (chain.withExtra .allow).Yields (.record "Node" [.leaf .int]) overfull allowed ∧
        (chain.withExtra .ignore).Yields (.record "Node" [.leaf .int]) overfull ignored ∧
        (chain.withExtra .forbid).Yields (.record "Node" [.leaf .int]) overfull forbidden ∧
        (chain.withCheck true).Yields (.record "Node" [.leaf .int]) overfull checked ∧
        (chain.withCheck false).Yields (.record "Node" [.leaf .int]) overfull unchecked ∧
        (allowed.isValid = true ↔ ignored.isValid = true) ∧
        (forbidden.isValid = true → ignored.isValid = true) ∧
        (checked.isValid = true → unchecked.isValid = true) ∧
        ∀ w, allowed = .valid w → w.Permuted overfull := by
  have hk : (Kind.record "Node" [.leaf .int]).WellFormed .chain := by decide +kernel
  have hdistinct : overfull.DistinctKeys := by
    simp [overfull, Value.DistinctKeys, Value.PairsDistinctKeys]
  obtain ⟨allowed, ignored, forbidden, checked, unchecked, hallowed, hignored, hforbidden, hchecked,
    hunchecked, hallow, hforbid, hcheck, hsame⟩ := WellFormed.loosening wellFormed_chain hk overfull
  exact ⟨wellFormed_chain, hk, hdistinct, allowed, ignored, forbidden, checked, unchecked, hallowed,
    hignored, hforbidden, hchecked, hunchecked, hallow, hforbid, hcheck, hsame hdistinct⟩

end Registry

end Conform
