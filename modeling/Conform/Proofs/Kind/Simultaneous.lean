import Conform.Proofs.Kind.Substitution
/-!
Substitution replaces all bound placeholders at once and leaves alone all else. Placeholders that stand
for themselves change nothing; and reading the result is reading the kind, but that in the place of a
placeholder there is what it stands for.
-/

namespace Conform.Kind

/-! ## Placeholders that stand for themselves -/

/-- Every name stands for the placeholder of that name. -/
def themselves (names : List String) : Bindings := names.map fun n => (n, placeholder n)

theorem substitute_themselves_placeholder (names : List String) (p : String) :
    (placeholder p).substitute (themselves names) = placeholder p := by
  unfold substitute
  cases hlookup : (themselves names).lookup p with
  | none => rfl
  | some image =>
    obtain ⟨before, after, hnames, _⟩ := List.lookup_eq_some_iff.mp hlookup
    have hmem : (p, image) ∈ themselves names := hnames ▸ List.mem_append_right _ List.mem_cons_self
    obtain ⟨n, _, heq⟩ := List.mem_map.mp hmem
    cases heq
    rfl

section
variable {bindings : Bindings}

mutual

/-- A substitution that keeps every placeholder in the kind keeps the kind. -/
theorem substitute_eq_self : ∀ {k : Kind},
    (∀ p, k.Mentions p → (placeholder p).substitute bindings = placeholder p) →
      k.substitute bindings = k
  | leaf _, _ | nothing, _ => rfl
  | placeholder p, h => h p (List.mem_singleton_self _)
  | record name args, h | forward name args, h => by
    have hargs := @substituteAll_eq_self args fun p hp => h p (List.mem_cons_of_mem _ hp)
    rw [substitute, hargs]
  | list item, h => by
    have hitem := @substitute_eq_self item fun p hp => h p (List.mem_cons_of_mem _ hp)
    rw [substitute, hitem]
  | union ks, h => by
    have hks := @substituteAll_eq_self ks fun p hp => h p (List.mem_cons_of_mem _ hp)
    rw [substitute, hks]

theorem substituteAll_eq_self : ∀ {ks : List Kind},
    (∀ p, placeholder p ∈ partsOfAll ks → (placeholder p).substitute bindings = placeholder p) →
      substituteAll bindings ks = ks
  | [], _ => rfl
  | k :: ks, h => by
    have hk := @substitute_eq_self k fun p hp => h p (List.mem_append_left _ hp)
    have hks := @substituteAll_eq_self ks fun p hp => h p (List.mem_append_right _ hp)
    rw [substituteAll, hk, hks]

end

end

theorem substitute_themselves (names : List String) (k : Kind) : k.substitute (themselves names) = k :=
  substitute_eq_self fun p _ => substitute_themselves_placeholder names p

/-! ## Reading a kind -/

/-- What a kind says before the kinds in it are looked at. -/
inductive Head where
  | leaf (of : ValueKind)
  | nothing
  | record (name : String) (args : Nat)
  | forward (name : String) (args : Nat)
  | list
  | union (alternatives : Nat)
  | placeholder (name : String)
  deriving DecidableEq

def head : Kind → Head
  | leaf k => .leaf k
  | nothing => .nothing
  | record name args => .record name args.length
  | forward name args => .forward name args.length
  | list _ => .list
  | union ks => .union ks.length
  | placeholder p => .placeholder p

/-- The heads of the kind and of all kinds within it, outer ones first. -/
def heads (k : Kind) : List Head := k.parts.map head

/-- What is read after a substitution where a head was. -/
def Head.replaced (bindings : Bindings) : Head → List Head
  | .placeholder p => ((Kind.placeholder p).substitute bindings).heads
  | h => [h]

section
variable {bindings : Bindings}

theorem length_substituteAll (ks : List Kind) : (substituteAll bindings ks).length = ks.length := by
  rw [substituteAll_eq_map, List.length_map]

mutual

theorem heads_substitute : ∀ k : Kind,
    (k.substitute bindings).heads = k.heads.flatMap (Head.replaced bindings)
  | leaf _ | nothing => rfl
  | placeholder p => (List.append_nil _).symm
  | record name args | forward name args => by
    have hargs := heads_substituteAll args
    simp only [heads, substitute, parts, List.map_cons, head, length_substituteAll, hargs]
    rfl
  | list item => by
    have hitem := heads_substitute item
    unfold heads at hitem
    simp only [heads, substitute, parts, List.map_cons, head, hitem]
    rfl
  | union ks => by
    have hks := heads_substituteAll ks
    simp only [heads, substitute, parts, List.map_cons, head, length_substituteAll, hks]
    rfl

theorem heads_substituteAll : ∀ ks : List Kind,
    (partsOfAll (substituteAll bindings ks)).map head =
      ((partsOfAll ks).map head).flatMap (Head.replaced bindings)
  | [] => rfl
  | k :: ks => by
    have hk := heads_substitute k
    unfold heads at hk
    simp only [substituteAll, partsOfAll, List.map_append, List.flatMap_append, hk,
      heads_substituteAll ks]

end

/-- What is left is a placeholder that is not bound, or it comes from what one in the kind is bound to. -/
theorem mentions_substitute_iff {k : Kind} {q : String} : (k.substitute bindings).Mentions q ↔
    k.Mentions q ∧ bindings.lookup q = none ∨
      ∃ p image, k.Mentions p ∧ bindings.lookup p = some image ∧ image.Mentions q := by
  rw [mentions_substitute]
  constructor
  · rintro ⟨p, hp, hq⟩
    unfold substitute at hq
    cases hlookup : bindings.lookup p with
    | none =>
      rw [hlookup] at hq
      cases List.mem_singleton.mp hq
      exact .inl ⟨hp, hlookup⟩
    | some image =>
      rw [hlookup] at hq
      exact .inr ⟨p, image, hp, hlookup, hq⟩
  · rintro (⟨hp, hlookup⟩ | ⟨p, image, hp, hlookup, hq⟩)
    · refine ⟨q, hp, ?_⟩
      rw [substitute, hlookup]
      exact List.mem_singleton_self _
    · refine ⟨p, hp, ?_⟩
      rw [substitute, hlookup]
      exact hq

end

/-- Two substitutions come to one; placeholders that stand for themselves change nothing; what
placeholders are left is told by the kind and the bindings; and all heads in the kind are read again in
the result, in the same order, but for placeholders that are replaced. -/
theorem substitute_simultaneous (k : Kind) (inner outer : Bindings) :
    (k.substitute inner).substitute outer = k.substitute (compose inner outer) ∧
      (∀ names, k.substitute (themselves names) = k) ∧
      (∀ q, (k.substitute inner).Mentions q ↔
        k.Mentions q ∧ inner.lookup q = none ∨
          ∃ p image, k.Mentions p ∧ inner.lookup p = some image ∧ image.Mentions q) ∧
      (k.substitute inner).heads = k.heads.flatMap (Head.replaced inner) :=
  ⟨(substitute_compose inner outer k).symm, fun names => substitute_themselves names k,
    fun _ => mentions_substitute_iff, heads_substitute k⟩

/-- Two placeholders change places; neither is looked for in what the other stands for. -/
example : (record "Pair" [placeholder "A", list (placeholder "B")]).substitute
      [("A", placeholder "B"), ("B", placeholder "A")] =
    record "Pair" [placeholder "B", list (placeholder "A")] := rfl

end Conform.Kind
