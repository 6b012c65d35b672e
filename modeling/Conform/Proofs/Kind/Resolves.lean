import Conform.Proofs.Kind.Meaning
import Conform.Proofs.Kind.Targets
import Conform.Proofs.Registry.Left
/-!
References that all resolve. If there is something behind every reference that a target leads to, then
it is found whatever else a session keeps, so what is behind the target is settled.
-/

namespace Conform

/-! ## Targets that lead to others -/

namespace Target

/-- The shape that is referred to, if a registry is. -/
def applied? : Target → Option Applied
  | shape _ name args | forward _ name args => some (name, args)
  | bound _ => none

/-- There is something behind the target. -/
def Found (r : Registry) : Target → Prop
  | shape _ name args => ∃ fields, r.fieldsOf (name, args) = .ok fields
  | forward _ name args =>
    if r.contains name then ∃ fields, r.fieldsOf (name, args) = .ok fields
    else (r.builtin? name args).isSome = true
  | bound _ => False

end Target

/-- A field of the shape that the one target refers to mentions the other. -/
def Registry.Leads (r : Registry) (id : Nat) (target target' : Target) : Prop :=
  ∃ a fields f, target.applied? = some a ∧ r.fieldsOf a = .ok fields ∧ f ∈ fields ∧
    target' ∈ f.kind.targets id

/-- There is something behind the target and all that it leads to. -/
def Target.Resolves (id : Nat) (r : Registry) (target : Target) : Prop :=
  ∀ target', Relation.ReflTransGen (r.Leads id) target target' → target'.Found r

namespace Kind

/-- All references in the kind resolve. -/
def Resolves (id : Nat) (r : Registry) (k : Kind) : Prop :=
  ∀ target ∈ k.targets id, target.Resolves id r

end Kind

section
variable {id : Nat} {r : Registry} {target target' : Target}

theorem Registry.leads_of_mentions {a b : Applied} (h : Relation.ReflTransGen r.Mentions a b) :
    Relation.ReflTransGen (r.Leads id) (.shape id a.1 a.2) (.shape id b.1 b.2) := by
  induction h with
  | refl => exact .refl
  | tail _ hmentions ih =>
    obtain ⟨fields, hfields, hmem⟩ := hmentions
    obtain ⟨f, hf, hrecord⟩ := List.mem_flatMap.mp hmem
    exact ih.tail ⟨_, fields, f, rfl, hfields, hf, (Kind.shape_mem_targets f.kind).mpr hrecord⟩

namespace Target.Resolves

theorem leads (h : target.Resolves id r) (hleads : r.Leads id target target') :
    target'.Resolves id r :=
  fun _ hmore => h _ (.head hleads hmore)

/-- A name that resolves to a shape means one that resolves. -/
theorem shape {name : String} {args : List Kind} (h : (Target.forward id name args).Resolves id r)
    (hname : r.contains name = true) : (Target.shape id name args).Resolves id r := by
  intro target' hmore
  rcases Relation.ReflTransGen.cases_head_iff.mp hmore with rfl | ⟨between, hfirst, hrest⟩
  · have hfound := h _ .refl
    simp only [Found, hname, if_true] at hfound
    exact hfound
  · exact h target' (.head hfirst hrest)

theorem alone {name : String} {args : List Kind} (h : (Target.shape id name args).Resolves id r) :
    r.Alone (name, args) :=
  Registry.alone_of_fields fun _ hb => h _ (Registry.leads_of_mentions hb)

/-- What resolves is found, whatever is kept. -/
theorem seek_ok (h : target.Resolves id r) (htarget : target.IsOf id) (memoize : Bool)
    (done : List Applied) : (r.seek memoize target done).1 = .ok () := by
  cases target with
  | bound name => exact htarget.elim
  | shape registry name args =>
    obtain rfl : registry = id := htarget
    exact h.alone.attempt memoize (Nat.le_refl _) [] done
  | forward registry name args =>
    obtain rfl : registry = id := htarget
    cases hname : r.contains name with
    | true =>
      simp only [Registry.seek, hname, if_true]
      exact (h.shape hname).alone.attempt memoize (Nat.le_refl _) [] done
    | false =>
      have hfound := h _ .refl
      simp only [Found, hname, Bool.false_eq_true, if_false] at hfound
      simp only [Registry.seek, hname, hfound, Bool.false_eq_true, if_false, if_true]

end Target.Resolves

/-- Names are found to be builtin only if no shape has them. -/
def Registry.BuiltinUnregistered (r : Registry) : Target → Prop
  | .forward _ name _ => r.contains name = false
  | .shape _ _ _ | .bound _ => True

theorem closed_builtinUnregistered (id : Nat) (r : Registry) : Closed id r r.BuiltinUnregistered :=
  ⟨fun _ _ h => h, fun _ _ _ _ _ _ => trivial⟩

/-- Looks behind references that resolve are settled. -/
theorem settled_resolves (id : Nat) (r : Registry) :
    Settled id r r.BuiltinUnregistered (Target.Resolves id r) where
  toClosed := closed_builtinUnregistered id r
  seek_eq _ done h htarget _ :=
    (h.seek_ok htarget r.config.memoize done).trans (h.seek_ok htarget false []).symm
  alone _ h _ := h.alone
  notBuiltin _ _ h := h
  fields h hfields f hf _ hmem := h.leads ⟨_, _, f, rfl, hfields, hf, hmem⟩
  forward h hname := h.shape hname

end

end Conform
