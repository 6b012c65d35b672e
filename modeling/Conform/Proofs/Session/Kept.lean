import Conform.Proofs.Check.Refuse
import Conform.Proofs.Registry.WellFormed
import Conform.Proofs.Spec.References
/-!
Specs as they are kept. If specs are kept, a derivation that comes to a spec answers the one that the
memo has for the shape from then on, a later one answers it again and changes nothing, and one that
fails leaves nothing behind for its own shape. What is found behind a lazy reference is kept in the
same way, unless the name there means a builtin.
-/

namespace Conform

/-- What the spec behind a lazy reference is kept under. -/
def Target.key? : Target → Option MemoKey
  | .shape registry name args | .forward registry name args => some ⟨registry, name, args⟩
  | .bound _ => none

theorem Target.IsOf.key? {id : Nat} {target : Target} (h : target.IsOf id) :
    ∃ name args, target.key? = some ⟨id, name, args⟩ := by
  cases target with
  | bound name => exact h.elim
  | shape registry name args | forward registry name args =>
    obtain rfl : registry = id := h
    exact ⟨name, args, rfl⟩

/-- The spec of what the target means by its name alone. -/
def Registry.MeansItself (r : Registry) : Target → Spec → Prop
  | .forward _ name args, spec => ∃ i kind, spec = .isInstance i kind ∧ r.builtin? name args = some kind
  | _, _ => False

theorem Registry.Extends.meansItself {r r' : Registry} (h : r.Extends r') {target : Target} {spec : Spec}
    (hitself : r.MeansItself target spec) : r'.MeansItself target spec := by
  cases target with
  | shape | bound => exact hitself
  | forward registry name args =>
    obtain ⟨i, kind, hspec, hkind⟩ := hitself
    exact ⟨i, kind, hspec, h.builtin? ▸ hkind⟩

namespace Build

variable {α β : Type} {s t : Session}

theorem bind_ok {x : Build α} {f : α → Build β} {b : β} (h : (x >>= f).run s = (.ok b, t)) :
    ∃ a m, x.run s = (.ok a, m) ∧ (f a).run m = (.ok b, t) := by
  rw [run_bind] at h
  rcases hrun : x.run s with ⟨e | a, m⟩
  · rw [hrun] at h
    cases h
  · rw [hrun] at h
    exact ⟨a, m, rfl, h⟩

theorem lift_ok {x : Except SpecError α} {a : α} (h : (liftM x : Build α).run s = (.ok a, t)) :
    x = .ok a := by
  cases x with
  | error e => cases h
  | ok b =>
    cases h
    rfl

end Build

namespace Session

section
variable {id : Nat} {r : Registry} {steps : Nat} {stack : List String} {name : String}
  {args : List Kind} {s t : Session} {spec : Spec}

/-! ## Derivations -/

theorem liveRegistry_ok (h : (liveRegistry id).run s = (.ok r, t)) :
    s = t ∧ s.registryAt? id = some r := by
  unfold liveRegistry at h
  rw [Build.run_bind, Build.run_get] at h
  simp only at h
  split at h
  · next found hr =>
    split at h
    · cases h
      exact ⟨rfl, hr⟩
    · cases h
  · cases h

theorem memoize_kept {key : MemoKey} {kept : Spec} (h : (memoize key spec).run s = (.ok kept, t)) :
    t.memo.lookup key = some kept := by
  rw [run_memoize] at h
  cases hkept : s.memo.lookup key with
  | some found =>
    rw [hkept] at h
    cases h
    exact hkept
  | none =>
    rw [hkept] at h
    cases h
    rw [lookup_concat, hkept, if_pos rfl]
    rfl

/-- Unless the shape is left to a lazy reference. -/
theorem deriveShape_kept (hmemoize : r.config.memoize = true) (hstack : name ∉ stack)
    (h : (deriveShape id r steps stack name args).run s = (.ok spec, t)) :
    t.memo.lookup ⟨id, name, args⟩ = some spec ∨
      steps = 0 ∧ ∃ shape, r.applied (name, args) = .ok shape := by
  unfold deriveShape at h
  rw [Build.run_bind, Build.run_get] at h
  simp only [hmemoize, if_true, List.contains_eq_mem, hstack, decide_false, Bool.false_eq_true,
    if_false] at h
  cases hkept : s.memo.lookup ⟨id, name, args⟩ with
  | some kept =>
    rw [hkept] at h
    cases h
    exact .inl hkept
  | none =>
    rw [hkept] at h
    simp only at h
    rw [bind_applied] at h
    obtain ⟨shape, m, happlied, h⟩ := Build.bind_ok h
    cases steps with
    | zero => exact .inr ⟨rfl, shape, Build.lift_ok happlied⟩
    | succ steps =>
      obtain ⟨fields, _, _, h⟩ := Build.bind_ok h
      obtain ⟨keys, _, _, h⟩ := Build.bind_ok h
      obtain ⟨made, _, _, h⟩ := Build.bind_ok h
      exact .inl (memoize_kept h)

/-- A derivation that comes to a spec answers the one that is kept from then on. -/
theorem derive_kept (hr : s.registryAt? id = some r) (hmemoize : r.config.memoize = true)
    (h : (derive id name args).run s = (.ok spec, t)) : t.memo.lookup ⟨id, name, args⟩ = some spec := by
  obtain ⟨r', m, hlive, h⟩ := Build.bind_ok h
  obtain ⟨rfl, hr'⟩ := liveRegistry_ok hlive
  obtain rfl := Option.some.inj (hr.symm.trans hr')
  rcases deriveShape_kept hmemoize List.not_mem_nil h with hkept | ⟨hsteps, shape, happlied⟩
  · exact hkept
  · exact absurd hsteps (Registry.shapes_ne_nil happlied)

/-- What is kept is derived again at once. -/
theorem derive_again (hr : s.registryAt? id = some r) (halive : s.isAlive id = true)
    (hmemoize : r.config.memoize = true) (hkept : s.memo.lookup ⟨id, name, args⟩ = some spec) :
    (derive id name args).run s = (.ok spec, s) := by
  unfold derive
  rw [Build.run_bind, run_liveRegistry hr halive]
  unfold deriveShape
  simp only
  rw [Build.run_bind, Build.run_get]
  simp only [hmemoize, if_true, hkept]
  rfl

/-- A derivation that fails leaves nothing under the key of its shape, whatever it kept on the way. -/
theorem derive_error {cells : List Target} {e : SpecError} (hs : Sound id r (fun _ => True) cells s)
    (hmemoize : r.config.memoize = true) (h : (derive id name args).run s = (.error e, t)) :
    t.memo.lookup ⟨id, name, args⟩ = none := by
  obtain ⟨_, harrives⟩ := derive_follows name args cells s cells (s.kept id) (List.prefix_refl _) hs
    (tallies_kept s) fun _ _ => trivial
  obtain ⟨_, _, htallies, _, _, houtcome, _⟩ := h ▸ harrives
  rw [hmemoize] at houtcome htallies
  have hnot := Registry.not_mem_of_attempt_error (Prod.ext houtcome rfl)
  exact Option.not_isSome_iff_eq_none.mp (mt (htallies hmemoize (name, args)).mpr hnot)

/-- The spec is kept under the key, and is had by deriving the shape of the key. -/
structure Serves (s : Session) (key : MemoKey) (spec : Spec) : Prop where
  kept : s.memo.lookup key = some spec
  derived : (derive key.registry key.shape key.args).run s = (.ok spec, s)

/-! ## Looks behind references -/

/-- What is found is kept if the name is registered, and else it is what the name means by itself. -/
theorem find_kept (hr : s.registryAt? id = some r) (hmemoize : r.config.memoize = true)
    {target : Target} {key : MemoKey} (htarget : target.IsOf id) (hkey : target.key? = some key)
    (h : (find target).run s = (.ok spec, t)) :
    t.memo.lookup key = some spec ∨ r.contains key.shape = false ∧ r.MeansItself target spec := by
  cases target with
  | bound name => cases hkey
  | shape registry name args =>
    obtain rfl : registry = id := htarget
    cases hkey
    exact .inl (derive_kept hr hmemoize h)
  | forward registry name args =>
    obtain rfl : registry = id := htarget
    cases hkey
    obtain ⟨r', m, hlive, h⟩ := Build.bind_ok h
    obtain ⟨rfl, hr'⟩ := liveRegistry_ok hlive
    obtain rfl := Option.some.inj (hr.symm.trans hr')
    cases hname : r.contains name with
    | true =>
      rw [if_pos hname] at h
      exact .inl (derive_kept hr hmemoize h)
    | false =>
      rw [if_neg (by rw [hname]; exact Bool.false_ne_true)] at h
      refine .inr ⟨rfl, ?_⟩
      cases hkind : r.builtin? name args with
      | none =>
        rw [hkind] at h
        cases h
      | some kind =>
        rw [hkind] at h
        obtain ⟨i, _, _, h⟩ := Build.bind_ok h
        cases h
        exact ⟨i, kind, rfl, hkind⟩

theorem resolve_kept (hr : s.registryAt? id = some r) (hmemoize : r.config.memoize = true)
    {reference : Reference} {key : MemoKey} (htarget : reference.target.IsOf id)
    (hkey : reference.target.key? = some key) (hempty : s.filled.lookup reference.cell = none)
    (h : (resolve reference).run s = (.ok spec, t)) :
    t.memo.lookup key = some spec ∨
      r.contains key.shape = false ∧ r.MeansItself reference.target spec := by
  rw [run_resolve, hempty] at h
  rcases hrun : (find reference.target).run s with ⟨e | found, m⟩
  · rw [hrun] at h
    cases h
  · rw [hrun] at h
    cases h
    have hfound := find_kept hr hmemoize htarget hkey hrun
    exact hfound

end

/-! ## References of derived specs -/

section
variable (id : Nat) (cells : List Target)

/-- The table knows what the reference was made for, which is of the registry. -/
def Knows (reference : Reference) : Prop :=
  cells[reference.cell]? = some reference.target ∧ reference.target.IsOf id

end

end Session

open Session (Knows)

section
variable {id : Nat} {r : Registry} {Q : Target → Prop} {cells : List Target}

theorem Session.Knows.mono {cells' : List Target} {reference : Reference} (h : Knows id cells reference)
    (hcells : cells <+: cells') : Knows id cells' reference :=
  ⟨cell_mono hcells h.1, h.2⟩

theorem RecordForm.refers {p : Reference → Prop} {config : DeriveConfig}
    {groups : List PlaceholderGroup} {keys : List (String × Spec)} {s : Spec}
    (h : RecordForm config groups keys s) (hkeys : ∀ key ∈ keys, key.2.Refers p) : s.Refers p := by
  cases h with
  | plain => exact Spec.refers_decorated.mpr (Spec.refers_dict.mpr hkeys)
  | grouped =>
    refine Spec.refers_decorated.mpr (Spec.refers_allOf.mpr (List.forall_mem_cons.mpr ⟨?_, ?_⟩))
    · exact Spec.refers_dict.mpr hkeys
    · exact List.forall_mem_singleton.mpr fun _ hmem => absurd hmem List.not_mem_nil

mutual

/-- The table knows all lazy references in derived specs. -/
theorem Stands.refers :
    ∀ {k : Kind} {s : Spec}, Stands id r Q cells k s → s.Refers (Knows id cells)
  | _, _, .leaf _ _ | _, _, .nothing _ | _, _, .placeholder _ _ =>
    fun _ hmem => absurd hmem List.not_mem_nil
  | _, _, .record h => h.refers
  | _, _, .lazyRecord _ _ hcell | _, _, .forward _ _ hcell => Spec.refers_deferred.mpr ⟨hcell, rfl⟩
  | _, _, .list _ h => Spec.refers_collOf.mpr h.refers
  | _, _, .union _ h => Spec.refers_oneOf.mpr h.refers

theorem StandAll.refers :
    ∀ {ks : List Kind} {ss : List Spec}, StandAll id r Q cells ks ss →
      ∀ s ∈ ss, s.Refers (Knows id cells)
  | _, _, .nil => fun _ hs => absurd hs List.not_mem_nil
  | _, _, .cons h hs => List.forall_mem_cons.mpr ⟨h.refers, hs.refers⟩

theorem StandFields.refers :
    ∀ {fields : List Field} {keys : List (String × Spec)}, StandFields id r Q cells fields keys →
      ∀ key ∈ keys, key.2.Refers (Knows id cells)
  | _, _, .nil => fun _ hkey => absurd hkey List.not_mem_nil
  | _, _, .cons h hs => List.forall_mem_cons.mpr ⟨h.refers, hs.refers⟩

theorem StandsRecord.refers :
    ∀ {a : Applied} {s : Spec}, StandsRecord id r Q cells a s → s.Refers (Knows id cells)
  | _, _, .mk _ _ hkeys hform => hform.refers hkeys.refers

end

theorem Answers.refers {target : Target} {s : Spec} (h : Answers id r Q cells target s) :
    s.Refers (Knows id cells) := by
  cases h with
  | shape h | forward _ h => exact h.refers
  | builtin => exact fun _ hmem => absurd hmem List.not_mem_nil

end

end Conform
