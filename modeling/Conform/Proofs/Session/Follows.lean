import Conform.Proofs.Session.Stands
/-!
Derivations end as attempts do. Whatever a session keeps already, deriving a spec goes through the
same shapes as the attempt, ends in the same error if it ends in one, and otherwise makes a spec that
stands for the kind it was made from.
-/

namespace Conform

theorem mem_of_lookup_pair {κ ν : Type} [BEq κ] [LawfulBEq κ] {pairs : List (κ × ν)} {key : κ} {v : ν}
    (h : pairs.lookup key = some v) : (key, v) ∈ pairs := by
  obtain ⟨before, after, rfl, _⟩ := List.lookup_eq_some_iff.mp h
  exact List.mem_append_right _ List.mem_cons_self

namespace Build

variable {α β : Type}

theorem run_bind (x : Build α) (f : α → Build β) (s : Session) :
    (x >>= f).run s =
      match x.run s with
      | (.ok a, t) => (f a).run t
      | (.error e, t) => (.error e, t) := by
  rw [ExceptT.run_bind]
  rcases h : x.run s with ⟨e | a, t⟩
  · simp [bind, StateT.bind, h]
    rfl
  · simp [bind, StateT.bind, h]

theorem run_get (s : Session) : (get : Build Session).run s = (.ok s, s) := rfl

end Build

namespace Session

open Registry (skip andThen after andThen_skip skip_andThen attemptAll_append attemptAll_singleton)

theorem lookup_concat {κ ν : Type} [DecidableEq κ] (entries : List (κ × ν)) (key key' : κ) (v : ν) :
    (entries ++ [(key, v)]).lookup key' =
      (entries.lookup key').or (if key' = key then some v else none) := by
  rw [List.lookup_append]
  by_cases h : key' = key
  · simp [h]
  · simp [List.lookup_cons, h, beq_eq_false_iff_ne.mpr h]

theorem lookup_of_prefix {κ ν : Type} [BEq κ] {entries entries' : List (κ × ν)} {key : κ} {v : ν}
    (h : entries <+: entries') (hkey : entries.lookup key = some v) : entries'.lookup key = some v := by
  obtain ⟨more, rfl⟩ := h
  rw [List.lookup_append, hkey]
  rfl

/-- Nothing that is kept is lost or replaced, and nothing but derived specs, cells and instances is
new. -/
structure Grows (s s' : Session) : Prop where
  names : s'.names = s.names
  handles : s'.handles = s.handles
  registries : s'.registries = s.registries
  memo : ∀ {key : MemoKey} {spec : Spec},
    s.memo.lookup key = some spec → s'.memo.lookup key = some spec
  filled : ∀ {cell : Nat} {spec : Spec},
    s.filled.lookup cell = some spec → s'.filled.lookup cell = some spec
  nextCell : s.nextCell ≤ s'.nextCell

namespace Grows

variable {s s' s'' : Session}

theorem refl (s : Session) : Grows s s := ⟨rfl, rfl, rfl, fun h => h, fun h => h, Nat.le_refl _⟩

theorem trans (h : Grows s s') (h' : Grows s' s'') : Grows s s'' where
  names := h'.names.trans h.names
  handles := h'.handles.trans h.handles
  registries := h'.registries.trans h.registries
  memo hkey := h'.memo (h.memo hkey)
  filled hcell := h'.filled (h.filled hcell)
  nextCell := Nat.le_trans h.nextCell h'.nextCell

end Grows

section
variable (id : Nat) (r : Registry)

/-- What is done is what the session keeps, if specs are kept. -/
def Tallies (s : Session) (done : List Applied) : Prop :=
  r.config.memoize = true →
    ∀ a : Applied, a ∈ done ↔ (s.memo.lookup ⟨id, a.1, a.2⟩).isSome = true

variable (Q : Target → Prop) {α β : Type}

/-- How a step that makes specs has gone from a session: as an attempt went, to a session that is
sound by a longer table, and with a result as it should be. -/
structure Arrives (s : Session) (cells : List Target) (made : Except SpecError α × Session)
    (o : Registry.Outcome) (R : List Target → α → Prop) (cells' : List Target) : Prop where
  cells : cells <+: cells'
  sound : Sound id r Q cells' made.2
  tallies : Tallies id r made.2 o.2
  grows : s.Grows made.2
  filled : made.2.filled = s.filled
  outcome : o.1 = made.1.map fun _ => ()
  result : ∀ a, made.1 = .ok a → R cells' a

/-- From every sound session whose table is at least `base`, the step goes as the attempt `f`. -/
def Follows (base : List Target) (x : Build α) (f : List Applied → Registry.Outcome)
    (R : List Target → α → Prop) : Prop :=
  ∀ s cells done, base <+: cells → Sound id r Q cells s → Tallies id r s done →
    (∀ a ∈ (f done).2, Q (.shape id a.1 a.2)) →
      ∃ cells', Arrives id r Q s cells (x.run s) (f done) R cells'

end

/-! ## Steps in turn -/

section
variable {id : Nat} {r : Registry} {Q : Target → Prop} {α β : Type} {base : List Target}
  {f g : List Applied → Registry.Outcome}

theorem Follows.mono {base' : List Target} {x : Build α} {R : List Target → α → Prop}
    (hx : Follows id r Q base x f R) (hbase : base <+: base') : Follows id r Q base' x f R :=
  fun s cells done hcells => hx s cells done (hbase.trans hcells)

theorem Follows.imp {x : Build α} {R S : List Target → α → Prop} (hx : Follows id r Q base x f R)
    (himp : ∀ cells a, R cells a → S cells a) : Follows id r Q base x f S := by
  intro s cells done hbase hsound htallies hQ
  obtain ⟨cells', h⟩ := hx s cells done hbase hsound htallies hQ
  exact ⟨cells', { h with result := fun a ha => himp cells' a (h.result a ha) }⟩

theorem Follows.pure {a : α} {R : List Target → α → Prop}
    (ha : ∀ cells, base <+: cells → R cells a) : Follows id r Q base (pure a) skip R := by
  intro s cells done hbase hsound htallies _
  refine ⟨cells, List.prefix_refl _, hsound, htallies, .refl s, rfl, rfl, ?_⟩
  intro b hb
  cases hb
  exact ha cells hbase

theorem Follows.bind {x : Build α} {k : α → Build β} {R : List Target → α → Prop}
    {S : List Target → β → Prop} (hx : Follows id r Q base x f R)
    (hg : ∀ {done o done'}, g done = (o, done') → done ⊆ done')
    (hk : ∀ a base', base <+: base' → R base' a → Follows id r Q base' (k a) g S) :
    Follows id r Q base (x >>= k) (andThen f g) S := by
  intro s cells done hbase hsound htallies hQ
  rcases hf : f done with ⟨o, mid⟩
  have hmid : ∀ a ∈ (f done).2, Q (.shape id a.1 a.2) := by
    intro a ha
    refine hQ a ?_
    unfold andThen
    rw [hf] at ha ⊢
    rcases o with e | u
    · exact ha
    · exact hg (show g mid = ((g mid).1, (g mid).2) from rfl) ha
  obtain ⟨cells', h⟩ := hx s cells done hbase hsound htallies hmid
  rcases hrun : x.run s with ⟨e | a, t⟩
  · obtain ⟨h₁, h₂, h₃, h₄, h₅, h₆, -⟩ := hrun ▸ hf ▸ h
    obtain rfl : o = .error e := h₆
    rw [Build.run_bind, hrun, andThen, hf]
    exact ⟨cells', h₁, h₂, h₃, h₄, h₅, rfl, fun a ha => by cases ha⟩
  · obtain ⟨h₁, h₂, h₃, h₄, h₅, h₆, h₇⟩ := hrun ▸ hf ▸ h
    obtain rfl : o = .ok () := h₆
    have hQ' : ∀ a ∈ (g mid).2, Q (.shape id a.1 a.2) := by
      intro b hb
      refine hQ b ?_
      rw [andThen, hf]
      exact hb
    obtain ⟨cells'', h'⟩ :=
      hk a cells' (hbase.trans h₁) (h₇ a rfl) t cells' mid (List.prefix_refl _) h₂ h₃ hQ'
    rw [Build.run_bind, hrun, andThen, hf]
    exact ⟨cells'', h₁.trans h'.cells, h'.sound, h'.tallies, h₄.trans h'.grows,
      h'.filled.trans h₅, h'.outcome, h'.result⟩

/-- The steps that follow go into no shape. -/
theorem Follows.bind_skip {x : Build α} {k : α → Build β} {R : List Target → α → Prop}
    {S : List Target → β → Prop} (hx : Follows id r Q base x f R)
    (hk : ∀ a base', base <+: base' → R base' a → Follows id r Q base' (k a) skip S) :
    Follows id r Q base (x >>= k) f S := by
  have h := hx.bind (fun h => by cases h; exact fun _ h => h) hk
  rwa [andThen_skip] at h

/-! ## Single steps -/

theorem Sound.extend {s s' : Session} {cells cells' : List Target} (h : Sound id r Q cells s)
    (hcells : cells <+: cells') (hcount : cells'.length = s'.nextCell)
    (hregistries : s'.registries = s.registries) (hhandles : s'.handles = s.handles)
    (hmemo : s'.memo = s.memo) (hfilled : s'.filled = s.filled) : Sound id r Q cells' s' where
  registry := by
    unfold registryAt?
    rw [hregistries]
    exact h.registry
  alive := by
    unfold isAlive
    rw [hhandles]
    exact h.alive
  count := hcount
  memo hkept := (h.memo (hmemo ▸ hkept)).mono (.refl r) hcells
  filled hfound := by
    obtain ⟨target, hcell, hanswers⟩ := h.filled (hfilled ▸ hfound)
    exact ⟨target, cell_mono hcells hcell, hanswers.mono (.refl r) hcells⟩

theorem newInstance_follows (base : List Target) :
    Follows id r Q base newInstance skip fun _ _ => True := by
  intro s cells done _ hsound htallies _
  exact ⟨cells, List.prefix_refl _,
    hsound.extend (List.prefix_refl _) hsound.count rfl rfl rfl rfl, htallies,
    ⟨rfl, rfl, rfl, fun h => h, fun h => h, Nat.le_refl _⟩, rfl, rfl, fun _ _ => trivial⟩

/-- A spec that holds a cell made for a target. -/
def Refers (target : Target) (cells : List Target) (s : Spec) : Prop :=
  ∃ i label cell, s = .deferred i ⟨cell, label, target⟩ ∧ cells[cell]? = some target

theorem refer_follows (base : List Target) (label : String) (target : Target) :
    Follows id r Q base (refer label target) skip (Refers target) := by
  intro s cells done _ hsound htallies _
  refine ⟨cells ++ [target], List.prefix_append _ _, ?_, htallies,
    ⟨rfl, rfl, rfl, fun h => h, fun h => h, Nat.le_succ _⟩, rfl, rfl, ?_⟩
  · refine hsound.extend (List.prefix_append _ _) ?_ rfl rfl rfl rfl
    rw [List.length_append, hsound.count]
    rfl
  · intro spec hspec
    cases hspec
    refine ⟨_, label, s.nextCell, rfl, ?_⟩
    rw [← hsound.count, List.getElem?_concat_length]

theorem recordSpec_follows (base : List Target) (config : DeriveConfig) (label : String)
    (groups : List PlaceholderGroup) (keys : List (String × Spec)) :
    Follows id r Q base (recordSpec config label groups keys) skip
      fun _ s => RecordForm config groups keys s := by
  unfold recordSpec
  simp only [pure_bind]
  refine (newInstance_follows base).bind_skip fun j base _ _ => ?_
  split
  · next hgrouped =>
    refine (newInstance_follows base).bind_skip fun k base _ _ => ?_
    refine (newInstance_follows base).bind_skip fun l base _ _ => ?_
    refine (newInstance_follows base).bind_skip fun i base _ _ => ?_
    exact Follows.pure fun _ _ => .grouped i l j k (some label) hgrouped
  · next hplain =>
    refine (newInstance_follows base).bind_skip fun i base _ _ => ?_
    exact Follows.pure fun _ _ => .plain i j (some label) (by simpa using hplain)

/-! ## Kinds and fields -/

section
variable {deriveRecord : String → List Kind → Build Spec}
  {attempt : Applied → List Applied → Registry.Outcome}

mutual

theorem deriveKind_follows
    (hattempt : ∀ {a done o done'}, attempt a done = (o, done') → done ⊆ done')
    (hrecord : ∀ name args base, Follows id r Q base (deriveRecord name args) (attempt (name, args))
      fun cells s => Stands id r Q cells (.record name args) s) :
    ∀ (k : Kind) (base : List Target), Follows id r Q base (deriveKind id deriveRecord k)
      (Registry.attemptAll attempt k.records) fun cells s => Stands id r Q cells k s
  | .leaf k, base => by
    unfold deriveKind
    refine (newInstance_follows base).bind_skip fun i base _ _ => ?_
    exact Follows.pure fun _ _ => .leaf i k
  | .nothing, base => by
    unfold deriveKind
    refine (newInstance_follows base).bind_skip fun i base _ _ => ?_
    exact Follows.pure fun _ _ => .nothing i
  | .record name args, base => by
    rw [Kind.records, attemptAll_singleton]
    exact hrecord name args base
  | .forward name args, base => by
    refine (refer_follows base _ (.forward id name args)).imp ?_
    rintro cells _ ⟨i, label, cell, rfl, hcell⟩
    exact .forward i label hcell
  | .list item, base => by
    unfold deriveKind
    refine (deriveKind_follows hattempt hrecord item base).bind_skip fun s base _ hs => ?_
    refine (newInstance_follows base).bind_skip fun i base' hbase' _ => ?_
    exact Follows.pure fun cells hcells => .list i (hs.mono (.refl r) (hbase'.trans hcells))
  | .union ks, base => by
    unfold deriveKind
    refine (deriveKinds_follows hattempt hrecord ks base).bind_skip fun ss base _ hss => ?_
    refine (newInstance_follows base).bind_skip fun i base' hbase' _ => ?_
    exact Follows.pure fun cells hcells => .union i (hss.mono (.refl r) (hbase'.trans hcells))
  | .placeholder p, base => by
    unfold deriveKind
    refine (newInstance_follows base).bind_skip fun i base _ _ => ?_
    exact Follows.pure fun _ _ => .placeholder i p

theorem deriveKinds_follows
    (hattempt : ∀ {a done o done'}, attempt a done = (o, done') → done ⊆ done')
    (hrecord : ∀ name args base, Follows id r Q base (deriveRecord name args) (attempt (name, args))
      fun cells s => Stands id r Q cells (.record name args) s) :
    ∀ (ks : List Kind) (base : List Target), Follows id r Q base (deriveKinds id deriveRecord ks)
      (Registry.attemptAll attempt (Kind.recordsOfAll ks)) fun cells ss => StandAll id r Q cells ks ss
  | [], base => Follows.pure fun _ _ => .nil
  | k :: ks, base => by
    rw [Kind.recordsOfAll, attemptAll_append]
    unfold deriveKinds
    refine (deriveKind_follows hattempt hrecord k base).bind
      (Registry.attemptAll_subset hattempt) fun s base _ hs => ?_
    refine (deriveKinds_follows hattempt hrecord ks base).bind_skip fun ss base' hbase' hss => ?_
    exact Follows.pure fun cells hcells =>
      .cons (hs.mono (.refl r) (hbase'.trans hcells)) (hss.mono (.refl r) hcells)

end

theorem deriveFields_follows
    (hattempt : ∀ {a done o done'}, attempt a done = (o, done') → done ⊆ done')
    (hrecord : ∀ name args base, Follows id r Q base (deriveRecord name args) (attempt (name, args))
      fun cells s => Stands id r Q cells (.record name args) s)
    (fields : List Field) (base : List Target) :
    Follows id r Q base (deriveFields id deriveRecord fields)
      (Registry.attemptAll attempt (Field.recordsOfAll fields))
      fun cells keys => StandFields id r Q cells fields keys := by
  induction fields generalizing base with
  | nil => exact Follows.pure fun _ _ => .nil
  | cons field fields ih =>
    rw [Field.recordsOfAll, List.flatMap_cons, attemptAll_append]
    unfold deriveFields
    refine (deriveKind_follows hattempt hrecord field.kind base).bind
      (Registry.attemptAll_subset hattempt) fun s base _ hs => ?_
    refine (ih base).bind_skip fun keys base' hbase' hkeys => ?_
    exact Follows.pure fun cells hcells =>
      .cons (hs.mono (.refl r) (hbase'.trans hcells)) (hkeys.mono (.refl r) hcells)

end

/-! ## Shapes -/

theorem run_memoize (key : MemoKey) (spec : Spec) (s : Session) :
    (memoize key spec).run s =
      match s.memo.lookup key with
      | some kept => (.ok kept, s)
      | none => (.ok spec, { s with memo := s.memo ++ [(key, spec)] }) := by
  cases h : s.memo.lookup key with
  | none =>
    change (Except.ok (Prod.fst _), Prod.snd _) = _
    rw [h]
  | some kept =>
    change (Except.ok (Prod.fst _), Prod.snd _) = _
    rw [h]

def keeping (id : Nat) (s : Session) (a : Applied) (spec : Spec) : Session :=
  { s with memo := s.memo ++ [(⟨id, a.1, a.2⟩, spec)] }

theorem lookup_keeping (s : Session) (a b : Applied) (spec : Spec) :
    (s.keeping id a spec).memo.lookup ⟨id, b.1, b.2⟩ =
      (s.memo.lookup ⟨id, b.1, b.2⟩).or (if b = a then some spec else none) := by
  have hkey : (⟨id, b.1, b.2⟩ : MemoKey) = ⟨id, a.1, a.2⟩ ↔ b = a := by
    rw [MemoKey.mk.injEq, Prod.ext_iff]
    exact and_iff_right rfl
  unfold keeping
  rw [lookup_concat]
  simp only [hkey]

theorem grows_keeping (s : Session) (a : Applied) (spec : Spec) : s.Grows (s.keeping id a spec) := by
  refine ⟨rfl, rfl, rfl, fun {key found} hfound => ?_, fun h => h, Nat.le_refl _⟩
  unfold keeping
  rw [lookup_concat, hfound]
  rfl

theorem Sound.keeping {cells : List Target} {s : Session} (h : Sound id r Q cells s) {a : Applied}
    {spec : Spec} (hspec : StandsRecord id r Q cells a spec) :
    Sound id r Q cells (s.keeping id a spec) := by
  refine ⟨h.registry, h.alive, h.count, ?_, h.filled⟩
  intro b found hfound
  rw [lookup_keeping] at hfound
  rcases Option.or_eq_some_iff.mp hfound with hold | ⟨-, hnew⟩
  · exact h.memo hold
  · split at hnew
    · next hkey =>
      cases hnew
      rw [hkey]
      exact hspec
    · cases hnew

theorem Tallies.keeping {s : Session} {done : List Applied} (h : Tallies id r s done) (a : Applied)
    (spec : Spec) : Tallies id r (s.keeping id a spec) (a :: done) := by
  intro hmemoize b
  rw [List.mem_cons, h hmemoize b, lookup_keeping, Option.isSome_or]
  by_cases hkey : b = a
  · simp [hkey]
  · simp [hkey]

/-- What is kept already is not kept twice. -/
theorem Tallies.cons {s : Session} {done : List Applied} (h : Tallies id r s done) {a : Applied}
    (ha : (s.memo.lookup ⟨id, a.1, a.2⟩).isSome = true) : Tallies id r s (a :: done) := by
  intro hmemoize b
  rw [List.mem_cons, h hmemoize b]
  constructor
  · rintro (rfl | hb)
    · exact ha
    · exact hb
  · exact .inr

/-- The spec of a record is kept, if specs are. -/
theorem keep_follows {a : Applied} {fields : List Field} {keys : List (String × Spec)} {spec : Spec}
    (hfields : r.fieldsOf a = .ok fields) (hkeys : StandFields id r Q base fields keys)
    (hform : RecordForm r.config (placeholderGroups fields) keys spec) :
    Follows id r Q base
      (if r.config.memoize then memoize ⟨id, a.1, a.2⟩ spec else pure spec)
      (fun done => (.ok (), a :: done)) fun cells s => StandsRecord id r Q cells a s := by
  intro s cells done hbase hsound htallies hQ
  have hspec : StandsRecord id r Q cells a spec :=
    .mk (hQ a List.mem_cons_self) hfields (hkeys.mono (.refl r) hbase) hform
  refine ⟨cells, ?_⟩
  cases hmemoize : r.config.memoize with
  | false =>
    refine ⟨List.prefix_refl _, hsound, fun h => ?_, .refl s, rfl, rfl, ?_⟩
    · rw [hmemoize] at h
      cases h
    · intro b hb
      cases hb
      exact hspec
  | true =>
    rw [if_pos rfl, run_memoize]
    cases hkept : s.memo.lookup ⟨id, a.1, a.2⟩ with
    | some kept =>
      refine ⟨List.prefix_refl _, hsound, htallies.cons (Option.isSome_of_eq_some hkept), .refl s,
        rfl, rfl, ?_⟩
      intro b hb
      cases hb
      exact hsound.memo hkept
    | none =>
      refine ⟨List.prefix_refl _, hsound.keeping hspec, htallies.keeping a spec,
        grows_keeping s a spec, rfl, rfl, ?_⟩
      intro b hb
      cases hb
      exact hspec

/-- What the derivation of a shape may make below a stack. -/
def Derived (id : Nat) (r : Registry) (Q : Target → Prop) (steps : Nat) (stack : List String)
    (a : Applied) (cells : List Target) (s : Spec) : Prop :=
  StandsRecord id r Q cells a s ∨
    (a.1 ∈ stack ∨ steps = 0 ∧ ∃ shape, r.applied a = .ok shape) ∧
      Refers (.shape id a.1 a.2) cells s

theorem Derived.stands {steps : Nat} {stack : List String} {name : String} {args : List Kind}
    {cells : List Target} {s : Spec} (h : Derived id r Q steps stack (name, args) cells s) :
    Stands id r Q cells (.record name args) s := by
  rcases h with h | ⟨_, i, label, cell, rfl, hcell⟩
  · exact .record h
  · exact .lazyRecord i label hcell

theorem throw_follows {R : List Target → α → Prop} (e : SpecError) :
    Follows id r Q base (throw e) (fun done => (.error e, done)) R := by
  intro s cells done _ hsound htallies _
  exact ⟨cells, List.prefix_refl _, hsound, htallies, .refl s, rfl, rfl, fun b hb => by cases hb⟩

theorem lift_follows {x : Except SpecError α} {k : α → Build β}
    {g : α → List Applied → Registry.Outcome} {R : List Target → β → Prop}
    (hk : ∀ a, x = .ok a → Follows id r Q base (k a) (g a) R) :
    Follows id r Q base (liftM x >>= k) (after x g) R := by
  cases x with
  | error e => exact throw_follows e
  | ok a => exact hk a rfl

theorem bind_applied (r : Registry) (name : String) (args : List Kind) (k : Shape → Build β) :
    (do
      let shape ← r.lookup name
      Registry.checkArity shape args.length
      k shape) = (liftM (r.applied (name, args)) >>= k : Build β) := by
  unfold Registry.applied
  cases r.lookup name with
  | error e => rfl
  | ok shape =>
    change (liftM (Registry.checkArity shape args.length) >>= fun _ => k shape : Build β) =
      liftM (Registry.checkArity shape args.length >>= fun _ => Except.ok shape) >>= k
    cases Registry.checkArity shape args.length <;> rfl

/-- The steps that are left once nothing is found to be kept. -/
theorem anew_follows {steps : Nat} {stack : List String} {name : String} {args : List Kind}
    {k : Shape → Build Spec} {g : Shape → List Applied → Registry.Outcome}
    (hk : ∀ shape, r.applied (name, args) = .ok shape →
      Follows id r Q base (k shape) (g shape) (Derived id r Q steps stack (name, args))) :
    Follows id r Q base
      (if stack.contains name then
        refer (Kind.record name args).shown (.shape id name args)
      else do
        let shape ← r.lookup name
        Registry.checkArity shape args.length
        k shape)
      (if name ∈ stack then skip else after (r.applied (name, args)) g)
      (Derived id r Q steps stack (name, args)) := by
  by_cases hstack : name ∈ stack
  · simp only [List.contains_eq_mem, hstack, decide_true, if_true]
    exact (refer_follows base _ _).imp fun cells s h => .inr ⟨.inl hstack, h⟩
  · simp only [List.contains_eq_mem, hstack, decide_false, Bool.false_eq_true, if_false]
    rw [bind_applied]
    exact lift_follows hk

/-- What is kept is the answer, and else the shape is gone into. -/
theorem kept_follows {steps : Nat} {stack : List String} {name : String} {args : List Kind}
    {x : Build Spec} {f : List Applied → Registry.Outcome}
    (hx : Follows id r Q base x f (Derived id r Q steps stack (name, args))) :
    Follows id r Q base
      (do
        let s ← get
        match if r.config.memoize then s.memo.lookup ⟨id, name, args⟩ else none with
        | some kept => return kept
        | none => x)
      (fun done => if r.config.memoize = true ∧ (name, args) ∈ done then (.ok (), done) else f done)
      (Derived id r Q steps stack (name, args)) := by
  intro s cells done hbase hsound htallies hQ
  rw [Build.run_bind, Build.run_get]
  simp only
  by_cases hkept : r.config.memoize = true ∧ (name, args) ∈ done
  · obtain ⟨kept, hlookup⟩ :=
      Option.isSome_iff_exists.mp ((htallies hkept.1 (name, args)).mp hkept.2)
    rw [if_pos hkept, if_pos hkept.1, hlookup]
    refine ⟨cells, List.prefix_refl _, hsound, htallies, .refl s, rfl, rfl, ?_⟩
    intro b hb
    cases hb
    exact .inl (hsound.memo hlookup)
  · have hmiss : (if r.config.memoize = true then s.memo.lookup ⟨id, name, args⟩ else none) = none := by
      split
      · next hmemoize =>
        exact Option.not_isSome_iff_eq_none.mp
          (mt (htallies hmemoize (name, args)).mpr fun h => hkept ⟨hmemoize, h⟩)
      · rfl
    simp only [if_neg hkept] at hQ
    rw [if_neg hkept, hmiss]
    exact hx s cells done hbase hsound htallies hQ

theorem deriveShape_follows (steps : Nat) (stack : List String) (name : String) (args : List Kind)
    (base : List Target) :
    Follows id r Q base (deriveShape id r steps stack name args)
      (r.attempt r.config.memoize steps stack (name, args))
      (Derived id r Q steps stack (name, args)) := by
  induction steps generalizing stack name args base with
  | zero =>
    unfold deriveShape
    refine kept_follows (anew_follows fun shape happlied => ?_)
    refine (refer_follows base _ (.shape id name args)).imp fun cells s h => ?_
    exact .inr ⟨.inr ⟨rfl, shape, happlied⟩, h⟩
  | succ steps ih =>
    unfold deriveShape
    refine kept_follows (anew_follows fun shape happlied => lift_follows fun fields hfields => ?_)
    have hgrows : ∀ {a done o done'},
        r.attempt r.config.memoize steps (name :: stack) a done = (o, done') → done ⊆ done' :=
      Registry.attempt_subset
    have hrecord : ∀ name' args' base, Follows id r Q base
        (deriveShape id r steps (name :: stack) name' args')
        (r.attempt r.config.memoize steps (name :: stack) (name', args'))
        fun cells s => Stands id r Q cells (.record name' args') s :=
      fun name' args' base => (ih (name :: stack) name' args' base).imp fun _ _ h => h.stands
    refine (deriveFields_follows hgrows hrecord fields base).bind (fun h => ?_)
      fun keys base hbase hkeys => ?_
    · cases h
      exact List.subset_cons_self _ _
    rw [← skip_andThen (fun done => (.ok (), (name, args) :: done))]
    refine (recordSpec_follows base _ _ _ _).bind (fun h => ?_) fun spec base' hbase' hform => ?_
    · cases h
      exact List.subset_cons_self _ _
    have hfieldsOf : r.fieldsOf (name, args) = .ok fields :=
      Registry.bind_eq_ok.mpr ⟨shape, happlied, hfields⟩
    exact (keep_follows hfieldsOf (hkeys.mono (.refl r) hbase') hform).imp fun _ _ => .inl

end

end Session

end Conform
