import Conform.Pattern.Basic
import Conform.Pattern.ByteRange
import Std.Data.HashMap
/-!
How large the automata of a pattern are. One reads a text forwards and marks what groups match, the
other reads it backwards; both read bytes and start anywhere unless the pattern is anchored. Copies
of a repeated body are states of their own. A pattern is too large if either automaton is.
-/

namespace Conform.Pattern

namespace Automaton

/-! ## Space -/

/-- The number of states so far, and the bytes that they take. -/
structure Size where
  states : Nat
  bytes : Nat

def byteLimit : Nat := 0xA00000

def stateBytes : Nat := 32

/-- What a labelled arc takes. -/
def arcBytes : Nat := 8

/-- What a branch to another state takes. -/
def branchBytes : Nat := 4

/-- Building an automaton fails when it grows too large. -/
abbrev Builder := StateT Size Option

/-- Adds a state that takes some bytes more than others, and gives its number. -/
def addState (more : Nat) : Builder Nat := fun size =>
  let bytes := size.bytes + stateBytes + more
  if bytes ≤ byteLimit then some (size.states, ⟨size.states + 1, bytes⟩) else none

def add (more : Nat) : Builder Unit := do let _state ← addState more

/-- Adds a branch to a state that is there already. -/
def addBranch : Builder Unit := fun size =>
  let bytes := size.bytes + branchBytes
  if bytes ≤ byteLimit then some ((), { size with bytes }) else none

def addBranching (branches : Nat) : Builder Unit := add (branches * branchBytes)

/-- Adds so many states without arcs of their own. -/
def addPlain : Nat → Builder Unit
  | 0 => pure ()
  | n + 1 => do
    add 0
    addPlain n

def addCopies (body : Builder Unit) : Nat → Builder Unit
  | 0 => pure ()
  | n + 1 => do
    body
    addCopies body n

/-! ## Memory -/

/-- States that need not be added again, by what was asked for. Each has one slot, from which the
next that falls there drives it out. -/
structure Memory where
  slotCount : Nat
  slots : Std.HashMap Nat (List Nat × Nat)

namespace Memory

def ofSlots (n : Nat) : Memory := ⟨n, {}⟩

/-- Mixes numbers, in words of 64 bits. -/
def mix (key : List Nat) : Nat :=
  (key.foldl (fun hash n => (hash ^^^ UInt64.ofNat n) * 0x100000001B3)
    (0xCBF29CE484222325 : UInt64)).toNat

/-- The state that was added for a key, or a new one. -/
def recallOrAdd (m : Memory) (key : List Nat) (more : Nat) : Builder (Nat × Memory) := do
  let slot := mix key % m.slotCount
  match m.slots[slot]? with
  | some (known, state) =>
    if known = key then return (state, m)
    else
      let state ← addState more
      return (state, { m with slots := m.slots.insert slot (key, state) })
  | none =>
    let state ← addState more
    return (state, { m with slots := m.slots.insert slot (key, state) })

end Memory

/-! ## Characters read forwards -/

/-- A state whose arcs are still gathered, the latest first. The last of them may lack its
target. -/
structure Unfinished where
  arcs : List (ByteRange × Nat)
  waiting : Option ByteRange

namespace Unfinished

/-- Gives the arc that lacks one its target. -/
def settle (target : Nat) (u : Unfinished) : Unfinished :=
  match u.waiting with
  | some range => ⟨(range, target) :: u.arcs, none⟩
  | none => u

def key (u : Unfinished) : List Nat :=
  u.arcs.reverse.flatMap fun (range, target) => [range.first.toNat, range.last.toNat, target]

end Unfinished

/-- The states on the way to the latest character, the last first, and those that are done. -/
structure Trail where
  unfinished : List Unfinished
  done : Memory

namespace Trail

/-- Finishes so many states from the last on, the first of them with an arc to `target`. -/
def finish : Nat → (target : Nat) → Trail → Builder Trail
  | 0, target, ⟨u :: us, done⟩ => return ⟨u.settle target :: us, done⟩
  | n + 1, target, ⟨u :: us, done⟩ => do
    let u := u.settle target
    let (state, done) ← done.recallOrAdd u.key (u.arcs.length * arcBytes)
    finish n state ⟨us, done⟩
  | _, _, ⟨[], done⟩ => return ⟨[], done⟩

/-- How many byte ranges the latest sequence shares with a new one. -/
def sharedCount (t : Trail) (ranges : List ByteRange) : Nat :=
  ((t.unfinished.reverse.zip ranges).takeWhile fun (u, range) => u.waiting = some range).length

/-- Leaves the latest sequence where a new one parts from it, and follows that. -/
def follow (target : Nat) (t : Trail) (ranges : List ByteRange) : Builder Trail := do
  let count := t.sharedCount ranges
  let t ← finish (t.unfinished.length - (count + 1)) target t
  match t.unfinished, ranges.drop count with
  | u :: us, range :: rest =>
    let opened := rest.map fun range => ⟨[], some range⟩
    return { t with unfinished := opened.reverse ++ { u with waiting := some range } :: us }
  | _, _ => return t

end Trail

def forwardSlots : Nat := 10000

/-- States that read one of some characters, where equal ones are shared. -/
def addCharsForwards (sequences : List (List ByteRange)) : Builder Unit := do
  let target ← addState 0
  let trail ← sequences.foldlM (Trail.follow target) ⟨[⟨[], none⟩], .ofSlots forwardSlots⟩
  let _done ← trail.finish trail.unfinished.length target

/-! ## Characters read backwards -/

def backwardSlots : Nat := 1000

/-- States that read a sequence from its end, added from `target` on. -/
def addChain (target : Nat) (memory : Memory) : List ByteRange → Builder Memory
  | [] => return memory
  | range :: ranges => do
    let (state, memory) ←
      memory.recallOrAdd [target, range.first.toNat, range.last.toNat] 0
    addChain state memory ranges

/-- States that read one of some characters from its last byte on. -/
def addCharsBackwards (sequences : List (List ByteRange)) : Builder Unit := do
  add 0
  let target ← addState 0
  let _done ← sequences.foldlM (fun memory ranges => do
      let memory ← addChain target memory ranges
      addBranch
      return memory)
    (Memory.ofSlots backwardSlots)

/-- States that read one of some characters. ASCII takes a single byte. -/
def addChars (backwards : Bool) (set : CharSet) : Builder Unit := do
  if set.isAscii then
    add 0
    add (set.ranges.size * arcBytes)
  else
    let sequences := set.ranges.toList.flatMap fun r => ByteRange.sequences r.1 r.2
    if backwards then addCharsBackwards sequences else addCharsForwards sequences

/-! ## Choices between literals -/

/-- How many ends of words a state tells apart: all, but those before any word that goes on count
as one. -/
def endCount (words : List (List UInt8)) : Nat :=
  let atOnce := (words.takeWhile (·.isEmpty)).length
  words.countP (·.isEmpty) - (atOnce - 1)

/-- The words that begin with a byte, without it. -/
def behind (byte : UInt8) (words : List (List UInt8)) : List (List UInt8) :=
  (words.filter (·.head? = some byte)).map (·.drop 1)

/-- States of a tree of words that go so deep at most. Where a word ends among others that go on,
those before it and those after it are kept apart. -/
def addTree : Nat → List (List UInt8) → Builder Unit
  | 0, _ => pure ()
  | depth + 1, words => do
    if words.all (·.isEmpty) then return
    let runs := (words.splitOnP (·.isEmpty)).filter (!·.isEmpty)
    runs.forM fun run => do
      let bytes := (run.filterMap (·.head?)).eraseDups
      bytes.forM fun byte => addTree depth (behind byte run)
      add (if bytes.length = 1 then 0 else bytes.length * arcBytes)
    addBranching (runs.length + endCount words)

def bytesOf (backwards : Bool) (text : List Char) : List UInt8 :=
  let bytes := text.flatMap String.utf8EncodeChar
  if backwards then bytes.reverse else bytes

/-- The end of a choice between words, and their tree. -/
def addWords (words : List (List UInt8)) : Builder Unit := do
  add 0
  addTree (words.foldl (fun n word => max n word.length) 0 + 1) words

/-! ## Patterns -/

def literal? : Pattern → Option (List Char)
  | literal text => some text
  | _ => none

/-- Copies of a body that may each be left out with those after it. -/
def addOptional (body : Builder Unit) (n : Nat) : Builder Unit :=
  addCopies (do addBranching 2; body) n

/-- A body so many times. Whether it can be empty decides how it comes back to itself. -/
def addRepeated (neverEmpty : Bool) (body : Builder Unit) : Nat → Option Nat → Builder Unit
  | 0, some 1 => do
    addBranching 2
    body
    add 0
  | 0, none => do
    if neverEmpty then
      addBranching 2
      body
    else
      body
      addBranching 2
      addBranching 2
      add 0
  | least + 1, none => do
    addCopies body (least + 1)
    addBranching 2
  | least, some most => do
    if least = 0 then add 0 else addCopies body least
    if least < most then
      add 0
      addOptional body (most - least)

section
variable (backwards : Bool)

mutual

def addPattern : Pattern → Builder Unit
  | empty => add 0
  | look _ => add 0
  | literal text => addPlain (bytesOf backwards text).length
  | oneOf set => addChars backwards set
  | capture body => do
    if backwards then addPattern body
    else
      add 0
      addPattern body
      add 0
  | sequence parts => addParts parts
  | choice branches => do
    match branches.mapM literal? with
    | some texts => addWords (texts.map (bytesOf backwards))
    | none => addBranches branches.length 0 branches
  | repeated least most _ body =>
    addRepeated (body.leastLength.any (0 < ·)) (addPattern body) least most

/-- Parts in the order in which they are read. -/
def addParts : List Pattern → Builder Unit
  | [] => pure ()
  | p :: ps => do
    if backwards then
      addParts ps
      addPattern p
    else
      addPattern p
      addParts ps

/-- Branches, of which `n` are done. What they part from and what they meet in follow the second. -/
def addBranches (count : Nat) : (n : Nat) → List Pattern → Builder Unit
  | _, [] => pure ()
  | n, p :: ps => do
    addPattern p
    if n = 1 then
      addBranching count
      add 0
    addBranches count (n + 1) ps

end

end

/-- The automaton of a whole pattern. What is not anchored may begin behind any bytes. -/
def ofPattern (backwards : Bool) (p : Pattern) : Builder Unit := do
  if if backwards then p.endsAtEnd else p.startsAtStart then add 0
  else
    addBranching 2
    add 0
    add arcBytes
  addPattern backwards (capture p)
  add 0

end Automaton

/-- Whether both automata of a pattern are small enough. -/
def fits (p : Pattern) : Bool :=
  [false, true].all fun backwards => ((Automaton.ofPattern backwards p).run ⟨0, 0⟩).isSome

end Conform.Pattern
