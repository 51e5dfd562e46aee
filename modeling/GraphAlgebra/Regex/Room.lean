import GraphAlgebra.Regex.Plan
/-!
# The room that automata take

The library `regex` documents that a pattern is refused when its compiled form is larger than a
limit, by default ten mebibytes. A pattern is laid out as two automata over bytes, one that reads on
and one that reads back, and the limit holds for each of them. A state takes 32 bytes, a link from a
choice 4, and a range of bytes in a state with several of them 8.

Where the automaton reads on, the sequences of byte ranges of a set share equal beginnings and all
equal continuations. Where it reads back, every sequence is a path of its own, and paths share only
the states at their beginning.
-/

namespace GraphAlgebra

namespace Regex

def stateRoom : Nat := 32

def linkRoom : Nat := 4

def rangeRoom : Nat := 8

def maxRoom : Nat := 10 * 1024 * 1024

/-- A state by its byte ranges and the numbers of the states to which they lead, where 0 is the
number of the state after a character. -/
abbrev ByteState := List (ByteRange × Nat)

/-- The state that has the given sequences before it, found among the states so far or added to
them. Sequences are no longer than `fuel`. -/
def internState : Nat → List (List ByteRange) → Array ByteState → Nat × Array ByteState
  | 0, _, states => (0, states)
  | fuel + 1, seqs, states =>
      if seqs.all (·.isEmpty) then (0, states)
      else
        let groups := seqs.splitBy fun a b => a.head? == b.head?
        let (state, states) := groups.foldl (fun (state, states) group =>
          let (next, states) := internState fuel (group.map List.tail) states
          match group with
          | (r :: _) :: _ => ((r, next) :: state, states)
          | _ => (state, states)) ([], states)
        match states.idxOf? state with
        | some i => (i + 1, states)
        | none => (states.size + 1, states.push state)

def commonLength : List ByteRange → List ByteRange → Nat
  | a :: as, b :: bs => if a = b then commonLength as bs + 1 else 0
  | _, _ => 0

/-- The number of states on the paths of some sequences, of which `before` is the last one so
far. -/
def pathStates (before : List ByteRange) : List (List ByteRange) → Nat
  | [] => 0
  | s :: ss => s.length - commonLength before s + pathStates s ss

inductive Direction where
  | onward
  | backward
deriving DecidableEq, Repr

/-- The room for a set: for ASCII characters a single state, and the state after it. -/
def classRoom (d : Direction) (k : CharClass) : Nat :=
  if k.boundaries.all (· ≤ 128) then 2 * stateRoom + k.ranges.length * rangeRoom
  else
    let seqs := ByteRange.sequencesOfClass k
    match d with
    | .onward =>
        let states := (internState 5 seqs #[]).2.toList
        states.foldl (fun room s => room + stateRoom + s.length * rangeRoom) stateRoom
    | .backward =>
        2 * stateRoom + seqs.length * linkRoom + pathStates [] seqs * stateRoom

def bytesOf (cs : List Char) : List UInt8 := cs.flatMap String.utf8EncodeChar

/-- The room for a choice among texts, which share equal beginnings. Every place at which some
text goes on has two states, and its bytes take room if there are several. -/
def textsRoom : Nat → List (List UInt8) → Nat
  | 0, _ => 0
  | fuel + 1, ts =>
      let ts := ts.filter (!·.isEmpty)
      if ts.isEmpty then 0
      else
        let heads := (ts.filterMap List.head?).eraseDups
        let ranges := if heads.length = 1 then 0 else heads.length * rangeRoom
        heads.foldl
          (fun room b => room + textsRoom fuel ((ts.filter (·.head? == some b)).map List.tail))
          (2 * stateRoom + linkRoom + ranges)

namespace Plan

mutual

def consumes : Plan → Bool
  | .empty | .place _ => false
  | .text _ => true
  | .set k => !k.boundaries.isEmpty
  | .captured p => p.consumes
  | .repeated p min _ => min != 0 && p.consumes
  | .seq ps => anyConsumes ps
  | .alt ps => allConsume ps

def anyConsumes : List Plan → Bool
  | [] => false
  | p :: ps => p.consumes || anyConsumes ps

def allConsume : List Plan → Bool
  | [] => true
  | p :: ps => p.consumes && allConsume ps

end

def text? : Plan → Option (List Char)
  | .text cs => some cs
  | _ => none

/-- The room of `min` to `max` copies of what takes `room`, where `consumes` tells whether that
matches no empty text. A copy that can be left out or come again is entered by a choice. -/
def copiesRoom (room : Nat) (consumes : Bool) : Nat → Option Nat → Nat
  | 0, none =>
      if consumes then room + stateRoom + 2 * linkRoom else room + 3 * stateRoom + 4 * linkRoom
  | min, none => min * room + stateRoom + 2 * linkRoom
  | 0, some 1 => room + 2 * stateRoom + 2 * linkRoom
  | min, some max =>
      if min = max then min * room
      else
        (if min = 0 then stateRoom else min * room) + stateRoom +
          (max - min) * (room + stateRoom + 2 * linkRoom)

mutual

def room (d : Direction) : Plan → Nat
  | .empty | .place _ => stateRoom
  | .text cs => (bytesOf cs).length * stateRoom
  | .set k => classRoom d k
  | .captured p =>
      match d with
      | .onward => p.room d + 2 * stateRoom
      | .backward => p.room d
  | .repeated p min max => copiesRoom (p.room d) p.consumes min max
  | .seq ps => rooms d ps
  | .alt ps =>
      match ps.mapM text? with
      | some ts =>
          let ts := ts.map fun cs =>
            match d with
            | .onward => bytesOf cs
            | .backward => (bytesOf cs).reverse
          stateRoom + textsRoom (ts.flatten.length + 1) ts
      | none => rooms d ps + 2 * stateRoom + ps.length * linkRoom

def rooms (d : Direction) : List Plan → Nat
  | [] => 0
  | p :: ps => p.room d + rooms d ps

end

mutual

/-- Whether a match can only be where the place `q` is, at the side at which reading begins. -/
def fixedAt (d : Direction) (q : Place) : Plan → Bool
  | .empty | .text _ | .set _ => false
  | .place p => p == q
  | .captured p => p.fixedAt d q
  | .repeated p min _ => min != 0 && p.fixedAt d q
  | .seq ps =>
      match d with
      | .onward => firstFixedAt d q ps
      | .backward => lastFixedAt d q ps
  | .alt ps => !ps.isEmpty && allFixedAt d q ps

/-- The same for plans in turn, where those that match only the empty text can come first. -/
def firstFixedAt (d : Direction) (q : Place) : List Plan → Bool
  | [] => false
  | p :: ps => p.fixedAt d q || (p.emptyOnly && firstFixedAt d q ps)

def lastFixedAt (d : Direction) (q : Place) : List Plan → Bool
  | [] => false
  | p :: ps => lastFixedAt d q ps || (allEmptyOnly ps && p.fixedAt d q)

def allFixedAt (d : Direction) (q : Place) : List Plan → Bool
  | [] => true
  | p :: ps => p.fixedAt d q && allFixedAt d q ps

end

/-- The room of the whole automaton: a part that skips to the beginning of a match unless there is
only one place for it, the plan, which is captured where the automaton reads on, and the state of
a match. -/
def totalRoom (d : Direction) (p : Plan) : Nat :=
  let edge : Place :=
    match d with
    | .onward => .textStart
    | .backward => .textEnd
  let skip := if p.fixedAt d edge then stateRoom else 3 * stateRoom + rangeRoom + 2 * linkRoom
  skip + room d (.captured p) + stateRoom

def fits (p : Plan) : Bool :=
  p.totalRoom .onward ≤ maxRoom && p.totalRoom .backward ≤ maxRoom

end Plan

end Regex

end GraphAlgebra
