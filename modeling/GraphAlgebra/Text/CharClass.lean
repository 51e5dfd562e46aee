/-!
# Classes of characters

A class of code points is given by its boundaries in increasing order: a point belongs to it
when an odd number of boundaries lies at or below it. So the first boundary opens a range,
the second one closes it before its own point, and so on. Set operations walk along the
boundaries of both sides at once.
-/

namespace GraphAlgebra

/-- The boundaries of a class of code points. -/
structure CharClass where
  boundaries : List Nat
deriving DecidableEq, Repr

namespace CharClass

def mem (s : CharClass) (n : Nat) : Bool := (s.boundaries.takeWhile (· ≤ n)).length % 2 == 1

def holds (s : CharClass) (c : Char) : Bool := s.mem c.toNat

def empty : CharClass := ⟨[]⟩

/-- The first number that is no code point. -/
def pointLimit : Nat := 0x110000

def whole : CharClass := ⟨[0, pointLimit]⟩

def range (lo hi : Nat) : CharClass := if lo ≤ hi then ⟨[lo, hi + 1]⟩ else empty

mutual

/-- The boundaries at which the outcome of `op` changes, where `a` and `b` tell whether the point
reached so far lies inside the two sides and `out` is the outcome there. -/
def sweep (op : Bool → Bool → Bool) (a b out : Bool) : List Nat → List Nat → List Nat
  | [], [] => []
  | x :: xs, [] => sweepFrom op (!a) b out x xs []
  | [], y :: ys => sweepFrom op a (!b) out y [] ys
  | x :: xs, y :: ys =>
      if x < y then sweepFrom op (!a) b out x xs (y :: ys)
      else if y < x then sweepFrom op a (!b) out y (x :: xs) ys
      else sweepFrom op (!a) (!b) out x xs ys
termination_by xs ys => (xs.length + ys.length, 0)

/-- The same from the point `x` on, where `a` and `b` already tell about that point. -/
def sweepFrom (op : Bool → Bool → Bool) (a b out : Bool) (x : Nat) (xs ys : List Nat) :
    List Nat :=
  if op a b == out then sweep op a b out xs ys else x :: sweep op a b (op a b) xs ys
termination_by (xs.length + ys.length, 1)

end

/-- The points for which `op` holds of their memberships in both classes. It must not hold of
two classes that both leave a point out. -/
def combine (op : Bool → Bool → Bool) (s t : CharClass) : CharClass :=
  ⟨sweep op false false false s.boundaries t.boundaries⟩

def union (s t : CharClass) : CharClass := combine (· || ·) s t

def inter (s t : CharClass) : CharClass := combine (· && ·) s t

def diff (s t : CharClass) : CharClass := combine (fun a b => a && !b) s t

def symmDiff (s t : CharClass) : CharClass := combine (· != ·) s t

def compl (s : CharClass) : CharClass := whole.diff s

/-- The class near the points from `lo` to `hi`: among these it has the same members, and none
below them. -/
def clip (s : CharClass) (lo hi : Nat) : CharClass :=
  let bs := (s.boundaries.dropWhile (· ≤ lo)).takeWhile (· ≤ hi)
  ⟨if s.mem lo then lo :: bs else bs⟩

/-- The boundaries of a list of points in increasing order, where `stop` ends the range so far. -/
def boundariesFrom (stop : Nat) : List Nat → List Nat
  | [] => [stop]
  | n :: ns =>
      if n + 1 = stop then boundariesFrom stop ns
      else if n = stop then boundariesFrom (n + 1) ns
      else stop :: n :: boundariesFrom (n + 1) ns

def ofPoints (ns : List Nat) : CharClass :=
  match ns.mergeSort (· ≤ ·) with
  | [] => empty
  | n :: ns => ⟨n :: boundariesFrom (n + 1) ns⟩

/-- The ranges of a class, both ends included. A range that is not closed goes on to the last
code point. -/
def ranges (s : CharClass) : List (Nat × Nat) := pairs s.boundaries
where
  /-- Takes the boundaries in pairs. -/
  pairs : List Nat → List (Nat × Nat)
    | lo :: hi :: bs => (lo, hi - 1) :: pairs bs
    | [lo] => [(lo, pointLimit - 1)]
    | [] => []

end CharClass

def whiteSpace : CharClass := ⟨
  [9, 14, 32, 33, 133, 134, 160, 161, 5760, 5761, 8192, 8203, 8232, 8234, 8239, 8240, 8287,
    8288, 12288, 12289]⟩

def isBlank (c : Char) : Bool := whiteSpace.holds c

def trimBlank (cs : List Char) : List Char :=
  ((cs.dropWhile isBlank).reverse.dropWhile isBlank).reverse

end GraphAlgebra
