/-!
# Stable sorting by a comparison

`StableSort.sort less` sorts a list by a function that tells which elements are less than which.
Where `less` is a strict weak order, the outcome is the one stable sorted list, and how it is found
does not matter. Elsewhere it does: the outcome depends on which elements are compared, and the two
ends of a merge may fail to meet, which shows that `less` is no order. There is no outcome then.

So the steps of the sort are given here. A list of up to 20 elements is sorted by insertion. A
longer one is cut into runs, which are merged in pairs as the levels of a balanced tree ask for it.
A run that is not found in order is sorted by itself, or left for a quicksort together with its
neighbours; pieces of up to 32 elements are sorted in two halves and merged from both ends at once.
-/

namespace GraphAlgebra

namespace StableSort

variable {α : Type} (less : α → α → Bool)

/-! ### Merging and insertion -/

/-- Merges from the front, where an element of the right list goes first only if it is less. -/
def merge : List α → List α → List α
  | [], r => r
  | a :: l, r => r.takeWhile (less · a) ++ a :: merge l (r.dropWhile (less · a))

/-- Merges from the end, where an element of the left list goes last only if the one of the right
list is less. -/
def mergeBack (l r : List α) : List α :=
  (merge (fun a b => less b a) r.reverse l.reverse).reverse

/-- Inserts more elements into a sorted list, each of them from the end. -/
def insertAll (sorted l : List α) : List α := l.foldl (fun s a => mergeBack less s [a]) sorted

def insertionSort (l : List α) : List α := insertAll less [] l

/-! ### Short lists -/

def sortTwo (a b : α) : α × α := if less b a then (b, a) else (a, b)

/-- The elements of two sorted pairs with the least one first and the greatest one last. -/
def placeEnds (a b c d : α) : α × α × α × α :=
  match less c a, less d b with
  | false, false => (a, b, c, d)
  | false, true => (a, c, d, b)
  | true, false => (c, a, b, d)
  | true, true => (c, a, d, b)

/-- Four elements in order, by five comparisons. -/
def sortFour (v₀ v₁ v₂ v₃ : α) : List α :=
  let (a, b) := sortTwo less v₀ v₁
  let (c, d) := sortTwo less v₂ v₃
  let (low, left, right, high) := placeEnds less a b c d
  let (left, right) := sortTwo less left right
  [low, left, right, high]

/-- One half of a short list sorted by insertion. The first four elements of it are sorted by
themselves where `four` says so. -/
def sortHalf (four : Bool) (l : List α) : List α :=
  match four, l with
  | true, a :: b :: c :: d :: l => insertAll less (sortFour less a b c d) l
  | _, l => insertionSort less l

/-- The front and the end of a merge of two lists, in which the elements are marked by the list that
they are from, with what is between in either list. There is no outcome if the ends have gone past
each other in one of them. -/
def joinEnds (l r : List α) (front back : List (Bool × α)) : Option (List α) :=
  let leftStart := front.countP (·.1)
  let leftStop := l.length - back.countP (·.1)
  let rightStart := front.countP (!·.1)
  let rightStop := r.length - back.countP (!·.1)
  if leftStart ≤ leftStop ∧ rightStart ≤ rightStop then
    some (front.map Prod.snd ++ (l.take leftStop).drop leftStart ++
      (r.take rightStop).drop rightStart ++ back.map Prod.snd)
  else none

/-- Merges from the front and from the end at once, half of the elements each. -/
def mergeBoth (l r : List α) : Option (List α) :=
  let lessMarked (a b : Bool × α) := less a.2 b.2
  let left := l.map (Prod.mk true)
  let right := r.map (Prod.mk false)
  let size := l.length + r.length
  joinEnds l r ((merge lessMarked left right).take (size / 2))
    ((mergeBack lessMarked left right).drop (size - size / 2))

/-- The longest list that is sorted in two halves. -/
def shortLength : Nat := 32

def smallSort (l : List α) : Option (List α) :=
  let half := l.length / 2
  let four := decide (8 ≤ l.length)
  mergeBoth less (sortHalf less four (l.take half)) (sortHalf less four (l.drop half))

/-! ### Quicksort -/

/-- Whether one position of a list holds a lesser element than another. -/
def lessAt (l : List α) (i j : Nat) : Bool :=
  match l[i]?, l[j]? with
  | some a, some b => less a b
  | _, _ => false

/-- The middle one of three positions. -/
def medianOfThree (r : Nat → Nat → Bool) (i j k : Nat) : Nat :=
  if r i j = r i k then if r j k = r i j then j else k else i

/-- A position near the median among `8 * n` positions: the middle one of three, each of which is
found in the same way among fewer positions if there are enough of them. -/
def nearMedian (r : Nat → Nat → Bool) (start n : Nat) : Nat :=
  if 8 ≤ n then
    medianOfThree r (nearMedian r start (n / 8)) (nearMedian r (start + 4 * n) (n / 8))
      (nearMedian r (start + 7 * n) (n / 8))
  else medianOfThree r start (start + 4 * n) (start + 7 * n)
termination_by n

/-- The elements that satisfy `p` with the pivot in its place among them. -/
def withPivot (p : α → Bool) (before : List α) (pivot : α) (after : List α) : List α :=
  before.filter p ++ pivot :: after.filter p

/-- Sorts by partition around pivots. No element is less than the ancestor, if there is one: a pivot
that is not greater than it, or than any element, is a least one, and those equal to it are in
place. When the limit of partitions is reached, `slow` goes on. -/
def quicksort (slow : List α → Option (List α)) (limit : Nat) (ancestor : Option α) (l : List α) :
    Option (List α) :=
  if l.length ≤ shortLength then smallSort less l
  else
    let position := nearMedian (lessAt less l) 0 (l.length / 8)
    match limit, l.drop position with
    | 0, _ => slow l
    | _ + 1, [] => slow l
    | limit + 1, pivot :: after => do
        let before := l.take position
        let small := (before ++ after).filter (less · pivot)
        if ancestor.any (fun a => !less a pivot) || small.isEmpty then
          let large := (before ++ after).filter (less pivot ·)
          return withPivot (fun a => !less pivot a) before pivot after ++
            (← quicksort slow limit none large)
        else
          let large := withPivot (fun a => !less a pivot) before pivot after
          return (← quicksort slow limit ancestor small) ++
            (← quicksort slow limit (some pivot) large)

/-! ### Runs -/

/-- Neighbours in a list, which may still have to be sorted among themselves. -/
structure Run (α : Type) where
  toList : List α
  sorted : Bool

/-- How many elements continue the way that goes down strictly, or up, from an element. -/
def followers (down : Bool) : α → List α → Nat
  | a, b :: l => if less b a = down then followers down b l + 1 else 0
  | _, [] => 0

/-- How many elements at the front of a list are in order, and whether they go down strictly. -/
def naturalRun : List α → Nat × Bool
  | a :: b :: l => (followers less (less b a) a (b :: l) + 1, less b a)
  | l => (l.length, false)

/-- The run at the front of a list: the elements that are in order if there are enough of them, else
some elements, sorted at once in an eager sort. -/
def firstRun (enough : Nat) (eager : Bool) (l : List α) : Option (Run α) := do
  let (n, down) := naturalRun less l
  if enough ≤ n then return ⟨if down then (l.take n).reverse else l.take n, true⟩
  else if eager then return ⟨← smallSort less (l.take shortLength), true⟩
  else return ⟨l.take enough, false⟩

/-- A list as runs. -/
def cutRuns (enough : Nat) (eager : Bool) : List α → Option (List (Run α))
  | [] => some []
  | a :: l => do
      let run ← firstRun less enough eager (a :: l)
      return run :: (← cutRuns enough eager (l.drop (run.toList.length - 1)))
termination_by l => l.length

variable (sortRun : List α → Option (List α)) (room : Nat)

def Run.toSorted (run : Run α) : Option (List α) :=
  if run.sorted then some run.toList else sortRun run.toList

/-- Two neighbouring runs as one. Runs that are not sorted stay so while there is room for both. -/
def mergePair (left right : Run α) : Option (Run α) := do
  if left.toList.length + right.toList.length ≤ room ∧ !left.sorted ∧ !right.sorted then
    return ⟨left.toList ++ right.toList, false⟩
  else
    let l ← left.toSorted sortRun
    let r ← right.toSorted sortRun
    return ⟨if l.length ≤ r.length then merge less l r else mergeBack less l r, true⟩

/-- The level in a balanced tree over `n` elements at which two runs meet, which reach from `left`
to `mid` and from there to `right`: how many bits the middles of both have in common, as parts of
`n` that are scaled to 63 bits. -/
def meetLevel (n left mid right : Nat) : Nat :=
  let scale := ((1 <<< 62) + n - 1) / n
  let bits := (scale * (left + mid)) ^^^ (scale * (mid + right))
  if bits = 0 then 64 else 63 - bits.log2

/-- Merges a run with the earlier ones that it meets at some level or below. The last one of these
stands first, each with the level at which it meets the run after it. -/
def mergeDown (level : Nat) : List (Run α × Nat) → Run α → Option (List (Run α × Nat) × Run α)
  | [], run => some ([], run)
  | (left, l) :: earlier, run => do
      if level ≤ l then mergeDown level earlier (← mergePair less sortRun room left run)
      else return ((left, l) :: earlier, run)

/-- Merges the runs of a list of `n` elements, of which the last one that was read has not been
merged yet and ends at position `mid`. -/
def mergeRuns (n mid : Nat) (earlier : List (Run α × Nat)) (run : Run α) :
    List (Run α) → Option (Run α)
  | [] => do return (← mergeDown less sortRun room 0 earlier run).2
  | next :: runs => do
      let stop := mid + next.toList.length
      let level := meetLevel n (mid - run.toList.length) mid stop
      let (earlier, run) ← mergeDown less sortRun room level earlier run
      mergeRuns n stop ((run, level) :: earlier) next runs

/-- How many elements in order make a run: 64, or half of a short list, or about the square root of
the length of a long one, by one step of Newton's method. -/
def enoughFor (n : Nat) : Nat :=
  if n ≤ 4096 then min (n - n / 2) 64
  else
    let shift := (1 + n.log2) / 2
    ((1 <<< shift) + (n >>> shift)) / 2

def runSort (eager : Bool) (l : List α) : Option (List α) := do
  match ← cutRuns less (enoughFor l.length) eager l with
  | [] => return []
  | run :: runs =>
      let run ← mergeRuns less sortRun room l.length run.toList.length [] run runs
      run.toSorted sortRun

/-! ### The sort -/

/-- How many of `n` elements unsorted runs may have together, elements that take 48 bytes: all of
them up to 8 million bytes, and at least as many as there are in 4096 bytes. -/
def roomFor (n : Nat) : Nat := max 85 (max (n - n / 2) (min n 166666))

/-- Quicksort with a limit of partitions, after which runs are merged instead, each of them sorted
when it is cut. -/
def fastSort (room : Nat) (l : List α) : Option (List α) :=
  let slow := runSort less (fun l => some (insertionSort less l)) room true
  quicksort less slow (2 * l.length.log2) none l

/-- The sorted list, unless the comparison turns out to be no order. -/
def sort (l : List α) : Option (List α) :=
  if l.length ≤ 20 then some (insertionSort less l)
  else runSort less (fastSort less (roomFor l.length)) (roomFor l.length)
    (decide (l.length ≤ 2 * shortLength)) l

end StableSort

end GraphAlgebra
