import GraphAlgebra.Number.Digits
/-!
# Points in time with an offset

This stands for the points in time of the calendar library `chrono` 0.4 with their order, and for
its reader of them, `parse_from_rfc3339`, as the library documents them.

The accepted texts are dates and times of the form `2024-01-02T03:04:05.678+01:00`. The letter
between date and time may be of either case or a blank, and the offset may be a `Z` of either
case. Digits of the fraction after the ninth do not count. The sixtieth second of any minute is
read as its last one with a fraction of one second or more.
-/

namespace GraphAlgebra

/-- A point in time: seconds since the beginning of 1970, nanoseconds on top of them, and the
offset east of the zero meridian in seconds. -/
structure Instant where
  seconds : Int
  nanoseconds : Nat
  offset : Int
deriving DecidableEq, Repr

namespace Instant

/-- Earlier and later, whatever the offsets are. -/
def compare (s t : Instant) : Ordering :=
  (Ord.compare s.seconds t.seconds).then (Ord.compare s.nanoseconds t.nanoseconds)

def isLeapYear (y : Nat) : Bool := y % 4 == 0 && (y % 100 != 0 || y % 400 == 0)

def daysInMonth (y m : Nat) : Nat :=
  if m = 2 then if isLeapYear y then 29 else 28
  else if m = 4 ∨ m = 6 ∨ m = 9 ∨ m = 11 then 30
  else 31

/-- The days from the first of January of year zero to the first of January of year `y`. -/
def daysBeforeYear (y : Nat) : Nat := 365 * y + (y + 3) / 4 - (y + 99) / 100 + (y + 399) / 400

def daysBeforeMonth (y m : Nat) : Nat :=
  (List.range (m - 1)).foldl (fun days k => days + daysInMonth y (k + 1)) 0

/-- The days from the beginning of 1970 to a date. -/
def dayNumber (y m d : Nat) : Int :=
  (daysBeforeYear y + daysBeforeMonth y m + (d - 1) : Nat) - 719528

/-- Exactly `n` digits, and what follows them. -/
def digits? (n : Nat) (cs : List Char) : Option (Nat × List Char) :=
  let ds := cs.take n
  if ds.length = n ∧ ds.all isDigit then some (digitsValue 0 ds, cs.drop n) else none

def char? (c : Char) : List Char → Option (Unit × List Char)
  | c' :: cs => if c' = c then some ((), cs) else none
  | [] => none

def field? (n lo hi : Nat) (cs : List Char) : Option (Nat × List Char) := do
  let (v, cs) ← digits? n cs
  if lo ≤ v ∧ v ≤ hi then some (v, cs) else none

def dateTimeMark? : List Char → Option (Unit × List Char)
  | c :: cs => if c = 'T' ∨ c = 't' ∨ c = ' ' then some ((), cs) else none
  | [] => none

/-- A point and the digits of a fraction in nanoseconds, or nothing. -/
def fraction? : List Char → Option (Nat × List Char)
  | '.' :: cs =>
      let ds := cs.takeWhile isDigit
      if ds.isEmpty then none
      else
        let used := ds.take 9
        some (digitsValue 0 used * Nat.pow 10 (9 - used.length), cs.dropWhile isDigit)
  | cs => some (0, cs)

/-- Hours and minutes of an offset without its sign. -/
def offsetMagnitude? (cs : List Char) : Option (Nat × List Char) := do
  let (h, cs) ← field? 2 0 23 cs
  let ((), cs) ← char? ':' cs
  let (m, cs) ← field? 2 0 59 cs
  some (h * 3600 + m * 60, cs)

/-- The offset: a sign with hours and minutes, or the letter Z. -/
def offset? : List Char → Option (Int × List Char)
  | c :: cs =>
      if c = 'Z' ∨ c = 'z' then some (0, cs)
      else if c = '+' then (offsetMagnitude? cs).map fun (n, r) => ((n : Int), r)
      else if c = '-' ∨ c = '−' then (offsetMagnitude? cs).map fun (n, r) => (-(n : Int), r)
      else none
  | [] => none

def ofText? (cs : List Char) : Option Instant := do
  let (year, cs) ← digits? 4 cs
  let ((), cs) ← char? '-' cs
  let (month, cs) ← field? 2 1 12 cs
  let ((), cs) ← char? '-' cs
  let (day, cs) ← field? 2 1 (daysInMonth year month) cs
  let ((), cs) ← dateTimeMark? cs
  let (hour, cs) ← field? 2 0 23 cs
  let ((), cs) ← char? ':' cs
  let (minute, cs) ← field? 2 0 59 cs
  let ((), cs) ← char? ':' cs
  let (second, cs) ← field? 2 0 60 cs
  let (fraction, cs) ← fraction? cs
  let (offset, cs) ← offset? cs
  if !cs.isEmpty then none
  else
    let time : Nat := hour * 3600 + minute * 60 + min second 59
    some
      { seconds := dayNumber year month day * 86400 + time - offset
        nanoseconds := if second = 60 then fraction + 1000000000 else fraction
        offset := offset }

end Instant

end GraphAlgebra
