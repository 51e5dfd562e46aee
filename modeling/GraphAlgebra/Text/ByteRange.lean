import GraphAlgebra.Text.CharClass
/-!
# Code points as sequences of bytes

A range of code points is encoded by a few sequences of byte ranges, in increasing order and
without overlap: a code point lies in the range exactly when its encoding has one byte in each
part of one of the sequences. Surrogates have no encoding.
-/

namespace GraphAlgebra

abbrev ByteRange := Nat × Nat

namespace ByteRange

def continuation : ByteRange := (0x80, 0xBF)

/-- The sequences for the values from `lo` to `hi` in a leading byte, whose values begin at
`lead`, and `k` continuation bytes of six bits each. The leading bytes at the two ends are split
off unless all that follows them is in the range. -/
def sequencesFrom (lead : Nat) : Nat → Nat → Nat → List (List ByteRange)
  | 0, lo, hi => [[(lead + lo, lead + hi)]]
  | k + 1, lo, hi =>
      let block := 64 ^ (k + 1)
      let under (q lo hi : Nat) : List (List ByteRange) :=
        (sequencesFrom 0x80 k lo hi).map ((lead + q, lead + q) :: ·)
      let first := lo / block
      let last := hi / block
      if first = last then under first (lo % block) (hi % block)
      else
        let fullFirst := lo % block = 0
        let fullLast := hi % block = block - 1
        let q := if fullFirst then first else first + 1
        let r := if fullLast then last + 1 else last
        (if fullFirst then [] else under first (lo % block) (block - 1)) ++
          (if q < r then [(lead + q, lead + r - 1) :: List.replicate (k + 1) continuation]
            else []) ++
          (if fullLast then [] else under last 0 (hi % block))

/-- The code points that are encoded alike: first and last of them, the first value of their
leading bytes, and the number of continuation bytes. -/
def encodings : List (Nat × Nat × Nat × Nat) :=
  [(0, 0x7F, 0, 0), (0x80, 0x7FF, 0xC0, 1), (0x800, 0xD7FF, 0xE0, 2), (0xE000, 0xFFFF, 0xE0, 2),
    (0x10000, 0x10FFFF, 0xF0, 3)]

def sequencesOfRange (lo hi : Nat) : List (List ByteRange) :=
  encodings.flatMap fun (first, last, lead, k) =>
    let lo := max lo first
    let hi := min hi last
    if lo ≤ hi then sequencesFrom lead k lo hi else []

def sequencesOfClass (s : CharClass) : List (List ByteRange) :=
  s.ranges.flatMap fun (lo, hi) => sequencesOfRange lo hi

end ByteRange

end GraphAlgebra
