import GraphAlgebra.Text.CharClass
/-!
# Recent characters

Labels and the case of a text go by version 17.0 of the Unicode standard, while patterns go by the
properties of version 16.0. The classes here hold what the later version adds.
-/

namespace GraphAlgebra

namespace Recent

def alphabetic : CharClass := ⟨
  [
    2191, 2192, 3164, 3165, 3292, 3293, 42958, 42960, 42962, 42963, 42964, 42965, 42993, 42994,
    67904, 67930, 69317, 69320, 69370, 69372, 72544, 72552, 73136, 73180, 93856, 93881, 93883,
    93908, 94194, 94199, 100344, 100352, 101641, 101663, 101760, 101875, 124608, 124639, 124640,
    124662, 124670, 124672, 177978, 177984, 183970, 183982, 205744, 210042]⟩

def number : CharClass :=
  ⟨[73184, 73194, 94196, 94199]⟩

def cased : CharClass :=
  ⟨[42958, 42960, 42962, 42963, 42964, 42965, 42993, 42994, 93856, 93881, 93883, 93908]⟩

def caseIgnorable : CharClass := ⟨
  [
    6863, 6878, 6880, 6892, 42993, 42994, 69317, 69318, 69370, 69372, 72544, 72545, 72546, 72549,
    72550, 72551, 73177, 73178, 94194, 94196, 124643, 124644, 124646, 124647, 124654, 124656,
    124661, 124662, 124671, 124672]⟩

/-- Letters with another lower case. -/
def capital : CharClass :=
  ⟨[42958, 42959, 42962, 42963, 42964, 42965, 93856, 93881]⟩

/-- Letters with another upper case. -/
def small : CharClass :=
  ⟨[42959, 42960, 42963, 42964, 42965, 42966, 93883, 93908]⟩

end Recent

end GraphAlgebra
