import Std.Data.ExtTreeMap

/-!
# Cells

A cell is named by its column and row. Cells are ordered row by row.
-/

namespace Vivarium

/-- A column and a row. -/
structure Cell where
  /-- The column. -/
  x : Int
  /-- The row. -/
  y : Int
  deriving DecidableEq, Repr, Inhabited

namespace Cell

/-- The order of cells, row by row and within a row by column. -/
def order : Cell → Cell → Ordering :=
  compareLex (compareOn Cell.y) (compareOn Cell.x)

instance : Std.TransCmp order :=
  inferInstanceAs (Std.TransCmp (compareLex (compareOn Cell.y) (compareOn Cell.x)))

instance : Std.LawfulEqCmp order where
  eq_of_compare {a b} h := by
    simp only [order, compareLex_eq_eq, compareOn, Std.LawfulEqCmp.compare_eq_iff_eq] at h
    cases a
    cases b
    simp_all

end Cell

/-- A map from cells. -/
abbrev CellMap (α : Type) := Std.ExtTreeMap Cell α Cell.order

end Vivarium
