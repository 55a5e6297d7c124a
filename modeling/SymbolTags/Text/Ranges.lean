namespace SymbolTags.Text

/-!
# Ranges — tables of code point intervals

Properties of characters that a standard lists are kept as ascending, disjoint closed
intervals of code points.
-/

/-- A code point lies in one of the intervals of a table. -/
def inRanges (table : List (Nat × Nat)) (n : Nat) : Bool :=
  table.any fun r => r.1 ≤ n && n ≤ r.2

end SymbolTags.Text
