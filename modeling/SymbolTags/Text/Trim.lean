namespace SymbolTags.Text

/-!
# Trimming and cutting text

* `dropEndWhile` and `trimBoth` drop characters at the end, or at both ends, of a text;
* `slice` cuts a text between two offsets, a negative offset counting from the end and
  one beyond the text standing for its end.
-/

/-- Drops the characters at the end that satisfy a predicate. -/
def dropEndWhile (p : Char → Bool) (cs : List Char) : List Char :=
  (cs.reverse.dropWhile p).reverse

/-- Drops the characters at both ends that satisfy a predicate. -/
def trimBoth (p : Char → Bool) (cs : List Char) : List Char :=
  dropEndWhile p (cs.dropWhile p)

/-- The place in a text of the given length that an offset stands for. -/
def clampOffset (length : Nat) (i : Int) : Nat :=
  if i < 0 then (i + length).toNat else min i.toNat length

/-- The characters from one offset up to another; empty when they are in reverse order. -/
def slice (cs : List Char) (start stop : Int) : List Char :=
  let first := clampOffset cs.length start
  let last := clampOffset cs.length stop
  (cs.drop first).take (last - first)

end SymbolTags.Text
