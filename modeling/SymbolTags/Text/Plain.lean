namespace SymbolTags.Text

/-!
# Plain text

A control sequence tells a terminal to change colours or to move.  It starts with an escape
character and an opening bracket, goes on with digits, semicolons and question marks, and ends
with a letter.  `plain` takes all control sequences out of a text.
-/

/-- The character that starts a control sequence. -/
def escapeChar : Char := Char.ofNat 27

/-- A character in the middle of a control sequence. -/
def isSequencePart (c : Char) : Bool :=
  c.isDigit || c == ';' || c == '?'

/-- What follows the control sequence at the start of a text, if one is there. -/
def afterSequence? : List Char → Option (List Char)
  | e :: '[' :: rest =>
    if e = escapeChar then
      match rest.dropWhile isSequencePart with
      | c :: tail => if c.isAlpha then some tail else none
      | [] => none
    else none
  | _ => none

/-- What follows a control sequence is shorter than the text. -/
theorem afterSequence?_length {cs rest : List Char} (h : afterSequence? cs = some rest) :
    rest.length < cs.length := by
  unfold afterSequence? at h
  split at h
  · rename_i e tail
    have hdrop : (tail.dropWhile isSequencePart).length ≤ tail.length :=
      (List.dropWhile_sublist _).length_le
    split at h
    · split at h
      · rename_i c after heq
        rw [heq] at hdrop
        simp only [List.length_cons] at hdrop
        split at h
        · simp only [Option.some.injEq] at h
          subst h
          simp only [List.length_cons]
          omega
        · simp at h
      · simp at h
    · simp at h
  · simp at h

/-- The characters of a text that belong to no control sequence. -/
def plainChars (cs : List Char) : List Char :=
  match cs with
  | [] => []
  | c :: rest =>
    match _h : afterSequence? (c :: rest) with
    | some tail => plainChars tail
    | none => c :: plainChars rest
termination_by cs.length
decreasing_by
  · exact afterSequence?_length _h
  · simp

/-- A text without its control sequences. -/
def plain (s : String) : String :=
  String.ofList (plainChars s.toList)

end SymbolTags.Text
