import SymbolTags.Proofs.EncodedText
import SymbolTags.Proofs.LinePosition
import SymbolTags.Proofs.Rounds

namespace SymbolTags

/-!
# The first line — sources that tell how they are run

A source may start with a line that tells which program runs it, and which is no part of the
script.  Such a line is emptied when the source is read, and nothing else is changed:

* `StartsWithShebang` — a text whose first line is of this kind;
* `lines_blankShebang` — emptying it leaves all later lines as they are, carriage returns at their
  ends included;
* `Encoding.NamesUtf8` — the names of UTF-8, by which the bytes of a text are read as the text;
* `readSource_empties_first_line` — what is read off a file that holds a text.
-/

/-- A text starts with `#!`. -/
def StartsWithShebang (cs : List Char) : Prop :=
  ['#', '!'] <+: cs

/-! ### Emptying the line -/

/-- Dropping everything up to the first line feed empties the first line. -/
theorem Text.lines_dropWhile (cs : List Char) :
    lines (cs.dropWhile (· != '\n')) = [] :: (lines cs).tail := by
  induction cs with
  | nil => rfl
  | cons c rest ih =>
    by_cases hc : c = '\n'
    · rw [List.dropWhile_cons_of_neg (by simp [hc]), lines, if_pos hc, List.tail_cons]
    · obtain ⟨line, more, hrest⟩ := List.exists_cons_of_ne_nil (lines_ne_nil rest)
      rw [List.dropWhile_cons_of_pos (by simp [hc]), ih, lines_cons_of_ne hc hrest, hrest]
      rfl

/-- A first line that starts with the mark goes, up to its line feed. -/
theorem blankShebang_of_starts {cs : List Char} (h : StartsWithShebang cs) :
    blankShebang cs = cs.dropWhile (· != '\n') := by
  obtain ⟨rest, rfl⟩ := h
  rfl

/-- Any other text stays as it is. -/
theorem blankShebang_of_not_starts {cs : List Char} (h : ¬StartsWithShebang cs) :
    blankShebang cs = cs := by
  unfold blankShebang
  split
  · rename_i rest
    exact absurd ⟨rest, rfl⟩ h
  · rfl

/-- **Lines.**  Of a text that starts with `#!` all lines but the first one stay. -/
theorem lines_blankShebang {cs : List Char} (h : StartsWithShebang cs) :
    Text.lines (blankShebang cs) = [] :: (Text.lines cs).tail := by
  rw [blankShebang_of_starts h, Text.lines_dropWhile]

/-- What is left starts with a line feed, if there is anything left. -/
theorem not_startsWithShebang_blankShebang (cs : List Char) :
    ¬StartsWithShebang (blankShebang cs) := by
  by_cases h : StartsWithShebang cs
  · rw [blankShebang_of_starts h]
    rintro ⟨rest, hrest⟩
    have hhead : (cs.dropWhile (· != '\n')).head? = some '#' := by
      rw [← hrest]
      rfl
    -- What is left starts with a line feed, if it starts with anything.
    have hstop := List.head?_dropWhile_not (· != '\n') cs
    rw [hhead] at hstop
    exact absurd hstop (by decide)
  · rwa [blankShebang_of_not_starts h]

/-- A second time there is nothing to empty. -/
theorem blankShebang_blankShebang (cs : List Char) :
    blankShebang (blankShebang cs) = blankShebang cs :=
  blankShebang_of_not_starts (not_startsWithShebang_blankShebang cs)

/-! ### Reading -/

/-- A name of UTF-8. -/
structure Encoding.NamesUtf8 (name : String) : Prop where
  codec : Codec.ofName? name = some .utf8
  noNull : Char.ofNat 0 ∉ name.toList

/-- Under any of its names UTF-8 reads the bytes of a text as the text. -/
theorem Encoding.NamesUtf8.decode_toUTF8 {name : String} (h : NamesUtf8 name) (s : String) :
    decode name s.toUTF8.toList = .ok s.toList := by
  have hread := decodeUtf8_toUTF8 s
  unfold decode
  rw [if_neg (by simpa using h.noNull), h.codec]
  split_ifs with hempty
  · -- no bytes, so no text either
    rw [List.isEmpty_iff.mp hempty] at hread
    have hnil : [] = s.toList := Except.ok.inj hread
    rw [hnil]
  · show (decodeUtf8 s.toUTF8.toList).mapError DecodeError.fault = _
    rw [hread]
    rfl

/-- A file that holds a text is read as the text, its first line emptied if the settings ask for
    this. -/
theorem readSource_of_text {fs : File.Files} {settings : Settings} {path text : String}
    (hencoding : Encoding.NamesUtf8 settings.encoding) (hpath : File.hasNull path = false)
    (hstored : fs.read path = .ok text.toUTF8.toList) :
    readSource fs settings path =
      .ok (String.ofList
        (if settings.stripShebang then blankShebang text.toList else text.toList)) := by
  rw [readSource_eq fs settings Encoding.decode hpath, hstored]
  simp only [hencoding.decode_toUTF8]

/-- **The first line.**  A file that holds a text in UTF-8 can be read.  If the settings ask for a
    first line with `#!` to be emptied, then a text without one is read as it is; otherwise the
    lines that are read are an empty one and then the second and all later ones of the text.  If
    the settings do not ask for it, any text is read as it is.  And what was read, once stored in
    a file, is read again as it is. -/
theorem readSource_empties_first_line {fs : File.Files} {settings : Settings}
    {path text : String} (hencoding : Encoding.NamesUtf8 settings.encoding)
    (hpath : File.hasNull path = false) (hstored : fs.read path = .ok text.toUTF8.toList) :
    ∃ source, readSource fs settings path = .ok source ∧
      (settings.stripShebang = true → ¬StartsWithShebang text.toList → source = text) ∧
      (settings.stripShebang = true → StartsWithShebang text.toList →
        Text.lines source.toList = [] :: (Text.lines text.toList).tail) ∧
      (settings.stripShebang = false → source = text) ∧
      ∀ (fs' : File.Files) (path' : String), File.hasNull path' = false →
        fs'.read path' = .ok source.toUTF8.toList → readSource fs' settings path' = .ok source := by
  refine ⟨_, readSource_of_text hencoding hpath hstored, ?_, ?_, ?_, ?_⟩
  · intro hstrip hno
    rw [if_pos hstrip, blankShebang_of_not_starts hno, String.ofList_toList]
  · intro hstrip hshebang
    rw [if_pos hstrip, String.toList_ofList, lines_blankShebang hshebang]
  · intro hkeep
    rw [hkeep, if_neg Bool.false_ne_true, String.ofList_toList]
  · intro fs' path' hpath' hstored'
    rw [readSource_of_text hencoding hpath' hstored', String.toList_ofList]
    split_ifs
    · rw [blankShebang_blankShebang]
    · rfl

/-- A script with a first line of this kind, carriage returns, a second `#!` and no last line
    feed. -/
def shellScript : String := "#!/bin/sh\r\n\r\n#!x\u2028y"

/-- A file that holds it. -/
def shellFiles : File.Files :=
  ⟨[(["s.js"], .file shellScript.toUTF8.toList)]⟩

theorem readSource_empties_first_line_shellScript :
    Encoding.NamesUtf8 ({} : Settings).encoding ∧ File.hasNull "s.js" = false ∧
    shellFiles.read "s.js" = .ok shellScript.toUTF8.toList ∧
    ∃ source, readSource shellFiles {} "s.js" = .ok source ∧
      Text.lines source.toList = [[], ['\r'], ['#', '!', 'x', '\u2028', 'y']] := by
  have hencoding : Encoding.NamesUtf8 ({} : Settings).encoding := ⟨rfl, by decide⟩
  have hpath : File.hasNull "s.js" = false := by decide
  have hstored : shellFiles.read "s.js" = .ok shellScript.toUTF8.toList := rfl
  obtain ⟨source, hread, -, hlines, -⟩ := readSource_empties_first_line hencoding hpath hstored
  refine ⟨hencoding, hpath, hstored, source, hread, ?_⟩
  rw [hlines rfl ⟨"/bin/sh\r\n\r\n#!x\u2028y".toList, by decide⟩]
  decide

end SymbolTags
