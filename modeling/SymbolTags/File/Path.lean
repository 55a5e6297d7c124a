namespace SymbolTags.File

/-!
# Paths

A path is a text with components divided by slashes.  It leads from the working directory on,
or from the root if a slash comes first:

* `components` lists the components without empty ones and single dots;
* `display` is the text form with such components left out;
* `placeOf` follows two dots as well; those that lead out of the working directory stay at the
  front.  `settled` is the text form of the place;
* `join` appends a name to a path;
* `expandHome` replaces a tilde at the front by a home directory.

Names and paths have a greatest length, and no path holds a null character.
-/

/-- A path with a null character leads nowhere at all. -/
def hasNull (path : String) : Bool :=
  path.toList.contains (Char.ofNat 0)

/-- The text of the refusal of a null character. -/
def nullMessage : String := "embedded null byte"

/-- Divides a text at its slashes. -/
def splitSlashes : List Char → List (List Char)
  | [] => [[]]
  | c :: rest =>
    if c = '/' then [] :: splitSlashes rest
    else
      match splitSlashes rest with
      | [] => [[c]]
      | part :: parts => (c :: part) :: parts

/-- The components of a path; empty ones and single dots lead nowhere. -/
def components (path : String) : List String :=
  ((splitSlashes path.toList).map String.ofList).filter fun c => c != "" && c != "."

/-- The name of the root as a place; no component has this name. -/
def rootName : String := "/"

/-- The slashes at the front of a path that are shown: two stay two, and more count as one. -/
def leadingSlashes (path : String) : String :=
  match path.toList with
  | '/' :: '/' :: '/' :: _ => "/"
  | '/' :: '/' :: _ => "//"
  | '/' :: _ => "/"
  | _ => ""

/-- The text form of slashes at the front and components: a single dot when there is
    neither. -/
def textOf (slashes : String) (parts : List String) : String :=
  let text := slashes ++ "/".intercalate parts
  if text = "" then "." else text

/-- The text form of a path. -/
def display (path : String) : String :=
  textOf (leadingSlashes path) (components path)

/-- The place that a path starts from. -/
def startOf (path : String) : List String :=
  if leadingSlashes path = "" then [] else [rootName]

/-- The place above a place.  Above the working directory lie the directories that are
    reached by two dots only, and above the root there is nothing but the root. -/
def placeAbove (place : List String) : List String :=
  if place = [rootName] then place
  else if place.all (· == "..") then place ++ [".."]
  else place.dropLast

/-- Two dots take the component before them away. -/
def dropParents (acc : List String) : List String → List String
  | [] => acc
  | c :: rest =>
    if c = ".." then dropParents (placeAbove acc) rest else dropParents (acc ++ [c]) rest

/-- The place that a path leads to. -/
def placeOf (path : String) : List String :=
  dropParents (startOf path) (components path)

/-- The text form of the place that a path leads to. -/
def settled (path : String) : String :=
  "/".intercalate (placeOf path)

/-- The greatest length of a component, in bytes. -/
def longestName : Nat := 255

/-- The greatest length of a path, in bytes. -/
def longestPath : Nat := 4095

/-- The path of a name inside a directory. -/
def join (directory name : String) : String :=
  textOf (leadingSlashes directory) (components directory ++ [name])

/-- A text starts with a tilde. -/
def startsAtHome (s : String) : Bool :=
  s.toList.head? == some '~'

/-- A path that starts with a tilde starts in the home directory; there is none when the tilde
    is followed by the name of another account, or when the home directory starts with a tilde
    itself. -/
def expandHome (home path : String) : Option String :=
  match components path with
  | [] => some path
  | first :: rest =>
    if startOf path ≠ [] || !startsAtHome first then some path
    else if first = "~" && !startsAtHome home then some (home ++ "/" ++ "/".intercalate rest)
    else none

/-- The full name of a place, given that of the working directory. -/
def fullName (workingDirectory : String) : List String → String
  | [] => workingDirectory
  | c :: rest =>
    if c = rootName then rootName ++ "/".intercalate rest
    else workingDirectory ++ "/" ++ "/".intercalate (c :: rest)

end SymbolTags.File
