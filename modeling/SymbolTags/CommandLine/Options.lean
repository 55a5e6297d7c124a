namespace SymbolTags.CommandLine

/-!
# Options on a command line

`readArguments` tells options from plain arguments.  Options may stand anywhere; a value
follows its option as the next argument, behind an equals sign or, for a short option,
right behind its letter.  Everything behind two hyphens is a plain argument.

Values are only collected here, so that of an option that is given twice the last value
alone has to make sense.  Every command also takes an option that asks for help.
-/

/-- What an option does to what has been collected. -/
inductive Effect (σ : Type) where
  /-- The option takes a value. -/
  | value (apply : String → σ → σ)
  | switch (apply : σ → σ)

/-- The options of a command by name. -/
abbrev OptionTable (σ : Type) := List (String × Effect σ)

/-- The option that asks for help. -/
def helpOption : String := "--help"

/-- What stands on a command line. -/
structure Collected (σ : Type) where
  values : σ
  plain : List String := []
  /-- Help is asked for. -/
  help : Bool := false

/-- An argument that announces an option. -/
def isOption (arg : String) : Bool :=
  match arg.toList with
  | '-' :: _ :: _ => true
  | _ => false

/-- A long option has two hyphens. -/
def isLong (arg : String) : Bool :=
  match arg.toList with
  | '-' :: '-' :: _ => true
  | _ => false

/-- Divides an argument at its first equals sign. -/
def splitValue (arg : String) : String × Option String :=
  let cs := arg.toList
  let name := cs.takeWhile (· != '=')
  (String.ofList name,
    if name.length < cs.length then some (String.ofList (cs.drop (name.length + 1))) else none)

/-- Divides an argument behind the letter of a short option. -/
def splitShort (arg : String) : String × Option String :=
  let cs := arg.toList
  (String.ofList (cs.take 2), if 2 < cs.length then some (String.ofList (cs.drop 2)) else none)

/-- The name of an option and the value that is attached to it. -/
def splitOption (arg : String) : String × Option String :=
  if isLong arg then splitValue arg else splitShort arg

/-- Collects options and plain arguments; gives nothing when an option is unknown, lacks its
    value, or has a value that it does not take. -/
def readArguments {σ : Type} (table : OptionTable σ) : List String → σ → Option (Collected σ)
  | [], s => some { values := s }
  | arg :: rest, s =>
    if arg = "--" then some { values := s, plain := rest }
    else if arg = helpOption then
      (readArguments table rest s).map fun c => { c with help := true }
    else if isOption arg then
      let (name, attached) := splitOption arg
      match table.lookup name, attached with
      | none, _ => none
      | some (.switch apply), none => readArguments table rest (apply s)
      | some (.switch _), some _ => none
      | some (.value apply), some v => readArguments table rest (apply v s)
      | some (.value apply), none =>
        match rest with
        | [] => none
        | v :: rest => readArguments table rest (apply v s)
    else (readArguments table rest s).map fun c => { c with plain := arg :: c.plain }

end SymbolTags.CommandLine
