namespace SymbolTags

/-!
# Settings of the tagger

`Settings` holds the switches that steer reading, parsing and classification, with their
defaults.
-/

/-- The switches of the tagger. -/
structure Settings where
  /-- Report errors that the parser tolerated as warnings. -/
  verbose : Bool := false
  /-- Treat a variable that binds a module under its own name as a reference. -/
  requirePolicy : Bool := true
  /-- Try the module grammar when the script grammar fails. -/
  moduleRetry : Bool := true
  /-- Accept JSX while parsing. -/
  jsx : Bool := false
  /-- Blank out a leading `#!` line of a file. -/
  stripShebang : Bool := true
  /-- The encoding of source files. -/
  encoding : String := "utf-8"
deriving DecidableEq, Repr, Inhabited

end SymbolTags
