import SymbolTags.Classifier.Session
import SymbolTags.Config.Session
import SymbolTags.Main
import SymbolTags.Proofs.Anchor
import SymbolTags.Proofs.OwnModule
import SymbolTags.Proofs.Building
import SymbolTags.Proofs.Statements
import SymbolTags.Proofs.Ways
import SymbolTags.Proofs.Precedence
import SymbolTags.Proofs.Endings
import SymbolTags.Proofs.Refusal
import SymbolTags.Proofs.StoredLevel
import SymbolTags.Proofs.FileByFile
import SymbolTags.Proofs.QuotedLine
import SymbolTags.Proofs.Renaming
import SymbolTags.Proofs.Emitting
import SymbolTags.Proofs.TrimmedText
import SymbolTags.Proofs.LowerCase
import SymbolTags.Proofs.StoredTexts
import SymbolTags.Proofs.Assignments
import SymbolTags.Proofs.EncodedText
import SymbolTags.Proofs.WrittenFile
import SymbolTags.Proofs.WrittenText
import SymbolTags.Proofs.WrittenLine
import SymbolTags.Proofs.ReadBack
import SymbolTags.Proofs.LoopScope
import SymbolTags.Proofs.RenderedText
import SymbolTags.Proofs.SourceOrder
import SymbolTags.Proofs.Shift
import SymbolTags.Proofs.NearestAncestor
import SymbolTags.Proofs.FirstLine
import SymbolTags.Proofs.ToleratedErrors
import SymbolTags.Proofs.Setup
import SymbolTags.Proofs.Addresses
import SymbolTags.Proofs.KeyPath
import SymbolTags.Proofs.Specifier
