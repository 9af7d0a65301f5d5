import Placement.Toml.Reader
import Placement.Toml.Writer

/-!
# Placement.Toml.Library — the library of the command line

The command line reads and writes its settings file with the reader and the writer
of this directory. They know tables, arrays, strings, numbers and truth values; a file
with a date is refused by this reader.
-/

namespace Placement.Toml

/-- The reader and the writer of settings files. -/
def Library.standard : Library := ⟨Toml.read, Toml.write⟩

end Placement.Toml
