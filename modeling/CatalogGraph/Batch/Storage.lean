import CatalogGraph.Batch.FileName
import CatalogGraph.Conversion.Converter
import CatalogGraph.Mapping.Compilation
import CatalogGraph.Marc.MarcXml

/-!
# Storage

What the command needs of a file system, so that the same work can be done on files of a machine and on
a tree of files that is only thought of.  Every operation may fail.
-/

namespace CatalogGraph.Batch

open CatalogGraph.Conversion CatalogGraph.Mapping CatalogGraph.Marc

/-- A place where files are kept, under paths. -/
structure Storage (m : Type → Type) where
  /-- The text of a file. -/
  readFile? : String → m (Option String)
  /-- The names of what is in a folder. -/
  namesIn? : String → m (Option (List String))
  /-- Makes a folder and the folders around it, as far as they are not there. -/
  makeFolder : String → m Bool
  /-- Gives a file a text, whatever was in it. -/
  writeFile : String → String → m Bool

namespace Storage

variable {m : Type → Type} [Monad m]

/-- The text of a file, or a fault. -/
def textOf (s : Storage m) (path : String) : m (Outcome String) := do
  match ← s.readFile? path with
  | some text => pure (.ok text)
  | none => pure (.error Cause.file)

/-- The converter for the mapping document of a text. -/
def converterOf (form : DocumentForm) (text : String) (base : Vocabulary) (settings : Settings) :
    Outcome Converter := do
  let document ← Document.read form text
  let vocabulary := document.vocabulary base
  let mapping ← document.compile vocabulary
  Converter.create mapping vocabulary settings

/-- The converter for a file with a mapping document. -/
def loadConverter (s : Storage m) (path : String) (base : Vocabulary) (settings : Settings) :
    m (Outcome Converter) := do
  let text ← s.textOf path
  pure (text >>= fun text => converterOf (documentForm path) text base settings)

/-- The records of a file. -/
def loadRecords (s : Storage m) (path : String) : m (Outcome (List Record)) := do
  let text ← s.textOf path
  pure (text >>= readXml)

end Storage

end CatalogGraph.Batch
