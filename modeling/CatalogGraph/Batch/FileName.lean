import CatalogGraph.Mapping.DocumentText
import CatalogGraph.Marc.Record
import CatalogGraph.Rdf.Format
import CatalogGraph.Text.White

/-!
# File names

What the names of files tell, and the names that files for records get.  A record's file is named after
its identifier, so that it lies in the folder that was given and nowhere else: slashes of both kinds in
an identifier become underscores.
-/

namespace CatalogGraph.Batch

/-- The parts of a path between its slashes. -/
def pathParts (path : String) : List String := (path.toList.splitOn '/').map String.ofList

/-- The name of the file that a path leads to. -/
def fileName? (path : String) : Option String :=
  match ((pathParts path).filter fun part => part != "" && part != ".").getLast? with
  | some ".." => none
  | name => name

/-- What a name has after its last full stop.  A full stop at the start of the name does not count. -/
def extensionChars? (name : List Char) : Option (List Char) :=
  let extension := (name.reverse.takeWhile (· != '.')).reverse
  let stem := name.take (name.length - extension.length - 1)
  if extension.length < name.length && !stem.isEmpty then some extension else none

/-- The extension of a file name. -/
def extension? (name : String) : Option String := (extensionChars? name.toList).map String.ofList

/-- The form of the mapping document in a file: JSON with that extension, in capitals or not, and
otherwise YAML. -/
def documentForm (path : String) : Mapping.DocumentForm :=
  match (fileName? path).bind extension? with
  | some extension => if Text.lowercaseAscii extension = "json" then .json else .yaml
  | none => .yaml

/-- The extension of files with records. -/
def recordExtension : String := "marcxml"

/-- Whether a file in a folder holds records, by its name. -/
def holdsRecords (name : String) : Bool := extension? name == some recordExtension

/-- The path of a file in a folder.  A slash is put before the name unless the folder ends with one or is
the empty path.  A name that starts with a slash is a path from the root and leads out of the folder. -/
def inFolder (folder name : String) : String :=
  if name.toList.head? = some '/' then name
  else if folder.toList.getLast?.all (· == '/') then folder ++ name
  else folder ++ "/" ++ name

/-- The name that stands for records without an identifier. -/
def unidentified : String := "unidentified"

/-- An identifier as a part of a file name. -/
def safeName (identifier : String) : String :=
  identifier.map fun c => if c == '/' || c == '\\' then '_' else c

/-- The identifier of a record without white space around it, if anything is left. -/
def identifier? (r : Marc.Record) : Option String :=
  match r.controlNumber?.map Text.trim with
  | some "" => none
  | identifier => identifier

/-- The name of the file for a record. -/
def recordFileName (r : Marc.Record) (format : Rdf.Format) : String :=
  safeName ((identifier? r).getD unidentified) ++ "." ++ format.extension

/-- The path of the file for a record. -/
def outputPath (folder : String) (r : Marc.Record) (format : Rdf.Format) : String :=
  inFolder folder (recordFileName r format)

end CatalogGraph.Batch
