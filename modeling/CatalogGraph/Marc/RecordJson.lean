import CatalogGraph.Json.Reader
import CatalogGraph.Marc.Record

/-!
# Records as JSON

A record is an object whose member `fields` gives the list of fields of every tag.  A field is an object
with one member, `Control` or `Data`, that names its kind.  Where a record, a field or a subfield is
read, members with other names do not count, no member that does count may be repeated, and an array with
the values of the members in order is as good as the object.  A tag may be repeated: the last list of
fields stays, at the place of the first.
-/

namespace CatalogGraph.Marc

/-! ## Writing -/

/-- A character as a string of one character. -/
def charJson (c : Char) : Json := .string (String.singleton c)

/-- A subfield as JSON. -/
def Subfield.toJson (s : Subfield) : Json :=
  .object [("code", charJson s.code), ("value", .string s.value)]

/-- A field as JSON. -/
def Field.toJson : Field → Json
  | .control f => .object [("Control", .object [("tag", .string f.tag), ("value", .string f.value)])]
  | .data f =>
    .object [("Data", .object [("tag", .string f.tag), ("indicator1", charJson f.indicator1),
      ("indicator2", charJson f.indicator2), ("subfields", .array (f.subfields.map Subfield.toJson))])]

/-- A record as JSON. -/
def Record.toJson (r : Record) : Json :=
  .object [("fields",
    .object (r.groups.entries.map fun e => (e.1, .array (e.2.map Field.toJson))))]

/-! ## Reading -/

/-- The values of the members with some names, each of which must be there once; or the items of an
array of as many values. -/
def membersOf? (names : List String) : Json → Option (List Json)
  | .object members => names.mapM fun name =>
    match Json.valuesOf name members with
    | [value] => some value
    | _ => none
  | .array items => if items.length = names.length then some items else none
  | _ => none

/-- The character of a string of one character. -/
def charOf? (j : Json) : Option Char := do
  match (← j.string?).toList with
  | [c] => some c
  | _ => none

/-- Reads a subfield. -/
def Subfield.ofJson? (j : Json) : Option Subfield := do
  match ← membersOf? ["code", "value"] j with
  | [code, value] => some ⟨← charOf? code, ← value.string?⟩
  | _ => none

/-- Reads a control field. -/
def ControlField.ofJson? (j : Json) : Option ControlField := do
  match ← membersOf? ["tag", "value"] j with
  | [tag, value] => some ⟨← tag.string?, ← value.string?⟩
  | _ => none

/-- Reads a data field. -/
def DataField.ofJson? (j : Json) : Option DataField := do
  match ← membersOf? ["tag", "indicator1", "indicator2", "subfields"] j with
  | [tag, i1, i2, subfields] =>
    some ⟨← tag.string?, ← charOf? i1, ← charOf? i2, ← (← subfields.items?).mapM Subfield.ofJson?⟩
  | _ => none

/-- Reads a field. -/
def Field.ofJson? : Json → Option Field
  | .object [("Control", value)] => (ControlField.ofJson? value).map .control
  | .object [("Data", value)] => (DataField.ofJson? value).map .data
  | _ => none

/-- Reads the list of fields of a tag. -/
def fieldsOf? (j : Json) : Option (List Field) := do
  (← j.items?).mapM Field.ofJson?

/-- Reads a record. -/
def Record.ofJson? (j : Json) : Option Record := do
  match ← membersOf? ["fields"] j with
  | [groups] =>
    let entries ← (← groups.members?).mapM fun m => do some (m.1, ← fieldsOf? m.2)
    some ⟨.ofList entries⟩
  | _ => none

/-- The text of a record as JSON. -/
def Record.toText (r : Record) : String := r.toJson.render

/-- Reads a record from text. -/
def Record.ofText? (text : String) : Option Record :=
  (Json.read? text).bind Record.ofJson?

end CatalogGraph.Marc
