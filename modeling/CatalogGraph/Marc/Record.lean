import CatalogGraph.OrderedMap

/-!
# Records

A record holds its fields by tag, in the order in which the tags first appear; the fields of one tag
keep their order.  A control field has one value.  A data field has two indicators and subfields whose
codes may repeat.
-/

namespace CatalogGraph.Marc

/-- A coded part of a data field. -/
@[ext]
structure Subfield where
  code : Char
  value : String
  deriving DecidableEq, Repr

/-- A field with a single value. -/
structure ControlField where
  tag : String
  value : String
  deriving DecidableEq, Repr

/-- A field with two indicators and subfields. -/
structure DataField where
  tag : String
  indicator1 : Char
  indicator2 : Char
  subfields : List Subfield
  deriving DecidableEq, Repr

namespace DataField

/-- The subfields with a code. -/
def withCode (f : DataField) (code : Char) : List Subfield :=
  f.subfields.filter (·.code == code)

/-- The values of the subfields with a code. -/
def valuesOf (f : DataField) (code : Char) : List String :=
  (f.withCode code).map (·.value)

/-- The value of the first subfield with a code. -/
def firstValue? (f : DataField) (code : Char) : Option String :=
  (f.valuesOf code).head?

/-- All subfield values, with a blank between them. -/
def value (f : DataField) : String :=
  " ".intercalate (f.subfields.map (·.value))

end DataField

/-- A field of a record. -/
inductive Field
  | control (f : ControlField)
  | data (f : DataField)
  deriving DecidableEq, Repr

namespace Field

/-- The tag of the field. -/
def tag : Field → String
  | control f => f.tag
  | data f => f.tag

/-- The value of the field as one text. -/
def value : Field → String
  | control f => f.value
  | data f => f.value

/-- The field, if it is a control field. -/
def control? : Field → Option ControlField
  | control f => some f
  | data _ => none

/-- The field, if it is a data field. -/
def data? : Field → Option DataField
  | control _ => none
  | data f => some f

/-- The value, if it is a control field. -/
def controlValue? : Field → Option String
  | control f => some f.value
  | data _ => none

end Field

/-- A bibliographic record. -/
structure Record where
  groups : OrderedMap (List Field)
  deriving DecidableEq

namespace Record

/-- The record without fields. -/
def empty : Record := ⟨.empty⟩

instance : Inhabited Record := ⟨empty⟩

/-- The record with one more field, after the other fields of its tag. -/
def add (r : Record) (f : Field) : Record :=
  ⟨r.groups.alter f.tag fun fields => fields.getD [] ++ [f]⟩

/-- The record of a list of fields. -/
def ofFields (fields : List Field) : Record :=
  fields.foldl add empty

/-- The tags, in the order in which they first appear. -/
def tags (r : Record) : List String := r.groups.keys

/-- The fields with a tag. -/
def fieldsOf (r : Record) (tag : String) : List Field :=
  (r.groups.find? tag).getD []

/-- All fields, tag by tag. -/
def fields (r : Record) : List Field := r.groups.values.flatten

/-- The value of the first control field with a tag. -/
def controlValue? (r : Record) (tag : String) : Option String :=
  (r.fieldsOf tag).findSome? Field.controlValue?

/-- The identifier of the record: the first control field 001, or else the first control field. -/
def controlNumber? (r : Record) : Option String :=
  (r.controlValue? "001").or (r.fields.findSome? Field.controlValue?)

/-- The number of fields. -/
def size (r : Record) : Nat := r.fields.length

/-- Whether the record has no tag at all. -/
def isEmpty (r : Record) : Bool := r.groups.entries.isEmpty

end Record

end CatalogGraph.Marc
