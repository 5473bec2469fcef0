/-!
# Faults

Everything that can go wrong between a mapping document and the statements about a record, as causes.
A fault may also name the rule that it was met in; a fault that already names one keeps it, so the
innermost rule is blamed.

Faults of the mapping (`Cause.isConfiguration`) end a whole run.  All others belong to one input.
-/

namespace CatalogGraph

/-- What is wrong with the structure of a mapping document. -/
inductive MappingDefect
  | ruleWithoutPredicate
  | entryWithoutPredicate (name : String)
  | relationWithoutClass
  | notOneConditionSubfield
  | conditionWithoutDefault
  | tableWithoutPattern
  | substringHalfGiven
  deriving DecidableEq, Repr

namespace MappingDefect

/-- The defect in words. -/
def message : MappingDefect → String
  | ruleWithoutPredicate => "rule has neither `predicate` nor `conditions`"
  | entryWithoutPredicate name => "control mapping `" ++ name ++ "` has no `predicate`"
  | relationWithoutClass => "relation has no `class`"
  | notOneConditionSubfield => "subfield condition must name exactly one subfield"
  | conditionWithoutDefault => "condition has no `default`"
  | tableWithoutPattern => "table has no `orig` pattern"
  | substringHalfGiven => "`substr_offset` and `substr_length` must be given together"

end MappingDefect

/-- What could not be read. -/
inductive Unreadable
  | record
  | collection
  /-- A document in which neither a record nor a collection was found. -/
  | noRecords
  | subfieldWithoutCode (tag : String)
  | yamlMapping
  | jsonMapping
  | formatName (name : String)
  deriving DecidableEq, Repr

namespace Unreadable

/-- What could not be read, in words. -/
def message : Unreadable → String
  | record => "Failed to parse MARCXML"
  | collection => "Failed to parse MARCXML collection"
  | noRecords => "MARCXML document has no <collection> or <record> element"
  | subfieldWithoutCode tag => "Missing subfield code in field " ++ tag
  | yamlMapping => "Failed to parse mapping YAML"
  | jsonMapping => "Failed to parse mapping JSON"
  | formatName name => "Unknown RDF format `" ++ name ++ "`"

end Unreadable

/-- The place of an IRI in a statement. -/
inductive Role
  | subject
  | predicate
  | object
  | datatype
  deriving DecidableEq, Repr

namespace Role

/-- The name of the place. -/
def name : Role → String
  | subject => "subject"
  | predicate => "predicate"
  | object => "object"
  | datatype => "datatype"

end Role

/-- Why a statement cannot be written. -/
inductive Unwritable
  | iri (role : Role) (text : String)
  | languageTag (tag : String)
  /-- A predicate whose name is reserved by the format. -/
  | reservedPredicate
  deriving DecidableEq, Repr

/-- What went wrong. -/
inductive Cause
  | invalidRegex (pattern : String)
  | missingSubstitution (key : String)
  | unknownVocabulary (label : String)
  | invalidTerm (text : String)
  | invalidMapping (defect : MappingDefect)
  | unreadable (what : Unreadable)
  | unwritable (why : Unwritable)
  /-- A file that is not there, or cannot be made. -/
  | file
  deriving DecidableEq, Repr

namespace Cause

/-- Whether the mapping is to blame, and not one of the inputs. -/
def isConfiguration : Cause → Bool
  | invalidRegex _ | missingSubstitution _ | unknownVocabulary _ | invalidTerm _
  | invalidMapping _ => true
  | unreadable _ | unwritable _ | file => false

/-- The name of the kind of fault. -/
def kind : Cause → String
  | invalidRegex _ => "InvalidRegex"
  | missingSubstitution _ => "MissingSubstitution"
  | unknownVocabulary _ => "UnknownPrefix"
  | invalidTerm _ => "InvalidTerm"
  | invalidMapping _ => "InvalidMapping"
  | unreadable _ => "ParseError"
  | unwritable _ => "Serialization"
  | file => "IoError"

/-- The fault in words. -/
def message : Cause → String
  | invalidRegex pattern => "Invalid regex `" ++ pattern ++ "`"
  | missingSubstitution key => "Substitution key `" ++ key ++ "` missing from mapping table"
  | unknownVocabulary label => "Unknown vocabulary prefix `" ++ label ++ "`"
  | invalidTerm text =>
    "Invalid term: `" ++ text ++ "` is neither PREFIX.localName nor an absolute IRI"
  | invalidMapping defect => "Invalid mapping: " ++ defect.message
  | unreadable what => "Parse error: " ++ what.message
  | unwritable (.iri role text) =>
    "Serialization error: Invalid " ++ role.name ++ " URI <" ++ text ++ ">"
  | unwritable (.languageTag tag) => "Serialization error: Invalid language tag `" ++ tag ++ "`"
  | unwritable .reservedPredicate => "Serialization error"
  | file => "IO error"

end Cause

/-- The rule that a fault was met in: a tag, and for a data field the code of the subfield. -/
structure RulePlace where
  tag : String
  subfield : Option String
  deriving DecidableEq, Repr

/-- A cause, and the rule it was met in once that is known. -/
structure Fault where
  cause : Cause
  place : Option RulePlace := none
  deriving DecidableEq, Repr

namespace Fault

/-- The fault met in a rule.  A fault that already names a rule keeps it. -/
def inRule (f : Fault) (tag : String) (subfield : Option String) : Fault :=
  match f.place with
  | some _ => f
  | none => { f with place := some ⟨tag, subfield⟩ }

/-- Whether the mapping is to blame, and not one of the inputs. -/
def isConfiguration (f : Fault) : Bool := f.cause.isConfiguration

/-- The fault in words, the rule first. -/
def message (f : Fault) : String :=
  match f.place with
  | none => f.cause.message
  | some ⟨tag, none⟩ => "Mapping for tag " ++ tag ++ ": " ++ f.cause.message
  | some ⟨tag, some code⟩ =>
    "Mapping for tag " ++ tag ++ " subfield " ++ code ++ ": " ++ f.cause.message

end Fault

instance : Coe Cause Fault := ⟨fun c => { cause := c }⟩

/-- The result of a step that may fail. -/
abbrev Outcome (α : Type) := Except Fault α

namespace Outcome

/-- The outcome with its fault, if there is one, met in a rule. -/
def inRule {α : Type} (o : Outcome α) (tag : String) (subfield : Option String) : Outcome α :=
  o.mapError (·.inRule tag subfield)

variable {α β : Type}

instance (o : Outcome α) : Decidable (∃ a, o = .ok a) :=
  match o with
  | .ok a => isTrue ⟨a, rfl⟩
  | .error _ => isFalse fun ⟨_, h⟩ => nomatch h

theorem bind_eq_ok_iff {o : Outcome α} {next : α → Outcome β} {b : β} :
    (o >>= next) = .ok b ↔ ∃ a, o = .ok a ∧ next a = .ok b := by
  cases o with
  | ok a => simp [bind, Except.bind]
  | error e => simp [bind, Except.bind]

/-- A check before another step. -/
theorem check_bind_eq_ok_iff {check : Outcome Unit} {next : Outcome β} {b : β} :
    (check >>= fun _ => next) = .ok b ↔ check = .ok () ∧ next = .ok b := by
  cases check with
  | ok a => simp [bind, Except.bind]
  | error e => simp [bind, Except.bind]

/-- The fault of two steps is that of the first or, when it has a value, that of the second. -/
theorem bind_eq_error_iff {o : Outcome α} {next : α → Outcome β} {e : Fault} :
    (o >>= next) = .error e ↔ o = .error e ∨ ∃ a, o = .ok a ∧ next a = .error e := by
  cases o with
  | ok a => simp [bind, Except.bind]
  | error e' => simp [bind, Except.bind]

@[simp] theorem inRule_ok (a : α) (tag : String) (subfield : Option String) :
    inRule (.ok a) tag subfield = .ok a := rfl

@[simp] theorem inRule_error (e : Fault) (tag : String) (subfield : Option String) :
    inRule (.error e : Outcome α) tag subfield = .error (e.inRule tag subfield) := rfl

theorem inRule_eq_ok_iff {o : Outcome α} {tag : String} {subfield : Option String} {a : α} :
    o.inRule tag subfield = .ok a ↔ o = .ok a := by
  cases o with
  | ok b => rw [inRule_ok]
  | error e => simp

theorem map_eq_ok_iff {o : Outcome α} {f : α → β} {b : β} :
    o.map f = .ok b ↔ ∃ a, o = .ok a ∧ f a = b := by
  cases o with
  | ok a => simp [Except.map]
  | error e => simp [Except.map]

theorem map_eq_error_iff {o : Outcome α} {f : α → β} {e : Fault} :
    o.map f = .error e ↔ o = .error e := by
  cases o with
  | ok a => simp [Except.map]
  | error e' => simp [Except.map]

end Outcome

end CatalogGraph
