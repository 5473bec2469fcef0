import CatalogGraph.Conversion.Slug
import CatalogGraph.Digest.Md5
import CatalogGraph.Marc.Record

/-!
# From values to objects

A field value becomes any number of object texts: an extraction takes candidates from it, and then each
stage that is set rewrites every candidate on its own.  Blank candidates are dropped after every stage.
Only the substitution can fail, when a key is not in its table.
-/

namespace CatalogGraph.Conversion

open CatalogGraph.Text CatalogGraph.Mapping CatalogGraph.Marc
open CatalogGraph.Regex (Match matchesIn Span)

/-! ## Extraction -/

/-- The texts of the groups that took part in a match. -/
def groupTexts (text : List Char) (m : Match) : List String :=
  m.groups.filterMap fun g => g.map (·.text text)

/-- The text from `position` on, split at some matches; the groups of each match stand between the
pieces. -/
def splitAt (text : List Char) : Nat → List Match → List String
  | position, [] => [String.ofList (text.drop position)]
  | position, m :: ms =>
    (Span.mk position m.span.start).text text :: groupTexts text m ++ splitAt text m.span.stop ms

/-- The sum of two numbers, as far as a word of 64 bits can hold it; a larger sum counts as the largest word. -/
def saturatingSum (m n : Nat) : Nat :=
  min (m + n) (UInt64.size - 1)

/-- The candidates that an extraction takes from a value. -/
def extract (value : String) : Extraction → List String
  | .substring offset length =>
    if saturatingSum offset length ≤ value.length then
      [String.ofList ((value.toList.drop offset).take length)]
    else []
  | .split pattern => splitAt value.toList 0 (matchesIn pattern value.toList)
  | .search pattern =>
    (matchesIn pattern value.toList).flatMap fun m =>
      if pattern.groupCount ≤ 1 then [m.span.text value.toList] else groupTexts value.toList m
  | .whole => [value]

/-! ## Stages -/

/-- One stage after the extraction. -/
inductive Stage
  | substitute (r : Replacement)
  | combine (c : Combine)
  | strip (pattern : Regex)
  | slug (o : SlugOptions)
  | digest
  | lowercase

/-- Characters that a substitution looks at: ASCII letters, digits and underscores. -/
def isKeyChar (c : Char) : Bool :=
  c.isAlphanum || c == '_'

/-- A text as a substitution looks at it: without anything but key characters, in lower case. -/
def keyForm (s : String) : String :=
  String.ofList (lowercaseAfter [] (s.toList.filter isKeyChar))

/-- The replacement of a text; where the pattern does not match, the fallback or the key form. -/
def replace (r : Replacement) (s : String) : Outcome String :=
  (r.table.lookup (keyForm s)).map fun found => found.getD (r.fallback.getD (keyForm s))

/-- The values of the subfields that are combined, in the order of the field. -/
def combined (field : Option DataField) (c : Combine) : String :=
  match field with
  | some f =>
    c.separator.intercalate ((f.subfields.filter fun s => c.includes s.code).map (·.value))
  | none => ""

namespace Stage

/-- What a stage makes of one candidate. -/
def apply (field : Option DataField) (stage : Stage) (s : String) : Outcome String :=
  match stage with
  | substitute r => replace r s
  | combine c => .ok (combined field c)
  | strip pattern => .ok (Regex.remove pattern s)
  | slug o => .ok (Conversion.slug o s)
  | digest => .ok (Digest.Md5.hex s)
  | lowercase => .ok (Text.lowercase s)

/-- What a stage makes of all candidates, up to the first fault; blank ones are dropped. -/
def applyAll (field : Option DataField) (stage : Stage) : List String → Outcome (List String)
  | [] => .ok []
  | s :: rest => do
    let t ← stage.apply field s
    let ts ← applyAll field stage rest
    .ok (if isBlank t then ts else t :: ts)

end Stage

/-- Applies stages one after the other. -/
def runStages (field : Option DataField) : List Stage → List String → Outcome (List String)
  | [], objects => .ok objects
  | stage :: stages, objects => do
    let objects ← stage.applyAll field objects
    runStages field stages objects

/-- The stages that a pipeline sets, in their fixed order. -/
def stagesOf (p : Pipeline) : List Stage :=
  (p.substitute.map Stage.substitute).toList ++ (p.combine.map Stage.combine).toList ++
  (p.strip.map Stage.strip).toList ++ (p.slug.map Stage.slug).toList ++
  (if p.digest then [.digest] else []) ++ (if p.lowercase then [.lowercase] else [])

/-- The object texts that a value becomes.  `field` is the data field that the value is from. -/
def generate (value : String) (field : Option DataField) (p : Pipeline) :
    Outcome (List String) :=
  runStages field (stagesOf p) ((extract value p.extraction).filter fun s => !isBlank s)

end CatalogGraph.Conversion
