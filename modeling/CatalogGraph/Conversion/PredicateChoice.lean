import CatalogGraph.Marc.Record
import CatalogGraph.Mapping.Spec

/-!
# Choosing a predicate

A conditional predicate looks at the field at hand.  By subfield, it is the first subfield with a code
whose value is looked up, without full stops and hyphens and in lower case; by indicators, the first
indicator and then the second one.  Where nothing is found the fallback of the condition is taken.
-/

namespace CatalogGraph.Conversion

open CatalogGraph.Mapping CatalogGraph.Marc

/-- A value as a condition looks at it. -/
def conditionForm (s : String) : String :=
  String.ofList (Text.lowercaseAfter [] (s.toList.filter fun c => c != '.' && c != '-'))

/-- The value of the first subfield that a code names, unless that value is empty. -/
def siblingValue? (code : String) (f : DataField) : Option String :=
  ((f.subfields.find? fun s => codeMatches code s.code).map (·.value)).filter (· != "")

/-- What a table that may be missing finds. -/
def lookupIn (table : Option (Substitutions Term)) (input : String) : Outcome (Option Term) :=
  match table with
  | some t => t.lookup input
  | none => .ok none

/-- The term that a condition comes to for a field. -/
def chooseBy (c : Condition) (f : DataField) : Outcome Term :=
  match c with
  | .bySubfield code table fallback =>
    match siblingValue? code f with
    | some value => (table.lookup (conditionForm value)).map (·.getD fallback)
    | none => .ok fallback
  | .byIndicators first second fallback => do
    let found1 ← lookupIn first (String.singleton f.indicator1)
    let found2 ← lookupIn second (String.singleton f.indicator2)
    .ok ((found2.or found1).getD fallback)

/-- The term that a predicate comes to for a field. -/
def choosePredicate (p : Predicate) (f : DataField) : Outcome Term :=
  match p with
  | .fixed term => .ok term
  | .conditional c => chooseBy c f

end CatalogGraph.Conversion
