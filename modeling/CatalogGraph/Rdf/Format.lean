import CatalogGraph.Fault
import CatalogGraph.Text.Lowercase

/-!
# Formats for statements

The four formats in which statements can be written, with the names they are known by.  The case of
ASCII letters in a name does not count.
-/

namespace CatalogGraph.Rdf

/-- A format for statements. -/
inductive Format
  | rdfXml
  | jsonLd
  | turtle
  | nTriples
  deriving DecidableEq, Repr

namespace Format

/-- The name of the format. -/
def name : Format → String
  | rdfXml => "RDF/XML"
  | jsonLd => "JSON-LD"
  | turtle => "Turtle"
  | nTriples => "N-Triples"

/-- The extension of files in the format, without the full stop. -/
def extension : Format → String
  | rdfXml => "rdf"
  | jsonLd => "jsonld"
  | turtle => "ttl"
  | nTriples => "nt"

/-- The format that a name in lower case stands for. -/
def ofLowerName? : String → Option Format
  | "rdfxml" | "rdf/xml" | "xml" | "rdf" => some rdfXml
  | "jsonld" | "json-ld" => some jsonLd
  | "turtle" | "ttl" => some turtle
  | "ntriples" | "n-triples" | "nt" => some nTriples
  | _ => none

/-- The format that a name stands for. -/
def ofName (s : String) : Outcome Format :=
  match ofLowerName? (Text.lowercaseAscii s) with
  | some format => .ok format
  | none => .error (Cause.unreadable (.formatName (Text.lowercaseAscii s)))

end Format

end CatalogGraph.Rdf
