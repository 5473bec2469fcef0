import CatalogGraph.Fault
import CatalogGraph.OrderedMap
import CatalogGraph.Regex.Search

/-!
# Substitution tables

A pattern and a table of replacements.  The text is searched for all matches; the key of a match is the
text of its first group, or the whole match where that group took no part.  The last match decides the
result, but a key that the table lacks is a fault, wherever it comes.
-/

namespace CatalogGraph.Mapping

open CatalogGraph.Regex (Match matchesIn)

/-- A pattern and the replacements of the keys it finds. -/
structure Substitutions (α : Type) where
  pattern : Regex
  replacements : OrderedMap α

/-- The key that a match stands for. -/
def keyOf (text : List Char) (m : Match) : String :=
  match m.groups.head? with
  | some (some group) => group.text text
  | _ => m.span.text text

namespace Substitutions

variable {α : Type}

/-- The replacement of the last key, or `found` if there is no key; a key without replacement is a
fault. -/
def replaceKeys (t : Substitutions α) : List String → Option α → Outcome (Option α)
  | [], found => .ok found
  | key :: keys, _ =>
    match t.replacements.find? key with
    | some value => replaceKeys t keys (some value)
    | none => .error (Cause.missingSubstitution key)

/-- The keys of the matches in a text, from left to right. -/
def keysIn (t : Substitutions α) (input : String) : List String :=
  (matchesIn t.pattern input.toList).map (keyOf input.toList)

/-- The replacement for a text; nothing where the pattern does not match. -/
def lookup (t : Substitutions α) (input : String) : Outcome (Option α) :=
  t.replaceKeys (t.keysIn input) none

end Substitutions

end CatalogGraph.Mapping
