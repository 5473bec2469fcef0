import CatalogGraph.Unicode.AgeRows
import CatalogGraph.Unicode.BreakRows
import CatalogGraph.Unicode.CategoryRows
import CatalogGraph.Unicode.PropertyRows
import CatalogGraph.Unicode.ScriptRows

/-!
# Character properties

A property of characters is asked for by name, alone (`Lu`, `Greek`, `Alphabetic`) or with a value
(`sc=Greek`).  Case, blanks, hyphens and underscores do not count in a name, and neither does a
leading `is`.  The answer is a `PropertySet`, or nothing when no such property exists.
-/

namespace CatalogGraph.Unicode

/-- The characters that lie in one of some tables or, with `outside`, in none of them. -/
structure PropertySet where
  tables : List CodeTable
  outside : Bool := false

namespace PropertySet

/-- Whether `c` has the property. -/
def contains (s : PropertySet) (c : Char) : Bool :=
  xor s.outside (s.tables.any (·.contains c))

/-- The property of every character. -/
def every : PropertySet := ⟨[], true⟩

/-- How many intervals the tables come to when neighbours are joined. -/
def intervalCount (s : PropertySet) : Nat :=
  (s.tables.map fun table =>
    (table.intervals.filter fun i =>
      i.1 == 0 || !s.tables.any (·.contains (Char.ofNat (i.1 - 1)))).size).foldl (· + ·) 0

end PropertySet

/-- A property name without what does not count in it. -/
def looseName (name : String) : String :=
  let cs := name.toList.map Char.toLower
  let isc := cs = ['i', 's', 'c']
  let rest := match cs with
    | 'i' :: 's' :: r => r
    | r => r
  let kept := rest.filter fun c => c != ' ' && c != '_' && c != '-' && c.toNat ≤ 0x7F
  if isc then "isc" else String.ofList kept

/-- Names of each general category and of each union of some; the second part lists the two-letter
names of the categories in it. -/
def categoryNames : List (String × List String) := [
  ("lu uppercaseletter", ["Lu"]), ("ll lowercaseletter", ["Ll"]), ("lt titlecaseletter", ["Lt"]),
  ("lc casedletter", ["Lu", "Ll", "Lt"]), ("lm modifierletter", ["Lm"]), ("lo otherletter", ["Lo"]),
  ("l letter", ["Lu", "Ll", "Lt", "Lm", "Lo"]),
  ("mn nonspacingmark", ["Mn"]), ("mc spacingmark", ["Mc"]), ("me enclosingmark", ["Me"]),
  ("m mark combiningmark", ["Mn", "Mc", "Me"]),
  ("nd decimalnumber digit", ["Nd"]), ("nl letternumber", ["Nl"]), ("no othernumber", ["No"]),
  ("n number", ["Nd", "Nl", "No"]),
  ("pc connectorpunctuation", ["Pc"]), ("pd dashpunctuation", ["Pd"]),
  ("ps openpunctuation", ["Ps"]), ("pe closepunctuation", ["Pe"]),
  ("pi initialpunctuation", ["Pi"]), ("pf finalpunctuation", ["Pf"]),
  ("po otherpunctuation", ["Po"]),
  ("p punctuation punct", ["Pc", "Pd", "Ps", "Pe", "Pi", "Pf", "Po"]),
  ("sm mathsymbol", ["Sm"]), ("sc currencysymbol", ["Sc"]), ("sk modifiersymbol", ["Sk"]),
  ("so othersymbol", ["So"]), ("s symbol", ["Sm", "Sc", "Sk", "So"]),
  ("zs spaceseparator", ["Zs"]), ("zl lineseparator", ["Zl"]), ("zp paragraphseparator", ["Zp"]),
  ("z separator", ["Zs", "Zl", "Zp"]),
  ("cc control cntrl", ["Cc"]), ("cf format", ["Cf"]), ("co privateuse", ["Co"])]

/-- The table of one assigned general category, by its two-letter name. -/
def categoryTable (name : String) : CodeTable :=
  match rowOf? categoryRows name with
  | some text => CodeTable.ofText text
  | none => ⟨#[]⟩

/-- The characters of a general category. -/
def category? (name : String) : Option PropertySet :=
  let all := categoryRows.map (CodeTable.ofText ∘ Prod.snd)
  match name with
  | "any" => some .every
  | "ascii" => some ⟨[⟨#[(0, 0x7F)]⟩], false⟩
  | "assigned" => some ⟨all, false⟩
  | "cn" | "unassigned" => some ⟨all, true⟩
  | "c" | "other" =>
    some ⟨(categoryRows.filter fun row => row.1.toList.head? != some 'C').map
      (CodeTable.ofText ∘ Prod.snd), true⟩
  | _ =>
    (categoryNames.find? fun row => (row.1.splitOn " ").contains name).map fun row =>
      ⟨row.2.map categoryTable, false⟩

/-- The characters of the row that has this name. -/
def rowSet? (rows : List (String × String)) (name : String) : Option PropertySet :=
  (rowOf? rows name).map fun text => ⟨[CodeTable.ofText text], false⟩

/-- The characters of a script. -/
def script? (name : String) : Option PropertySet :=
  rowSet? scriptRows name

/-- The characters that texts in a script use. -/
def scriptExtension? (name : String) : Option PropertySet :=
  (rowSet? scriptExtensionRows name).or (script? name)

/-- The characters that were assigned in a version of the standard or before it. -/
def age? (name : String) : Option PropertySet :=
  match ageRows.findIdx? (fun row => (row.1.splitOn " ").contains name) with
  | some i => some ⟨(ageRows.take (i + 1)).map (CodeTable.ofText ∘ Prod.snd), false⟩
  | none => none

/-- The characters with a property that is given by name alone: a binary property, else a general
category, else a script.  The names `cf`, `sc` and `lc` are general categories. -/
def property? (name : String) : Option PropertySet :=
  let name := looseName name
  ((rowSet? propertyRows name).or (category? name)).or (script? name)

/-- The characters for which a property has a value. -/
def propertyValue? (property value : String) : Option PropertySet :=
  let value := looseName value
  match looseName property with
  | "gc" | "generalcategory" => category? value
  | "sc" | "script" => script? value
  | "scx" | "scriptextensions" => scriptExtension? value
  | "age" => age? value
  | "gcb" | "graphemeclusterbreak" => rowSet? graphemeBreakRows value
  | "wb" | "wordbreak" => rowSet? wordBreakRows value
  | "sb" | "sentencebreak" => rowSet? sentenceBreakRows value
  | _ => none

/-- The table of a binary property, by a name that is in its row. -/
def binaryTable (name : String) : CodeTable :=
  match rowOf? propertyRows name with
  | some text => CodeTable.ofText text
  | none => ⟨#[]⟩

/-- Letters and what counts as a letter. -/
def alphabetic : CodeTable := binaryTable "alphabetic"

/-- Letters that have case. -/
def casedTable : CodeTable := binaryTable "cased"

/-- Characters that are passed over where the case of a neighbour is asked for. -/
def caseIgnorableTable : CodeTable := binaryTable "caseignorable"

/-- The decimal digits of all scripts. -/
def decimalDigits : CodeTable := categoryTable "Nd"

/-- The combining marks, by their general category. -/
def markTables : List CodeTable := ["Mn", "Mc", "Me"].map categoryTable

/-- The numeric characters, by their general category. -/
def numberTables : List CodeTable := ["Nd", "Nl", "No"].map categoryTable

/-- The tables of which the word characters are the union. -/
def wordTables : List CodeTable :=
  [alphabetic, decimalDigits, categoryTable "Pc", binaryTable "joincontrol"] ++ markTables

/-- Letters, ASCII ones or others. -/
def isAlphabetic (c : Char) : Bool :=
  if c.toNat < 0x80 then c.isAlpha else alphabetic.contains c

/-- Letters and numeric characters. -/
def isAlphanumeric (c : Char) : Bool :=
  if c.toNat < 0x80 then c.isAlphanum
  else alphabetic.contains c || numberTables.any (·.contains c)

/-- Combining marks: the characters whose general category is a mark. -/
def isMark (c : Char) : Bool :=
  if c.toNat < 0x80 then false else markTables.any (·.contains c)

/-- Word characters: letters, marks, digits, connectors such as `_`, and the two joiners. -/
def isWord (c : Char) : Bool :=
  if c.toNat < 0x80 then c.isAlphanum || c == '_' else wordTables.any (·.contains c)

/-- Decimal digits of any script. -/
def isDecimalDigit (c : Char) : Bool :=
  if c.toNat < 0x80 then c.isDigit else decimalDigits.contains c

/-- Letters that have case. -/
def isCased (c : Char) : Bool :=
  if c.toNat < 0x80 then c.isAlpha else casedTable.contains c

/-- Characters that are passed over where the case of a neighbour is asked for. -/
def isCaseIgnorable (c : Char) : Bool :=
  if c.toNat < 0x80 then
    c == '\x27' || c == '.' || c == ':' || c == '^' || c == '\x60'
  else caseIgnorableTable.contains c

end CatalogGraph.Unicode
