/-!
# Written XML

How an element is put into text.  The five characters that markup is made of are written as references, so
what a reader takes for markup is markup.  A label may stand before the name in both tags.
-/

namespace CatalogGraph.Xml

/-- A character in text or in the value of an attribute. -/
def escapeChar : Char → List Char
  | '&' => "&amp;".toList
  | '<' => "&lt;".toList
  | '>' => "&gt;".toList
  | '"' => "&quot;".toList
  | '\x27' => "&apos;".toList
  | c => [c]

/-- Characters in text or in the value of an attribute. -/
def escape (cs : List Char) : List Char := cs.flatMap escapeChar

/-- Whether a name is made of letters and digits. -/
def isPlainName (name : String) : Bool :=
  !name.toList.isEmpty && name.toList.all Char.isAlphanum

theorem isPlainName_iff {name : String} :
    isPlainName name = true ↔ name.toList ≠ [] ∧ ∀ c ∈ name.toList, c.isAlphanum = true := by
  simp [isPlainName]

/-- An attribute, with the blank before it. -/
def attrText (attr : String × String) : List Char :=
  ' ' :: (attr.1.toList ++ '=' :: '"' :: (escape attr.2.toList ++ ['"']))

/-- A start tag. -/
def startTag (label : List Char) (name : String) (attrs : List (String × String)) : List Char :=
  '<' :: (label ++ (name.toList ++ (attrs.flatMap attrText ++ ['>'])))

/-- An end tag. -/
def endTag (label : List Char) (name : String) : List Char :=
  '<' :: '/' :: (label ++ (name.toList ++ ['>']))

/-- An element with its content. -/
def elementText (label : List Char) (name : String) (attrs : List (String × String))
    (content : List Char) : List Char :=
  startTag label name attrs ++ (content ++ endTag label name)

end CatalogGraph.Xml
