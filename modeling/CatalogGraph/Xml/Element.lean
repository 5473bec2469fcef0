import CatalogGraph.Xml.Entity
import CatalogGraph.Xml.Markup

/-!
# Elements

The tree of elements of a document.  Text that is broken only by comments, instructions or character
data sections is one piece of text: blanks at its two ends are dropped where they are written as such,
and then references are resolved.  Text that is blank throughout is left out.  What is after the root
element is not read.
-/

namespace CatalogGraph.Xml

/-- A part of the content of an element. -/
inductive Node
  /-- Text, unless a reference in it cannot be resolved. -/
  | text (content : Option String)
  /-- An element: its name, its attributes as they are written, and its content. -/
  | element (name attrs : List Char) (content : List Node)

/-! ## Text -/

/-- A part of a text: written as such, or in a character data section. -/
inductive Part
  | written (raw : List Char)
  | section (content : List Char)
  deriving DecidableEq, Repr

namespace Part

/-- Whether nothing but blanks is written. -/
def isBlank : Part → Bool
  | written raw => raw.all isBlankChar
  | «section» _ => false

/-- The part at the start of a text. -/
def trimStart : Part → Part
  | written raw => written (raw.dropWhile isBlankChar)
  | «section» content => «section» content

/-- The part at the end of a text. -/
def trimEnd : Part → Part
  | written raw => written (Text.dropEndWhile isBlankChar raw)
  | «section» content => «section» content

/-- The characters of a part. -/
def chars? : Part → Option (List Char)
  | written raw => resolve? raw
  | «section» content => some content

end Part

/-- The last part of a text without the blanks at its end. -/
def trimLast : List Part → List Part
  | [] => []
  | [p] => [p.trimEnd]
  | p :: rest => p :: trimLast rest

/-- The text that parts make, if there is any. -/
def textOf (parts : List Part) : List Node :=
  match parts.dropWhile Part.isBlank with
  | [] => []
  | p :: rest =>
    let content := (trimLast (p.trimStart :: rest)).mapM Part.chars?
    [.text (content.map fun cs => String.ofList cs.flatten)]

/-! ## The tree -/

/-- An element that is open.  Its content and the parts of the text that is being read are in reverse
order. -/
structure OpenElement where
  name : List Char
  attrs : List Char
  content : List Node
  parts : List Part

namespace OpenElement

/-- The text that was being read is complete. -/
def flush (e : OpenElement) : OpenElement :=
  { e with content := textOf e.parts.reverse ++ e.content, parts := [] }

/-- The text goes on. -/
def addPart (e : OpenElement) (p : Part) : OpenElement := { e with parts := p :: e.parts }

/-- The element, closed. -/
def close (e : OpenElement) : Node := .element e.name e.attrs e.flush.content.reverse

/-- The element has one more part of its content. -/
def addNode (e : OpenElement) (node : Node) : OpenElement := { e with content := node :: e.content }

end OpenElement

/-- The root element, from markup inside the open element `current`, which is inside those of the
list. -/
def elementFrom? (current : OpenElement) (outer : List OpenElement) : List Markup → Option Node
  | [] => none
  | .start name attrs :: rest => elementFrom? ⟨name, attrs, [], []⟩ (current.flush :: outer) rest
  | .stop name :: rest =>
    if name = current.name then
      match outer with
      | [] => some current.close
      | parent :: outer => elementFrom? (parent.addNode current.close) outer rest
    else none
  | .text raw :: rest => elementFrom? (current.addPart (.written raw)) outer rest
  | .cdata content :: rest => elementFrom? (current.addPart (.section content)) outer rest
  | .doctype :: rest => elementFrom? current.flush outer rest
  | .broken :: _ => none

/-- The root element of a document.  Before it there is no text. -/
def root? : List Markup → Option Node
  | .start name attrs :: rest => elementFrom? ⟨name, attrs, [], []⟩ [] rest
  | .text raw :: rest => if raw.all isBlankChar then root? rest else none
  | .doctype :: rest => root? rest
  | _ => none

/-- The root element of a text. -/
def read? (text : List Char) : Option Node := root? (markupOf text)

/-! ## Attributes -/

/-- A name without what is before its first colon. -/
def localName (name : List Char) : List Char :=
  if name.contains ':' then (name.dropWhile (· != ':')).drop 1 else name

/-- Whether an attribute declares a namespace. -/
def isNamespaceName (name : List Char) : Bool :=
  name == "xmlns".toList || "xmlns:".toList.isPrefixOf name

/-- The first attribute of a tag, with its value as it is written, and what is after it.  The text starts
with the name. -/
def readAttr? : List Char → Option ((List Char × List Char) × List Char)
  | [] => none
  | first :: cs =>
    let name := first :: cs.takeWhile fun c => c != '=' && !isBlankChar c
    match (cs.drop (name.length - 1)).dropWhile isBlankChar with
    | '=' :: cs =>
      match cs.dropWhile isBlankChar with
      | quote :: cs =>
        let value := cs.takeWhile (· != quote)
        if (quote == '"' || quote == '\x27') && value.length < cs.length then
          some ((name, value), cs.drop (value.length + 1))
        else none
      | [] => none
    | _ => none

/-- The attributes of a tag.  A name must not be repeated.  Every round reads a character at least, so as
many rounds as there are characters are enough. -/
def readAttrs? : Nat → List (List Char) → List Char → Option (List (List Char × List Char))
  | 0, _, cs => if cs.all isBlankChar then some [] else none
  | rounds + 1, seen, cs =>
    match cs.dropWhile isBlankChar with
    | [] => some []
    | cs => do
      let (attr, rest) ← readAttr? cs
      if seen.contains attr.1 then none
      else (attr :: ·) <$> readAttrs? rounds (attr.1 :: seen) rest

/-- The attributes of a tag, with their values as they are written. -/
def attrs? (cs : List Char) : Option (List (List Char × List Char)) :=
  readAttrs? cs.length [] cs

end CatalogGraph.Xml
