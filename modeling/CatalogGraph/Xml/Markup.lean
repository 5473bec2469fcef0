import CatalogGraph.Text.White

/-!
# Markup

A document is first cut into markup and the text between it.  Comments, declarations and processing
instructions are left out.  Names are not looked at here: whatever stands up to the first blank is the
name of a tag.  After markup that is not complete nothing more is read.
-/

namespace CatalogGraph.Xml

/-- A piece of markup, or text between markup. -/
inductive Markup
  /-- A start tag: its name, and everything after the name. -/
  | start (name attrs : List Char)
  | stop (name : List Char)
  /-- Text as it is written. -/
  | text (raw : List Char)
  | cdata (content : List Char)
  | doctype
  /-- Markup that is not complete or not well-formed. -/
  | broken
  deriving DecidableEq, Repr

/-- Whether a character is white space in markup. -/
def isBlankChar (c : Char) : Bool :=
  c == ' ' || c == '\t' || c == '\n' || c == '\r'

/-- The characters before the first occurrence of a character and those after it; all characters if it
does not occur. -/
def upTo (c : Char) (cs : List Char) : List Char × List Char :=
  (cs.takeWhile (· != c), (cs.dropWhile (· != c)).drop 1)

/-! ## Tags -/

/-- The content of a tag up to the closing bracket, which does not count in quotes, and what is after
it.  `quote` is the quotation mark that is open. -/
def tagContent? (quote : Option Char) : List Char → Option (List Char × List Char)
  | [] => none
  | c :: cs =>
    match quote with
    | some q => (tagContent? (if c == q then none else some q) cs).map fun p => (c :: p.1, p.2)
    | none =>
      if c == '>' then some ([], cs)
      else
        (tagContent? (if c == '"' || c == '\x27' then some c else none) cs).map
          fun p => (c :: p.1, p.2)

/-- The name and the rest of a start tag. -/
def startOf (content : List Char) : Markup :=
  let name := content.takeWhile fun c => !isBlankChar c
  .start name (content.drop name.length)

/-- A start tag, and its end tag if the tag is closed at once. -/
def tagOf (content : List Char) : List Markup :=
  if content.getLast? == some '/' then
    let name := content.dropLast.takeWhile fun c => !isBlankChar c
    [startOf content.dropLast, .stop name]
  else [startOf content]

/-- An end tag.  Blanks after the name do not count. -/
def stopOf (content : List Char) : Markup :=
  .stop (Text.dropEndWhile isBlankChar content)

/-! ## Other markup -/

/-- Characters up to a mark and those after it, if the mark is there. -/
def cutAt? (mark : List Char) : List Char → Option (List Char × List Char)
  | [] => none
  | c :: cs =>
    if mark.isPrefixOf (c :: cs) then some ([], (c :: cs).drop mark.length)
    else (cutAt? mark cs).map fun p => (c :: p.1, p.2)

/-- What is after a document type, which ends where as many brackets are closed as were opened. -/
def afterDoctype? : Nat → List Char → Option (List Char)
  | _, [] => none
  | depth, '<' :: cs => afterDoctype? (depth + 1) cs
  | 0, '>' :: cs => some cs
  | depth + 1, '>' :: cs => afterDoctype? depth cs
  | depth, _ :: cs => afterDoctype? depth cs

/-- Whether characters start with a keyword, given in capitals, in any case. -/
def startsWithKeyword (keyword cs : List Char) : Bool :=
  (cs.take keyword.length).map Char.toUpper == keyword

/-- The markup after `<!`, and what is after it. -/
def declaration (cs : List Char) : List Markup × List Char :=
  match cs with
  | '-' :: '-' :: rest =>
    match cutAt? ['-', '-', '>'] rest with
    | some (_, after) => ([], after)
    | none => ([.broken], [])
  | '[' :: _ =>
    match cutAt? [']', ']', '>'] cs with
    | some (content, after) =>
      if startsWithKeyword "[CDATA[".toList content then ([.cdata (content.drop 7)], after)
      else ([.broken], [])
    | none => ([.broken], [])
  | _ =>
    match afterDoctype? 0 cs with
    | some after =>
      let content := (cs.take (cs.length - after.length)).dropLast
      if startsWithKeyword "DOCTYPE".toList content && !(content.drop 7).all isBlankChar then
        ([.doctype], after)
      else ([.broken], [])
    | none => ([.broken], [])

/-- The instruction after `<?`, which leaves no markup, and what is after it. -/
def instruction (cs : List Char) : List Markup × List Char :=
  let (content, after) := upTo '>' cs
  if 1 < content.length && content.getLast? == some '?' then ([], after) else ([.broken], [])

/-- The markup after `<`, and what is after it. -/
def markupAfter : List Char → List Markup × List Char
  | [] => ([], [])
  | '!' :: cs => declaration cs
  | '?' :: cs => instruction cs
  | '/' :: cs =>
    let (content, after) := upTo '>' cs
    ([stopOf content], after)
  | cs =>
    match tagContent? none cs with
    | some (content, after) => (tagOf content, after)
    | none => ([.broken], [])

/-- The markup and text of a document.  Every round reads a character at least, so as many rounds as
there are characters are enough. -/
def markupIn : Nat → List Char → List Markup
  | _, [] => []
  | 0, _ :: _ => [.broken]
  | rounds + 1, c :: cs =>
    if c == '<' then
      let (markup, after) := markupAfter cs
      markup ++ markupIn rounds after
    else
      let raw := c :: cs.takeWhile (· != '<')
      .text raw :: markupIn rounds (cs.dropWhile (· != '<'))

/-- The markup and text of a document.  A byte order mark at its start does not count. -/
def markupOf (cs : List Char) : List Markup :=
  let cs := if cs.head? == some '\uFEFF' then cs.drop 1 else cs
  markupIn cs.length cs

end CatalogGraph.Xml
