/-!
# Places in a YAML text

A place is what is left to read, with the line, the column and the number of characters before it.  Lines
end with a line feed, a carriage return or both, with a next-line character, or with a line or paragraph
separator.
-/

namespace CatalogGraph.Yaml

/-- Whether a character may stand in a text at all. -/
def isAllowed (c : Char) : Bool :=
  let n := c.toNat
  n == 0x09 || n == 0x0A || n == 0x0D || (0x20 ≤ n && n ≤ 0x7E) || n == 0x85 ||
  (0xA0 ≤ n && n ≤ 0xFFFD) || 0x10000 ≤ n

/-- Whether a character is a blank or a tab. -/
def isBlankChar (c : Char) : Bool := c == ' ' || c == '\t'

/-- Whether a character ends a line. -/
def isBreak (c : Char) : Bool :=
  c == '\n' || c == '\r' || c == '\u0085' || c == '\u2028' || c == '\u2029'

/-- Whether a character may stand in the name of an anchor or a handle. -/
def isNameChar (c : Char) : Bool := c.isAlphanum || c == '_' || c == '-'

/-- Whether a text is at the end of a line. -/
def atLineEnd : List Char → Bool
  | [] => true
  | c :: _ => isBreak c

/-- Whether a text is at the end of a line or at a blank. -/
def atGap : List Char → Bool
  | [] => true
  | c :: _ => isBlankChar c || isBreak c

/-- A place in a text. -/
structure Cursor where
  rest : List Char
  line : Nat := 0
  column : Nat := 0
  index : Nat := 0
  deriving DecidableEq, Repr

namespace Cursor

/-- The place so many characters later in the same line. -/
def skip (c : Cursor) (n : Nat) : Cursor :=
  { c with rest := c.rest.drop n, column := c.column + n, index := c.index + n }

/-- The characters in the same line that satisfy `p`. -/
def run (c : Cursor) (p : Char → Bool) : List Char := c.rest.takeWhile fun d => p d && !isBreak d

/-- The place after the characters in the same line that satisfy `p`. -/
def skipWhile (c : Cursor) (p : Char → Bool) : Cursor := c.skip (c.run p).length

/-- The place at the end of the line. -/
def skipToLineEnd (c : Cursor) : Cursor := c.skipWhile fun _ => true

/-- The break at a place as it is read, and the place after it.  A break is read as a line feed, but a
separator stays. -/
def readBreak (c : Cursor) : List Char × Cursor :=
  match c.rest with
  | '\r' :: '\n' :: rest => (['\n'], ⟨rest, c.line + 1, 0, c.index + 2⟩)
  | d :: rest =>
    if isBreak d then
      ([if d == '\u2028' || d == '\u2029' then d else '\n'], ⟨rest, c.line + 1, 0, c.index + 1⟩)
    else ([], c)
  | [] => ([], c)

/-- The place after a break, if there is one. -/
def skipBreak (c : Cursor) : Cursor := c.readBreak.2

/-- The place after blanks and a comment at the end of a line; nothing if there is something else. -/
def skipLineTail? (c : Cursor) : Option Cursor :=
  let c := c.skipWhile isBlankChar
  let c := if c.rest.head? == some '#' then c.skipToLineEnd else c
  if atLineEnd c.rest then some c.skipBreak else none

/-- Whether a mark of three characters stands at the start of a line. -/
def atMark (c : Cursor) (mark : Char) : Bool :=
  c.column == 0 &&
  match c.rest with
  | a :: b :: d :: rest => a == mark && b == mark && d == mark && atGap rest
  | _ => false

/-- Whether a document starts or ends at a place. -/
def atDocumentMark (c : Cursor) : Bool := c.atMark '-' || c.atMark '.'

end Cursor

/-! ## Gaps in scalars -/

/-- The space between two words of a scalar: blanks, or a first break and more of them.  An escaped break
is a first break without a character. -/
structure Gap where
  blanks : List Char := []
  first : Option (List Char) := none
  more : List Char := []
  deriving DecidableEq, Repr

namespace Gap

/-- What a gap stands for: a single line feed is read as a blank. -/
def chars (g : Gap) : List Char :=
  match g.first with
  | none => g.blanks
  | some ['\n'] => if g.more.isEmpty then [' '] else g.more
  | some separator => separator ++ g.more

/-- The gap with one more blank. -/
def addBlank (g : Gap) (c : Char) : Gap :=
  if g.first.isNone then { g with blanks := g.blanks ++ [c] } else g

/-- The gap with one more break. -/
def addBreak (g : Gap) (cs : List Char) : Gap :=
  if g.first.isNone then { g with first := some cs } else { g with more := g.more ++ cs }

end Gap

/-- The gap at a place.  In a new line no tab may stand before the column `indent`. -/
def readGap? (indent : Nat) : Nat → Gap → Cursor → Option (Gap × Cursor)
  | 0, g, c => some (g, c)
  | rounds + 1, g, c =>
    match c.rest with
    | [] => some (g, c)
    | d :: _ =>
      if isBlankChar d then
        if g.first.isSome && c.column < indent && d == '\t' then none
        else readGap? indent rounds (g.addBlank d) (c.skip 1)
      else if isBreak d then
        let (cs, after) := c.readBreak
        readGap? indent rounds (g.addBreak cs) after
      else some (g, c)

end CatalogGraph.Yaml
