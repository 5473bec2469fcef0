import CatalogGraph.Yaml.ScalarText
import CatalogGraph.Yaml.Token

/-!
# YAML streams

A stream is taken apart into tokens, character by character.  In a block the columns tell where a
collection starts and ends.  That something is a key shows only at the colon after it, so the place of
what may be a key is kept, and the tokens that make it a key are put in later.  A key is at most 1024
characters long and does not reach into the next line.
-/

namespace CatalogGraph.Yaml

/-- The place of what may be a key. -/
structure PendingKey where
  /-- The number of tokens before it. -/
  position : Nat
  line : Nat
  column : Nat
  index : Nat
  /-- Whether it has to be a key, because it stands where the keys of a mapping do. -/
  required : Bool
  deriving DecidableEq, Repr

/-- A stream that has been read up to a place. -/
structure Stream where
  cursor : Cursor
  /-- The tokens so far, the last one first. -/
  tokens : List Token := []
  count : Nat := 0
  /-- The columns of the block collections that are open, the innermost first. -/
  indents : List Nat := []
  /-- What may be a key in each of the flow collections that are open, and around them, the innermost
  left out. -/
  outerKeys : List (Option PendingKey) := []
  pendingKey : Option PendingKey := none
  keyAllowed : Bool := true
  deriving DecidableEq, Repr

namespace Stream

/-- Whether a flow collection is open. -/
def inFlow (s : Stream) : Bool := !s.outerKeys.isEmpty

/-- The least column of what belongs to the innermost block collection. -/
def innerColumn (s : Stream) : Nat :=
  match s.indents with
  | [] => 0
  | column :: _ => column + 1

/-- The stream after a token up to a place. -/
def push (s : Stream) (token : Token) (after : Cursor) : Stream :=
  { s with tokens := token :: s.tokens, count := s.count + 1, cursor := after }

/-- The stream after a token of so many characters. -/
def take (s : Stream) (token : Token) (length : Nat) : Stream :=
  s.push token (s.cursor.skip length)

/-- The stream with tokens put in at a position. -/
def insert (s : Stream) (position : Nat) (tokens : List Token) : Stream :=
  let later := s.count - position
  { s with
    tokens := s.tokens.take later ++ tokens.reverse ++ s.tokens.drop later
    count := s.count + tokens.length }

/-! ## Block collections -/

/-- Ends the block collections with a column after a given one. -/
def closeBlocksFrom (column : Nat) : List Nat → Nat × List Nat
  | [] => (0, [])
  | indent :: rest =>
    if column ≤ indent then
      let (closed, left) := closeBlocksFrom column rest
      (closed + 1, left)
    else (0, indent :: rest)

/-- Ends the block collections that do not hold what stands at a column or after it.  Nothing is ended in a
flow collection. -/
def closeBlocks (s : Stream) (column : Nat) : Stream :=
  if s.inFlow then s
  else
    let (closed, left) := closeBlocksFrom column s.indents
    { s with
      indents := left
      tokens := List.replicate closed Token.blockEnd ++ s.tokens
      count := s.count + closed }

/-- Whether a block collection starts at a column. -/
def opensBlock (s : Stream) (column : Nat) : Bool := !s.inFlow && s.innerColumn ≤ column

/-- Starts a block collection at the place reached, if one starts there. -/
def openBlock (s : Stream) (token : Token) : Stream :=
  if s.opensBlock s.cursor.column then
    { (s.push token s.cursor) with indents := s.cursor.column :: s.indents }
  else s

/-! ## Keys -/

/-- What may be a key is none.  This fails if it has to be one. -/
def dropKey? (s : Stream) : Option Stream :=
  match s.pendingKey with
  | some key => if key.required then none else some { s with pendingKey := none }
  | none => some s

/-- What comes next may be a key, if one is allowed. -/
def saveKey? (s : Stream) : Option Stream :=
  if s.keyAllowed then do
    let key : PendingKey := {
      position := s.count
      line := s.cursor.line
      column := s.cursor.column
      index := s.cursor.index
      required := !s.inFlow && s.indents.head? == some s.cursor.column }
    let s ← s.dropKey?
    some { s with pendingKey := some key }
  else some s

/-- The greatest length of a key. -/
def maxKeyLength : Nat := 1024

/-- Forgets what may be a key if it is too far away. -/
def refreshKey? (s : Stream) : Option Stream :=
  match s.pendingKey with
  | some key =>
    if key.line < s.cursor.line || key.index + maxKeyLength < s.cursor.index then s.dropKey?
    else some s
  | none => some s

/-! ## Tokens -/

/-- Reads the start of a flow collection. -/
def openFlow? (s : Stream) (token : Token) : Option Stream := do
  let s ← s.saveKey?
  some { (s.take token 1) with
    outerKeys := s.pendingKey :: s.outerKeys, pendingKey := none, keyAllowed := true }

/-- Reads the end of a flow collection. -/
def closeFlow? (s : Stream) (token : Token) : Option Stream := do
  let s ← s.dropKey?
  let s := { (s.take token 1) with keyAllowed := false }
  match s.outerKeys with
  | key :: rest => some { s with pendingKey := key, outerKeys := rest }
  | [] => some s

/-- Reads a comma in a flow collection. -/
def readComma? (s : Stream) : Option Stream := do
  let s ← s.dropKey?
  some { (s.take .comma 1) with keyAllowed := true }

/-- Reads the dash before an item. -/
def readDash? (s : Stream) : Option Stream := do
  if !s.inFlow && !s.keyAllowed then none
  else do
    let s ← (s.openBlock .blockSequence).dropKey?
    some { (s.take .dash 1) with keyAllowed := true }

/-- Reads the question mark before a key. -/
def readKey? (s : Stream) : Option Stream := do
  if !s.inFlow && !s.keyAllowed then none
  else do
    let s ← (s.openBlock .blockMapping).dropKey?
    some { (s.take .key 1) with keyAllowed := !s.inFlow }

/-- Reads the colon before a value.  What may be a key is one. -/
def readValue? (s : Stream) : Option Stream :=
  match s.pendingKey with
  | some key =>
    let opens := s.opensBlock key.column
    let s := s.insert key.position (if opens then [.blockMapping, .key] else [.key])
    some { (s.take .value 1) with
      indents := if opens then key.column :: s.indents else s.indents
      pendingKey := none
      keyAllowed := false }
  | none =>
    if !s.inFlow && !s.keyAllowed then none
    else some { ((s.openBlock .blockMapping).take .value 1) with keyAllowed := !s.inFlow }

/-- Reads an anchor or an alias. -/
def readAnchor? (s : Stream) (token : List Char → Token) : Option Stream := do
  let s ← s.saveKey?
  let (name, after) ← readName? (s.cursor.skip 1)
  some { (s.push (token name) after) with keyAllowed := false }

/-- Reads a tag. -/
def readTag? (rounds : Nat) (s : Stream) : Option Stream := do
  let s ← s.saveKey?
  let (token, after) ← Yaml.readTag? rounds s.inFlow (s.cursor.skip 1)
  some { (s.push token after) with keyAllowed := false }

/-- Reads a block scalar. -/
def readBlock? (rounds : Nat) (s : Stream) (literal : Bool) : Option Stream := do
  let s ← s.dropKey?
  let (text, after) ← Yaml.readBlock? rounds literal s.innerColumn (s.cursor.skip 1)
  some { (s.push (.scalar false text) after) with keyAllowed := true }

/-- Reads a quoted scalar. -/
def readQuoted? (rounds : Nat) (s : Stream) (single : Bool) : Option Stream := do
  let s ← s.saveKey?
  let (text, after) ← Yaml.readQuoted? rounds single (s.cursor.skip 1)
  some { (s.push (.scalar false text) after) with keyAllowed := false }

/-- Reads a plain scalar. -/
def readPlain? (rounds : Nat) (s : Stream) : Option Stream := do
  let s ← s.saveKey?
  let plain ← Yaml.readPlain? rounds s.inFlow s.innerColumn s.cursor
  some { (s.push (.scalar true plain.text) plain.cursor) with keyAllowed := plain.brokeLine }

/-- The stream where a document starts or ends, or a directive is. -/
def outside? (s : Stream) : Option Stream := do
  let s ← (s.closeBlocks 0).dropKey?
  some { s with keyAllowed := false }

/-- Reads a directive. -/
def readDirective? (rounds : Nat) (s : Stream) : Option Stream := do
  let s ← s.outside?
  let (token, after) ← Yaml.readDirective? rounds (s.cursor.skip 1)
  some (s.push token after)

/-- Reads the mark at the start or the end of a document. -/
def readMark? (s : Stream) (token : Token) : Option Stream := do
  some ((← s.outside?).take token 3)

/-- The characters that mean something at the start of a token. -/
def indicators : List Char := [
  '-', '?', ':', ',', '[', ']', '\x7b', '\x7d', '#', '&', '*', '!', '|', '>', '\x27', '"', '%', '@',
  '\x60']

/-- Whether a character may start a plain scalar whatever comes next. -/
def startsPlain (c : Char) : Bool := !isBlankChar c && !indicators.contains c

/-- Reads the token that starts with a character. -/
def readToken? (rounds : Nat) (s : Stream) (c : Char) (rest : List Char) : Option Stream :=
  let gap := atGap rest
  if s.cursor.column == 0 && c == '%' then s.readDirective? rounds
  else if s.cursor.atMark '-' then s.readMark? .documentStart
  else if s.cursor.atMark '.' then s.readMark? .documentEnd
  else if c == '[' then s.openFlow? .openSequence
  else if c == '\x7b' then s.openFlow? .openMapping
  else if c == ']' then s.closeFlow? .closeSequence
  else if c == '\x7d' then s.closeFlow? .closeMapping
  else if c == ',' then s.readComma?
  else if c == '-' && gap then s.readDash?
  else if c == '?' && (s.inFlow || gap) then s.readKey?
  else if c == ':' && (s.inFlow || gap) then s.readValue?
  else if c == '*' then s.readAnchor? .alias
  else if c == '&' then s.readAnchor? .anchor
  else if c == '!' then s.readTag? rounds
  else if c == '|' && !s.inFlow then s.readBlock? rounds true
  else if c == '>' && !s.inFlow then s.readBlock? rounds false
  else if c == '\x27' then s.readQuoted? rounds true
  else if c == '"' then s.readQuoted? rounds false
  else if startsPlain c || c == '-' || (!s.inFlow && (c == '?' || c == ':')) then s.readPlain? rounds
  else none

/-! ## The whole stream -/

/-- The stream up to the next token: after blanks, comments and breaks.  A tab is a blank where no key
may start. -/
def skipToToken : Nat → Stream → Stream
  | 0, s => s
  | rounds + 1, s =>
    let c := s.cursor
    let c := if c.column == 0 && c.rest.head? == some '\ufeff' then c.skip 1 else c
    let tabs := s.inFlow || !s.keyAllowed
    let c := c.skipWhile fun d => d == ' ' || (tabs && d == '\t')
    let c := if c.rest.head? == some '#' then c.skipToLineEnd else c
    if c.rest.head?.any isBreak then
      skipToToken rounds { s with cursor := c.skipBreak, keyAllowed := s.keyAllowed || !s.inFlow }
    else { s with cursor := c }

/-- The tokens of a stream that has been read to its end. -/
def finish? (s : Stream) : Option (List Token) := do
  some (← s.outside?).tokens.reverse

/-- Reads the rest of a stream in so many rounds at most. -/
def tokensFrom? : Nat → Stream → Option (List Token)
  | 0, _ => none
  | rounds + 1, s => do
    let s ← (s.skipToToken rounds).refreshKey?
    let s := s.closeBlocks (s.cursor.column + 1)
    match s.cursor.rest with
    | [] => s.finish?
    | c :: rest => tokensFrom? rounds (← s.readToken? rounds c rest)

end Stream

/-- The tokens of a text.  Every round reads a character at least. -/
def tokens? (cs : List Char) : Option (List Token) :=
  if cs.all isAllowed then Stream.tokensFrom? (cs.length + 2) { cursor := { rest := cs } } else none

end CatalogGraph.Yaml
