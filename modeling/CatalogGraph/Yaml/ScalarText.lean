import CatalogGraph.Json.Quoted
import CatalogGraph.Yaml.Cursor

/-!
# Texts of YAML scalars

How the text of a scalar is read: without quotes, in quotes of either kind, or as a block of lines.
Breaks inside a scalar are folded, but not in a block that is read line by line.

Every round reads a character at least, so as many rounds as there are characters left, and one more, are
enough.
-/

namespace CatalogGraph.Yaml

/-! ## Plain scalars -/

/-- A character that ends a plain scalar in a flow collection. -/
def isFlowIndicator (c : Char) : Bool :=
  c == ',' || c == '[' || c == ']' || c == '\x7b' || c == '\x7d'

/-- The characters of a plain scalar up to a gap or to what ends the scalar.  In a flow collection a
colon must not be followed by an indicator. -/
def plainRun? (flow : Bool) : List Char → Option (List Char)
  | [] => some []
  | c :: cs =>
    if isBlankChar c || isBreak c then some []
    else if flow && c == ':' && (cs.head?.any fun d => isFlowIndicator d || d == '?') then none
    else if (c == ':' && atGap cs) || (flow && isFlowIndicator c) then some []
    else (plainRun? flow cs).map (c :: ·)

/-- A plain scalar that has been read: its text, whether a break was read after it, and the place
reached. -/
structure PlainText where
  text : List Char
  brokeLine : Bool
  cursor : Cursor
  deriving DecidableEq, Repr

/-- Reads the rest of a plain scalar after `text` and a gap.  In a block its lines start at the column
`indent` at least. -/
def plainFrom? (flow : Bool) (indent : Nat) : Nat → List Char → Gap → Cursor → Option PlainText
  | 0, text, gap, c => some ⟨text, gap.first.isSome, c⟩
  | rounds + 1, text, gap, c =>
    if c.atDocumentMark || c.rest.head? == some '#' then some ⟨text, gap.first.isSome, c⟩
    else do
      let run ← plainRun? flow c.rest
      let after := c.skip run.length
      let text := if run.isEmpty then text else text ++ gap.chars ++ run
      let gap : Gap := if run.isEmpty then gap else {}
      if !atGap after.rest || after.rest.isEmpty then some ⟨text, gap.first.isSome, after⟩
      else do
        let (gap, after) ← readGap? indent rounds gap after
        if !flow && after.column < indent then some ⟨text, gap.first.isSome, after⟩
        else plainFrom? flow indent rounds text gap after

/-- Reads a plain scalar in so many rounds at most. -/
def readPlain? (rounds : Nat) (flow : Bool) (indent : Nat) (c : Cursor) : Option PlainText :=
  plainFrom? flow indent rounds [] {} c

/-! ## Quoted scalars -/

/-- The character that an escape of one character stands for. -/
def escaped? : Char → Option Char
  | '0' => some '\x00'
  | 'a' => some '\x07'
  | 'b' => some '\x08'
  | 't' => some '\t'
  | '\t' => some '\t'
  | 'n' => some '\n'
  | 'v' => some '\x0b'
  | 'f' => some '\x0c'
  | 'r' => some '\r'
  | 'e' => some '\x1b'
  | ' ' => some ' '
  | '"' => some '"'
  | '/' => some '/'
  | '\\' => some '\\'
  | 'N' => some '\u0085'
  | '_' => some '\u00a0'
  | 'L' => some '\u2028'
  | 'P' => some '\u2029'
  | _ => none

/-- The number of digits after an escape that gives a code point. -/
def escapeDigits? : Char → Option Nat
  | 'x' => some 2
  | 'u' => some 4
  | 'U' => some 8
  | _ => none

/-- The character with a code point in hexadecimal digits. -/
def codedChar? (digits : List Char) : Option Char := do
  let n ← digits.foldlM (fun n d => (Json.hexValue? d).map (n * 16 + ·)) 0
  if h : n.isValidChar then some (Char.ofNatAux n h) else none

/-- The character that an escape after a backslash stands for, and its length. -/
def readEscape? : List Char → Option (Char × Nat)
  | [] => none
  | e :: cs =>
    match escapeDigits? e with
    | some n =>
      if (cs.take n).length = n then (codedChar? (cs.take n)).map fun c => (c, n + 1) else none
    | none => (escaped? e).map fun c => (c, 1)

/-- Reads the rest of a quoted scalar, after characters in reverse order, up to its closing quote. -/
def quotedFrom? (single : Bool) : Nat → List Char → Cursor → Option (List Char × Cursor)
  | 0, _, _ => none
  | rounds + 1, text, c =>
    if c.atDocumentMark then none
    else
      match c.rest with
      | [] => none
      | d :: rest =>
        if isBlankChar d || isBreak d then do
          let (gap, after) ← readGap? 0 rounds {} c
          quotedFrom? single rounds (gap.chars.reverse ++ text) after
        else if single then
          if d == '\x27' then
            if rest.head? == some '\x27' then quotedFrom? single rounds ('\x27' :: text) (c.skip 2)
            else some (text.reverse, c.skip 1)
          else quotedFrom? single rounds (d :: text) (c.skip 1)
        else if d == '"' then some (text.reverse, c.skip 1)
        else if d == '\\' then
          if rest.head?.any isBreak then do
            let after := (c.skip 1).skipBreak
            let (gap, after) ← readGap? 0 rounds { first := some [] } after
            quotedFrom? single rounds (gap.chars.reverse ++ text) after
          else do
            let (e, length) ← readEscape? rest
            quotedFrom? single rounds (e :: text) (c.skip (length + 1))
        else quotedFrom? single rounds (d :: text) (c.skip 1)

/-- Reads a quoted scalar after its opening quote, in so many rounds at most. -/
def readQuoted? (rounds : Nat) (single : Bool) (c : Cursor) : Option (List Char × Cursor) :=
  quotedFrom? single rounds [] c

/-! ## Block scalars -/

/-- What becomes of the breaks at the end of a block. -/
inductive Chomping
  | strip
  | clip
  | keep
  deriving DecidableEq, Repr

/-- The way of chomping that a character calls for. -/
def chomping? : Char → Option Chomping
  | '+' => some .keep
  | '-' => some .strip
  | _ => none

/-- The indentation that a digit calls for.  Zero is none. -/
def increment? (c : Char) : Option Nat :=
  if c.isDigit && c != '0' then some (c.toNat - '0'.toNat) else none

/-- The header of a block: how it is chomped, its indentation if it is given, and the place after the
two. -/
def blockHeader? (c : Cursor) : Option (Chomping × Option Nat × Cursor) :=
  match c.rest with
  | [] => some (.clip, none, c)
  | a :: rest =>
    match chomping? a with
    | some way =>
      match rest with
      | b :: _ =>
        if b.isDigit then (increment? b).map fun n => (way, some n, c.skip 2)
        else some (way, none, c.skip 1)
      | [] => some (way, none, c.skip 1)
    | none =>
      if a.isDigit then do
        let n ← increment? a
        match rest.head?.bind chomping? with
        | some way => some (way, some n, c.skip 2)
        | none => some (.clip, some n, c.skip 1)
      else some (.clip, none, c)

/-- The breaks and the indentation before a line of a block, the widest column that was reached, and the
place after them.  An indentation that is not known yet has no limit. -/
def blockBreaks? (indent : Option Nat) :
    Nat → Nat → List Char → Cursor → Option (List Char × Nat × Cursor)
  | 0, widest, breaks, c => some (breaks, widest, c)
  | rounds + 1, widest, breaks, c =>
    let blanks := (c.rest.takeWhile (· == ' ')).length
    let c := c.skip (match indent with
      | some n => min blanks (n - c.column)
      | none => blanks)
    let widest := max widest c.column
    if (indent.all fun n => c.column < n) && c.rest.head? == some '\t' then none
    else if c.rest.head?.any isBreak then
      let (cs, after) := c.readBreak
      blockBreaks? indent rounds widest (breaks ++ cs) after
    else some (breaks, widest, c)

/-- A block that is being read: its text so far, the break after its last line, the breaks after that
one, and whether its last line starts with a blank. -/
structure BlockText where
  text : List Char := []
  lastBreak : List Char := []
  breaks : List Char := []
  blankStart : Bool := false
  deriving DecidableEq, Repr

/-- The text of a block up to a line that starts with a blank or not.  A single break between two lines
that do not is folded. -/
def BlockText.joined (b : BlockText) (literal blankStart : Bool) : List Char :=
  if !literal && b.lastBreak == ['\n'] && !b.blankStart && !blankStart then
    b.text ++ (if b.breaks.isEmpty then [' '] else []) ++ b.breaks
  else b.text ++ b.lastBreak ++ b.breaks

/-- Reads the rest of the lines of a block. -/
def blockLines? (literal : Bool) (indent : Nat) : Nat → BlockText → Cursor →
    Option (BlockText × Cursor)
  | 0, b, c => some (b, c)
  | rounds + 1, b, c =>
    if c.column == indent && !c.rest.isEmpty then do
      let blankStart := c.rest.head?.any isBlankChar
      let line := c.run fun _ => true
      let text := b.joined literal blankStart ++ line
      let (lastBreak, after) := c.skipToLineEnd.readBreak
      let (breaks, _, after) ← blockBreaks? (some indent) rounds 0 [] after
      blockLines? literal indent rounds ⟨text, lastBreak, breaks, blankStart⟩ after
    else some (b, c)

/-- The text of a block, chomped. -/
def BlockText.chomped (b : BlockText) (way : Chomping) : List Char :=
  match way with
  | .strip => b.text
  | .clip => b.text ++ b.lastBreak
  | .keep => b.text ++ b.lastBreak ++ b.breaks

/-- Reads a block after its indicator, in so many rounds at most.  `outer` is the column after the indentation
around it: zero at the outermost level.  A block is indented by what its header says, or else as its first line is,
and at least by one more than what is around it. -/
def readBlock? (rounds : Nat) (literal : Bool) (outer : Nat) (c : Cursor) :
    Option (List Char × Cursor) := do
  let (way, increment, c) ← blockHeader? c
  let c ← c.skipLineTail?
  let given := increment.map fun n => if outer = 0 then n else outer - 1 + n
  let (breaks, widest, c) ← blockBreaks? given rounds 0 [] c
  let indent := given.getD (max widest (max outer 1))
  let (b, c) ← blockLines? literal indent rounds ⟨[], [], breaks, false⟩ c
  some (b.chomped way, c)

end CatalogGraph.Yaml
