import CatalogGraph.Json.Quoted
import CatalogGraph.Yaml.Cursor

/-!
# YAML tokens

What a stream is made of, and how the names, tags and directives in it are read.  A tag is written as a
handle and the rest of it, or in full between angle brackets.  The rest may have escaped octets; they need
not make text, so a tag is a list of octets.
-/

namespace CatalogGraph.Yaml

/-- A tag, or a part of one. -/
abbrev Octets := List UInt8

/-- The octets of ASCII characters. -/
def octetsOf (cs : List Char) : Octets := cs.map fun c => c.toNat.toUInt8

/-- A token.  The start of a block collection and of its keys is not written but follows from the
columns. -/
inductive Token
  | version (major minor : Nat)
  /-- A directive that says what a handle stands for. -/
  | handle (name : List Char) (meaning : Octets)
  | documentStart
  | documentEnd
  | blockSequence
  | blockMapping
  | blockEnd
  | openSequence
  | closeSequence
  | openMapping
  | closeMapping
  | comma
  | dash
  | key
  | value
  | alias (name : List Char)
  | anchor (name : List Char)
  | tag (handle : List Char) (rest : Octets)
  | scalar (plain : Bool) (text : List Char)
  deriving DecidableEq, Repr

/-! ## Anchors -/

/-- Whether the name of an anchor may end before a text. -/
def atNameEnd : List Char → Bool
  | [] => true
  | c :: cs => atGap (c :: cs) || ['?', ':', ',', ']', '\x7d', '%', '@', '\x60'].contains c

/-- Reads the name of an anchor after its indicator. -/
def readName? (c : Cursor) : Option (List Char × Cursor) :=
  let name := c.run isNameChar
  let after := c.skip name.length
  if name.isEmpty || !atNameEnd after.rest then none else some (name, after)

/-! ## Tags -/

/-- The characters in the URI of a tag besides those of names. -/
def uriMarks : List Char :=
  [';', '/', '?', ':', '@', '&', '=', '+', '$', '.', '%', '!', '~', '*', '\x27', '(', ')']

/-- Whether a character may stand in the URI of a tag.  A URI in full may have commas and brackets. -/
def isUriChar (full : Bool) (c : Char) : Bool :=
  isNameChar c || uriMarks.contains c || (full && (c == ',' || c == '[' || c == ']'))

/-- The number of octets that a first octet calls for. -/
def octetCount? (n : Nat) : Option Nat :=
  if n < 0x80 then some 1
  else if n < 0xC0 then none
  else if n < 0xE0 then some 2
  else if n < 0xF0 then some 3
  else if n < 0xF8 then some 4
  else none

/-- The octet that is written as a percent sign and two digits. -/
def escapedOctet? : List Char → Option Nat
  | '%' :: a :: b :: _ => do some ((← Json.hexValue? a) * 16 + (← Json.hexValue? b))
  | _ => none

/-- So many escaped octets that go on with a character. -/
def moreOctets? : Nat → List Char → Option Octets
  | 0, _ => some []
  | n + 1, cs => do
    let octet ← escapedOctet? cs
    if octet / 0x40 = 2 then (octet.toUInt8 :: ·) <$> moreOctets? n (cs.drop 3) else none

/-- The escaped octets of a character. -/
def escapedChar? (cs : List Char) : Option Octets := do
  let octet ← escapedOctet? cs
  let count ← octetCount? octet
  (octet.toUInt8 :: ·) <$> moreOctets? (count - 1) (cs.drop 3)

/-- Reads the octets of a URI in so many rounds at most. -/
def uriFrom? (full : Bool) : Nat → Cursor → Option (Octets × Cursor)
  | 0, c => some ([], c)
  | rounds + 1, c =>
    match c.rest with
    | [] => some ([], c)
    | d :: _ =>
      if !isUriChar full d then some ([], c)
      else do
        let (octets, length) ←
          if d == '%' then (escapedChar? c.rest).map fun octets => (octets, 3 * octets.length)
          else some (octetsOf [d], 1)
        let (more, after) ← uriFrom? full rounds (c.skip length)
        some (octets ++ more, after)

/-- What counts of octets: they end before a zero. -/
def meant (octets : Octets) : Octets := octets.takeWhile (· != 0)

/-- A URI that is not empty. -/
def readUri? (rounds : Nat) (full : Bool) (c : Cursor) : Option (Octets × Cursor) := do
  let (octets, after) ← uriFrom? full rounds c
  if octets.isEmpty then none else some (meant octets, after)

/-- The characters of a handle after its first exclamation mark: a name, and a second mark if there is
one. -/
def handleRun (c : Cursor) : List Char :=
  let name := c.run isNameChar
  if (c.skip name.length).rest.head? == some '!' then name ++ ['!'] else name

/-- Reads a tag after its exclamation mark, up to its end.  What looks like a handle but has no second
mark is a part of the tag itself. -/
def tagBody? (rounds : Nat) (c : Cursor) : Option (Token × Cursor) :=
  if c.rest.head? == some '<' then do
    let (uri, after) ← readUri? rounds true (c.skip 1)
    if after.rest.head? == some '>' then some (.tag [] uri, after.skip 1) else none
  else
    let run := handleRun c
    if run.getLast? == some '!' then do
      let (rest, after) ← readUri? rounds false (c.skip run.length)
      some (.tag ('!' :: run) rest, after)
    else do
      let (octets, after) ← uriFrom? false rounds (c.skip run.length)
      let rest := meant (octetsOf run ++ octets)
      some (if rest.isEmpty then .tag [] (octetsOf ['!']) else .tag ['!'] rest, after)

/-- Reads a tag after its exclamation mark.  A gap must follow, or in a flow collection a comma. -/
def readTag? (rounds : Nat) (flow : Bool) (c : Cursor) : Option (Token × Cursor) := do
  let (token, after) ← tagBody? rounds c
  if atGap after.rest || (flow && after.rest.head? == some ',') then some (token, after) else none

/-! ## Directives -/

/-- The greatest number of digits in a version. -/
def maxVersionDigits : Nat := 9

/-- Reads a number of a version. -/
def readVersionPart? (c : Cursor) : Option (Nat × Cursor) :=
  let digits := c.run Char.isDigit
  if digits.isEmpty || maxVersionDigits < digits.length then none
  else some (digits.foldl (fun n d => n * 10 + (d.toNat - '0'.toNat)) 0, c.skip digits.length)

/-- Reads the version that a directive gives. -/
def readVersion? (c : Cursor) : Option (Token × Cursor) := do
  let (major, c) ← readVersionPart? (c.skipWhile isBlankChar)
  if c.rest.head? == some '.' then do
    let (minor, c) ← readVersionPart? (c.skip 1)
    some (.version major minor, c)
  else none

/-- Reads a handle and its meaning, which a directive gives. -/
def readHandle? (rounds : Nat) (c : Cursor) : Option (Token × Cursor) := do
  let c := c.skipWhile isBlankChar
  if c.rest.head? != some '!' then none
  else
    let run := handleRun (c.skip 1)
    let after := c.skip (run.length + 1)
    if (run.isEmpty || run.getLast? == some '!') && after.rest.head?.any isBlankChar then do
      let (meaning, after) ← readUri? rounds true (after.skipWhile isBlankChar)
      if atGap after.rest then some (.handle ('!' :: run) meaning, after) else none
    else none

/-- Reads a directive after its percent sign, with the rest of its line. -/
def readDirective? (rounds : Nat) (c : Cursor) : Option (Token × Cursor) := do
  let name := c.run isNameChar
  let after := c.skip name.length
  if !atGap after.rest then none
  else do
    let (token, after) ←
      if name == ['Y', 'A', 'M', 'L'] then readVersion? after
      else if name == ['T', 'A', 'G'] then readHandle? rounds after
      else none
    some (token, ← after.skipLineTail?)

end CatalogGraph.Yaml
