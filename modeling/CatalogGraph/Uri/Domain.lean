import CatalogGraph.Text.Lowercase
import CatalogGraph.Unicode.Decomposition
import CatalogGraph.Unicode.DomainRows
import CatalogGraph.Uri.Address
import CatalogGraph.Uri.Punycode

/-!
# Domain names

What a host name comes to when it is looked up: characters are brought to a common form without case
and width, invisible ones are dropped, and each label must then hold only characters that may stand in
a name.  A label that is written in ASCII with the mark `xn--` is checked in its decoded form.  Labels
that mix directions and joiners out of place are refused.
-/

namespace CatalogGraph.Uri

open CatalogGraph.Unicode

/-- Characters that are kept although they have another form: a letter whose other form changes the
word, the joiners, the letters of a script that is written in one case, and the signs whose parts may
not stand alone. -/
def isKeptAsIs (c : Char) : Bool :=
  c == 'ß' || c == 'ς' || c.toNat == 0x200C || c.toNat == 0x200D ||
  (0x13A0 ≤ c.toNat && c.toNat ≤ 0x13F5) || c.toNat == 0x226E || c.toNat == 0x226F

/-- The table of a class of characters in names. -/
def namingTable (name : String) : CodeTable :=
  CodeTable.ofText ((rowOf? namingRows name).getD "")

/-- The characters that no name may hold. -/
def refusedTable : CodeTable := namingTable "refused"

/-- The characters that a decoded label may not hold, since their common form is another one although
they are made of the same letters. -/
def alteredTable : CodeTable := namingTable "altered"

/-- The characters that are dropped from names. -/
def ignorableTable : CodeTable := binaryTable "defaultignorablecodepoint"

/-- The characters that are unassigned or that control something, are private, or part words. -/
def unnamableTables : List PropertySet :=
  [category? "c", category? "z"].filterMap id

/-- The full stops that part labels. -/
def isFullStop (c : Char) : Bool :=
  c == '.' || c.toNat == 0x3002 || c.toNat == 0xFF0E || c.toNat == 0xFF61

/-- The common form of a character in a host name.  A character that no name may hold stays, to be
refused as part of a label. -/
def nameForm (c : Char) : List Char :=
  if isFullStop c then ['.']
  else if c.toNat < 0x80 then [Text.lowerAscii c]
  else if isKeptAsIs c || refusedTable.contains c then [c]
  else if ignorableTable.contains c then []
  else
    ((decompose c).flatMap fun d => (Text.lowerChar [] d []).flatMap decompose).filter
      fun d => !ignorableTable.contains d

/-- The ASCII characters that may not stand in a host name. -/
def isForbiddenAscii (c : Char) : Bool :=
  c.toNat ≤ 0x20 || c.toNat == 0x7F || "#/:<>?@[]^|%".toList.contains c || c == '\\'

/-- Whether a character may stand in a label. -/
def isLabelChar (c : Char) : Bool :=
  if c.toNat < 0x80 then !isForbiddenAscii c
  else isKeptAsIs c ||
    !(refusedTable.contains c || unnamableTables.any (·.contains c) || (0x2FF0 ≤ c.toNat && c.toNat ≤ 0x2FFF) ||
      c.toNat == 0xFFFC || c.toNat == 0xFFFD)

/-! ## Direction -/

/-- The tables of the direction classes. -/
def directionTables : List (String × CodeTable) :=
  directionRows.map fun row => (row.1, CodeTable.ofText row.2)

/-- The direction class of a character. -/
def direction (c : Char) : String :=
  ((directionTables.find? fun row => row.2.contains c).map Prod.fst).getD "L"

/-- Whether a label holds a character that is written from right to left. -/
def isRightToLeft (label : List Char) : Bool :=
  label.any fun c => ["R", "AL", "AN"].contains (direction c)

/-- Whether the directions in a label go together. -/
def hasSoundDirection (label : List Char) : Bool :=
  let classes := label.map direction
  let ending := (classes.reverse.dropWhile (· == "NSM")).head?
  match classes with
  | [] => true
  | "L" :: _ =>
    classes.all ["L", "EN", "ES", "CS", "ET", "ON", "BN", "NSM"].contains &&
    (ending == some "L" || ending == some "EN")
  | first :: _ =>
    (first == "R" || first == "AL") &&
    classes.all ["R", "AL", "AN", "EN", "ES", "CS", "ET", "ON", "BN", "NSM"].contains &&
    ["R", "AL", "EN", "AN"].contains (ending.getD "") &&
    !(classes.contains "EN" && classes.contains "AN")

/-! ## Joiners -/

/-- The signs that silence the vowel of the letter before them. -/
def viramas : CodeTable :=
  CodeTable.ofText ((rowOf? viramaRows "virama").getD "")

/-- Whether a character has a joining type. -/
def hasJoining (type : String) (c : Char) : Bool :=
  ((rowOf? joiningRows type).map fun text => (CodeTable.ofText text).contains c).getD false

/-- Whether every joiner of a label stands where it changes how letters are joined.  `before` holds the
characters before the rest of the label, the nearest first. -/
def hasSoundJoiners (before : List Char) : List Char → Bool
  | [] => true
  | c :: rest =>
    let afterVirama := (before.head?.map viramas.contains).getD false
    let here :=
      if c.toNat == 0x200D then afterVirama
      else if c.toNat == 0x200C then
        afterVirama ||
        (((before.dropWhile (hasJoining "T")).head?.map
            fun d => hasJoining "L" d || hasJoining "D" d).getD false &&
          ((rest.dropWhile (hasJoining "T")).head?.map
            fun d => hasJoining "R" d || hasJoining "D" d).getD false)
      else true
    here && hasSoundJoiners (c :: before) rest

/-! ## Labels and domains -/

/-- Whether a label beyond ASCII may stand in a domain name. -/
def isSoundLabel (label : List Char) : Bool :=
  label.all isLabelChar && !(label.head?.map isMark).getD false && hasSoundJoiners [] label

/-- Whether a character is its own common form. -/
def isCommonForm (c : Char) : Bool :=
  c.toNat < 0x80 || isKeptAsIs c || (nameForm c == decompose c && !alteredTable.contains c)

/-- The decoded form of a label, if the label is sound. -/
def decodedLabel? (label : List Char) : Option (List Char) :=
  match label with
  | 'x' :: 'n' :: '-' :: '-' :: encoded =>
    if label.any (fun c => 0x80 ≤ c.toNat) then none
    else
      match Punycode.decode? encoded with
      | some decoded =>
        if decoded.any (fun c => 0x80 ≤ c.toNat) && decoded.all isCommonForm &&
            decoded.all (fun c => !c.isUpper) && isSoundLabel decoded then some decoded
        else none
      | none => none
  | _ => if isSoundLabel label then some label else none

/-- The common form of a domain name, if all its labels are sound. -/
def domainForm? (domain : List Char) : Option (List Char) :=
  let name := domain.flatMap nameForm
  match (splitOnChar '.' name).mapM decodedLabel? with
  | some labels =>
    if !labels.any isRightToLeft || labels.all hasSoundDirection then some name else none
  | none => none

end CatalogGraph.Uri
