import CatalogGraph.Text.White
import CatalogGraph.Unicode.CaseFoldingRows
import CatalogGraph.Unicode.Property

/-!
# Sets of characters

The set that one character of a pattern is matched against, kept as the expression it was written as.
Membership follows the expression, so the laws of union, intersection and complement hold by
definition and no arithmetic on intervals is needed.
-/

namespace CatalogGraph.Regex

open CatalogGraph.Unicode

/-- A set of characters. -/
inductive CharSet
  /-- No character. -/
  | none
  /-- All characters from the first to the last. -/
  | interval (first last : Char)
  /-- The word characters of all scripts. -/
  | word
  /-- The decimal digits of all scripts. -/
  | digit
  /-- The characters that are white space. -/
  | white
  /-- The characters with a property of the standard. -/
  | property (p : PropertySet)
  /-- The characters outside a set. -/
  | outside (s : CharSet)
  | union (s t : CharSet)
  | inter (s t : CharSet)
  /-- The characters that differ only in case from one of the set. -/
  | anyCase (s : CharSet)
  /-- The characters that differ only in ASCII case from one of the set. -/
  | anyAsciiCase (s : CharSet)

/-- The other characters that differ from a character only in case. -/
def caseVariantMap : CodeMap := CodeMap.ofText caseVariantText

/-- The other characters that differ from `c` only in case. -/
def caseVariants (c : Char) : List Char :=
  (caseVariantMap.find? c).getD []

/-- The same ASCII letter in the other case, if `c` is an ASCII letter. -/
def asciiCaseVariants (c : Char) : List Char :=
  if c.isLower then [c.toUpper] else if c.isUpper then [c.toLower] else []

namespace CharSet

/-- Whether a character belongs to the set. -/
def contains : CharSet → Char → Bool
  | none, _ => false
  | interval first last, c => first.toNat ≤ c.toNat && c.toNat ≤ last.toNat
  | word, c => isWord c
  | digit, c => isDecimalDigit c
  | white, c => Text.isWhite c
  | property p, c => p.contains c
  | outside s, c => !s.contains c
  | union s t, c => s.contains c || t.contains c
  | inter s t, c => s.contains c && t.contains c
  | anyCase s, c => s.contains c || (caseVariants c).any fun d => s.contains d
  | anyAsciiCase s, c => s.contains c || (asciiCaseVariants c).any fun d => s.contains d

/-- The set of one character. -/
def single (c : Char) : CharSet := interval c c

/-- The set of the characters of a list of intervals. -/
def ofIntervals (l : List (Char × Char)) : CharSet :=
  l.foldl (fun s i => union s (interval i.1 i.2)) none

/-- The complement of the set, if asked for. -/
def negateIf (negated : Bool) (s : CharSet) : CharSet :=
  if negated then outside s else s

/-- The characters of exactly one of two sets. -/
def symmDiff (s t : CharSet) : CharSet :=
  union (inter s (outside t)) (inter t (outside s))

/-- Whether no character from U+0080 to U+00FF belongs to the set, that is, whether a set over bytes
holds ASCII alone. -/
def isAscii (s : CharSet) : Bool :=
  (List.range 128).all fun n => !s.contains (Char.ofNat (n + 128))

/-- How many intervals beyond ASCII the set is made of, roughly; the one up to the last code point
counts as many, since its characters take byte sequences of each length. -/
def weight : CharSet → Nat
  | none => 0
  | interval _ last => if last.toNat < 0x80 then 0 else 1
  | word => 750
  | digit => 64
  | white => 10
  | property p => p.intervalCount + if p.outside then 15 else 0
  | outside s => s.weight + 15
  | union s t => s.weight + t.weight
  | inter s t => s.weight + t.weight
  | anyCase s => s.weight + 1
  | anyAsciiCase s => s.weight

/-- How much room the set takes in a pattern, roughly in bytes: so much for each byte of a single
character, so much for a set within ASCII, and else by the number of intervals. -/
def room (s : CharSet) : Nat :=
  match s with
  | interval first last =>
    if first == last then 32 * first.utf8Size else if s.weight == 0 then 72 else 126
  | _ => 64 + if s.weight == 0 then 32 else 62 * s.weight

/-- The ASCII classes that are written by name, such as `[:alpha:]`. -/
def ascii? : String → Option CharSet
  | "alnum" => some (ofIntervals [('0', '9'), ('A', 'Z'), ('a', 'z')])
  | "alpha" => some (ofIntervals [('A', 'Z'), ('a', 'z')])
  | "ascii" => some (ofIntervals [('\x00', '\x7F')])
  | "blank" => some (ofIntervals [('\t', '\t'), (' ', ' ')])
  | "cntrl" => some (ofIntervals [('\x00', '\x1F'), ('\x7F', '\x7F')])
  | "digit" => some (ofIntervals [('0', '9')])
  | "graph" => some (ofIntervals [('!', '~')])
  | "lower" => some (ofIntervals [('a', 'z')])
  | "print" => some (ofIntervals [(' ', '~')])
  | "punct" => some (ofIntervals [('!', '/'), (':', '@'), ('[', '\x60'), ('\x7B', '~')])
  | "space" => some (ofIntervals [('\t', '\r'), (' ', ' ')])
  | "upper" => some (ofIntervals [('A', 'Z')])
  | "word" => some (ofIntervals [('0', '9'), ('A', 'Z'), ('_', '_'), ('a', 'z')])
  | "xdigit" => some (ofIntervals [('0', '9'), ('A', 'F'), ('a', 'f')])
  | _ => Option.none

end CharSet

end CatalogGraph.Regex
