import CatalogGraph.Regex.CharSet

/-!
# Patterns

The tree of a regular expression: single characters, conditions on the place between two characters,
concatenation, choice, repetition and numbered groups.  There is no look-around beyond the neighbouring
characters and no reference back to a group.

A choice prefers its left side and a greedy repetition prefers another round; these preferences decide
which of several matches at one place is the match.
-/

namespace CatalogGraph.Regex

/-- A condition on the characters before and after a place in the text. -/
inductive Look
  | textStart
  | textEnd
  | lineStart
  | lineEnd
  /-- The start of a line where a line ends in `\r`, `\n` or `\r\n`. -/
  | anyLineStart
  | anyLineEnd
  | wordBoundary (ascii : Bool)
  | notWordBoundary (ascii : Bool)
  | wordStart (ascii : Bool)
  | wordEnd (ascii : Bool)
  | wordStartHalf (ascii : Bool)
  | wordEndHalf (ascii : Bool)

namespace Look

/-- Whether a neighbouring character is a word character; there may be no neighbour. -/
def isWordAt (ascii : Bool) : Option Char → Bool
  | none => false
  | some c => if ascii then c.isAlphanum || c == '_' else Unicode.isWord c

/-- Whether the condition holds between two neighbours. -/
def holds (l : Look) (before after : Option Char) : Bool :=
  match l with
  | textStart => before.isNone
  | textEnd => after.isNone
  | lineStart => before.isNone || before == some '\n'
  | lineEnd => after.isNone || after == some '\n'
  | anyLineStart =>
    before.isNone || before == some '\n' || (before == some '\r' && after != some '\n')
  | anyLineEnd =>
    after.isNone || after == some '\r' || (after == some '\n' && before != some '\r')
  | wordBoundary ascii => isWordAt ascii before != isWordAt ascii after
  | notWordBoundary ascii => isWordAt ascii before == isWordAt ascii after
  | wordStart ascii => !isWordAt ascii before && isWordAt ascii after
  | wordEnd ascii => isWordAt ascii before && !isWordAt ascii after
  | wordStartHalf ascii => !isWordAt ascii before
  | wordEndHalf ascii => !isWordAt ascii after

end Look

/-- The tree of a regular expression. -/
inductive Pattern
  | empty
  | one (s : CharSet)
  | look (l : Look)
  | seq (p q : Pattern)
  | alt (p q : Pattern)
  /-- At least `least` and, where a bound is given, at most `most` rounds of a pattern. -/
  | rep (p : Pattern) (least : Nat) (most : Option Nat) (greedy : Bool)
  | group (index : Nat) (p : Pattern)

namespace Pattern

/-- Whether the pattern may match the empty text. -/
def canBeEmpty : Pattern → Bool
  | empty => true
  | one _ => false
  | look _ => true
  | seq p q => p.canBeEmpty && q.canBeEmpty
  | alt p q => p.canBeEmpty || q.canBeEmpty
  | rep p least _ _ => least == 0 || p.canBeEmpty
  | group _ p => p.canBeEmpty

/-- Whether the pattern matches nothing but the empty text. -/
def isEmptyOnly : Pattern → Bool
  | empty => true
  | one _ => false
  | look _ => true
  | seq p q => p.isEmptyOnly && q.isEmptyOnly
  | alt p q => p.isEmptyOnly && q.isEmptyOnly
  | rep p _ most _ => most == some 0 || p.isEmptyOnly
  | group _ p => p.isEmptyOnly

/-- A repetition.  More than one round of a pattern that matches only the empty text is one round, no
round at all is the empty pattern, and exactly one round is the pattern itself. -/
def times (p : Pattern) (least : Nat) (most : Option Nat) (greedy : Bool) : Pattern :=
  let bounds := if p.isEmptyOnly then (min least 1, some (min (most.getD 1) 1)) else (least, most)
  match bounds with
  | (0, some 0) => empty
  | (1, some 1) => p
  | (least, most) => rep p least most greedy

/-- The patterns of a list one after the other. -/
def sequence : List Pattern → Pattern
  | [] => empty
  | [p] => p
  | p :: ps => seq p (sequence ps)

/-- The choice between the patterns of a list, the first one preferred. -/
def choice : List Pattern → Pattern
  | [] => empty
  | [p] => p
  | p :: ps => alt p (choice ps)

/-- One more than the largest number of a group, so that group 0, the whole match, is counted. -/
def groupCount : Pattern → Nat
  | empty | one _ | look _ => 1
  | seq p q | alt p q => max p.groupCount q.groupCount
  | rep p _ _ _ => p.groupCount
  | group i p => max (i + 1) p.groupCount

/-- How much room the pattern takes when every repetition is written out, roughly in bytes.  A round
that may be left out, and one that may be followed by another, also needs a fork. -/
def room : Pattern → Nat
  | empty => 32
  | one s => s.room
  | look _ => 32
  | seq p q => p.room + q.room
  | alt p q => p.room + q.room + 40
  | rep p least (some most) _ => least * p.room + (most - least) * (p.room + 40)
  | rep p least none _ => max 1 least * p.room + 40
  | group _ p => p.room + 64

/-- The largest room a pattern may take. -/
def maxRoom : Nat := 10 * Nat.pow 2 20

end Pattern

end CatalogGraph.Regex
