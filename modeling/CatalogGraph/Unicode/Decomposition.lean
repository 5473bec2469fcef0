import CatalogGraph.Unicode.CodeTable
import CatalogGraph.Unicode.DecompositionRows

/-!
# Compatibility decomposition

What a single character is made of: letters, marks and digits without font or width.  A Hangul
syllable splits into its two or three jamo by arithmetic, every other character by table.  The marks
of a decomposition are in the order of the table; no reordering across characters is done.
-/

namespace CatalogGraph.Unicode

/-- The full decompositions of the characters that have one, Hangul apart. -/
def decompositionMap : CodeMap := CodeMap.ofText decompositionText

/-- The jamo of a Hangul syllable: leading consonant, vowel and, where there is one, the final
consonant. -/
def hangulJamo (syllable : Nat) : List Char :=
  let final := syllable % 28
  let start := [Char.ofNat (0x1100 + syllable / 588), Char.ofNat (0x1161 + syllable % 588 / 28)]
  if final = 0 then start else start ++ [Char.ofNat (0x11A7 + final)]

/-- The full compatibility decomposition of one character. -/
def decompose (c : Char) : List Char :=
  if c.toNat < 0x80 then [c]
  else if 0xAC00 ≤ c.toNat ∧ c.toNat ≤ 0xD7A3 then hangulJamo (c.toNat - 0xAC00)
  else (decompositionMap.find? c).getD [c]

end CatalogGraph.Unicode
