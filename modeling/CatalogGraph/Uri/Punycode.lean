/-!
# Punycode

The decoding of a label that was written in ASCII.  The characters before the last hyphen are literal;
the rest is a chain of numbers in base 36, each of which says how far to go on through the code points
and the places of the label before the next character is put in.  The threshold of each digit follows a
bias that adapts to the numbers read so far.
-/

namespace CatalogGraph.Uri.Punycode

/-- Value of a digit in base 36. -/
def digit? (c : Char) : Option Nat :=
  if c.isLower then some (c.toNat - 'a'.toNat)
  else if c.isUpper then some (c.toNat - 'A'.toNat)
  else if c.isDigit then some (c.toNat - '0'.toNat + 26)
  else none

/-- The threshold of the digit at weight step `k`. -/
def threshold (k bias : Nat) : Nat :=
  if k ≤ bias then 1 else if bias + 26 ≤ k then 26 else k - bias

/-- Divides until the number is small and counts by 36 how often. -/
def shrink (delta k : Nat) : Nat × Nat :=
  if 455 < delta then shrink (delta / 35) (k + 36) else (delta, k)
  termination_by delta
  decreasing_by exact Nat.div_lt_self (by omega) (by omega)

/-- The bias after a number, for a label that now has `size` characters. -/
def adapt (delta size : Nat) (first : Bool) : Nat :=
  let delta := if first then delta / 700 else delta / 2
  let (delta, k) := shrink (delta + delta / size) 0
  k + 36 * delta / (delta + 38)

/-- Reads one number: the sum of its weighted digits, and the rest of the text. -/
def readNumber? (bias : Nat) : Nat → Nat → Nat → List Char → Option (Nat × List Char)
  | _, _, _, [] => none
  | k, weight, sum, c :: cs => do
    let d ← digit? c
    let sum := sum + d * weight
    if Nat.pow 2 31 ≤ sum then none
    else if d < threshold k bias then some (sum, cs)
    else readNumber? bias (k + 36) (weight * (36 - threshold k bias)) sum cs

/-- Puts the characters that the rest of a text encodes into a label, from the code point and place of
the last one on; `fuel` bounds their number. -/
def insertAll? : Nat → Nat → Nat → Nat → List Nat → List Char → Option (List Nat)
  | 0, _, _, _, _, _ => none
  | _ + 1, _, _, _, label, [] => some label
  | fuel + 1, code, start, bias, label, cs => do
    let (delta, rest) ← readNumber? bias 36 1 0 cs
    let size := label.length + 1
    let code := code + (start + delta) / size
    let place := (start + delta) % size
    if 0x10FFFF < code ∨ (0xD800 ≤ code ∧ code ≤ 0xDFFF) then none
    else
      insertAll? fuel code (place + 1) (adapt delta size (start == 0))
        (label.take place ++ code :: label.drop place) rest

/-- The label that a text encodes. -/
def decode? (cs : List Char) : Option (List Char) :=
  let tail := (cs.reverse.takeWhile (· != '-')).reverse
  let head := cs.take (cs.length - tail.length)
  if head.length == 1 then none
  else
    (insertAll? (cs.length + 1) 128 0 72 (head.dropLast.map Char.toNat) tail).map
      (·.map Char.ofNat)

end CatalogGraph.Uri.Punycode
