import CatalogGraph.Json.Value

/-!
# JSON numbers

A number without a fraction and an exponent is an integer if it fits 64 bits, with or without a sign.
Any other number is a floating-point number: as many of its leading digits as fit 64 bits, scaled by a
power of ten.  A number that is too large is out of range.
-/

namespace CatalogGraph.Json

/-- A number as it is written.  The digits of the fraction are there if there is a decimal point; the
exponent has a sign and digits. -/
structure Numeral where
  negative : Bool
  whole : List Char
  fraction : Option (List Char)
  exponent : Option (Bool × List Char)
  deriving DecidableEq, Repr

/-- The value of a digit. -/
def digitValue (c : Char) : Nat := c.toNat - '0'.toNat

/-- The value of digits after those that make `n`, as long as it stays below a bound, and the digits
that are left. -/
def accumulate (bound n : Nat) : List Char → Nat × List Char
  | [] => (n, [])
  | c :: cs =>
    if n * 10 + digitValue c < bound then accumulate bound (n * 10 + digitValue c) cs else (n, c :: cs)

/-- A power of ten as a floating-point number. -/
def powerOfTen (n : Nat) : Float := Float.ofScientific 1 false n

/-- The greatest exponent of a power of ten that is a floating-point number. -/
def maxPower : Nat := 308

/-- A number divided by a power of ten, by the greatest power there is as long as that is needed. -/
def scaleDown (x : Float) (n : Nat) : Float :=
  if n ≤ maxPower then x / powerOfTen n
  else if x == 0 then x
  else scaleDown (x / powerOfTen maxPower) (n - maxPower)
termination_by n
decreasing_by simp only [maxPower] at *; omega

/-- A number times a power of ten, if that is in range. -/
def scale? (x : Float) (e : Int) : Option Float :=
  if e < 0 then some (scaleDown x e.natAbs)
  else if e.natAbs ≤ maxPower then
    if (x * powerOfTen e.natAbs).isInf then none else some (x * powerOfTen e.natAbs)
  else if x == 0 then some x else none

/-- A number with its sign. -/
def signed (negative : Bool) (x : Float) : Float := if negative then -x else x

namespace Numeral

/-- The exponent that is written after `start`.  An exponent that does not fit 32 bits counts as one
that is out of all bounds. -/
def exponentFrom (start : Int) : Option (Bool × List Char) → Int
  | none => start
  | some (negative, digits) =>
    match accumulate (Nat.pow 2 31) 0 digits with
    | (n, []) => if negative then start - n else start + n
    | (_, _ :: _) => if negative then -(Nat.pow 2 31 : Int) else (Nat.pow 2 31 : Int)

/-- The floating-point number, if it is in range. -/
def float? (n : Numeral) : Option Float :=
  let (head, unread) := accumulate (Nat.pow 2 64) 0 n.whole
  let fraction := n.fraction.getD []
  let (significand, ignored) := accumulate (Nat.pow 2 64) head fraction
  let start : Int := unread.length - (fraction.length - ignored.length : Nat)
  (scale? significand.toUInt64.toFloat (exponentFrom start n.exponent)).map (signed n.negative)

/-- The integer, if the number is written as one and fits 64 bits. -/
def integer? (n : Numeral) : Option Int :=
  match n.fraction, n.exponent, accumulate (Nat.pow 2 64) 0 n.whole with
  | none, none, (m, []) =>
    if !n.negative then some (m : Int)
    else if 0 < m ∧ m ≤ Nat.pow 2 63 then some (-(m : Int)) else none
  | _, _, _ => none

/-- The value of a number. -/
def value (n : Numeral) : Json :=
  match n.integer? with
  | some i => .integer i
  | none =>
    match n.float? with
    | some x => .decimal x
    | none => .senseless

/-- Splits off the digits at the start. -/
def spanDigits (cs : List Char) : List Char × List Char :=
  (cs.takeWhile Char.isDigit, cs.dropWhile Char.isDigit)

/-- The whole part: a single zero, or digits that do not start with one. -/
def readWhole? (cs : List Char) : Option (List Char × List Char) :=
  match spanDigits cs with
  | ([], _) => none
  | ('0' :: _ :: _, _) => none
  | split => some split

/-- The fraction, if there is a decimal point. -/
def readFraction? : List Char → Option (Option (List Char) × List Char)
  | '.' :: cs =>
    match spanDigits cs with
    | ([], _) => none
    | (digits, rest) => some (some digits, rest)
  | cs => some (none, cs)

/-- The digits of an exponent. -/
def readPower? (negative : Bool) (cs : List Char) :
    Option (Option (Bool × List Char) × List Char) :=
  match spanDigits cs with
  | ([], _) => none
  | (digits, rest) => some (some (negative, digits), rest)

/-- The exponent, if there is one. -/
def readExponent? : List Char → Option (Option (Bool × List Char) × List Char)
  | c :: cs =>
    if c == 'e' || c == 'E' then
      match cs with
      | '+' :: digits => readPower? false digits
      | '-' :: digits => readPower? true digits
      | digits => readPower? false digits
    else some (none, c :: cs)
  | [] => some (none, [])

/-- The number at the start of a text. -/
def read? (cs : List Char) : Option (Numeral × List Char) := do
  let negative := cs.head? == some '-'
  let (whole, cs) ← readWhole? (if negative then cs.drop 1 else cs)
  let (fraction, cs) ← readFraction? cs
  let (exponent, cs) ← readExponent? cs
  some (⟨negative, whole, fraction, exponent⟩, cs)

end Numeral

end CatalogGraph.Json
