/-!
# Shortest decimals

The decimal text of a floating-point number: the fewest digits that read back as the same number, of
these the nearest to it (the greater one of two equally near), written out without an exponent.

A finite number is `m · 2 ^ q`.  The reals that round to it form an interval around it that reaches half
a unit to either side (a quarter below a power of two), with its ends if `m` is even.  The digits are
found on the coarsest grid of powers of ten that has a point in the interval; all arithmetic is exact.
-/

namespace CatalogGraph.Decimal

/-- A positive number `m · 2 ^ q`; `narrow` tells that the numbers below it are closer than those
above. -/
structure Binary where
  m : Nat
  q : Int
  narrow : Bool
  deriving DecidableEq, Repr

namespace Binary

/-- `n` quarters of a unit of the number against `d` times a power of ten, as two numerators over one
denominator. -/
def scaled (b : Binary) (n d : Nat) (e : Int) : Nat × Nat :=
  (n * Nat.pow 2 (b.q - 2).toNat * Nat.pow 10 (-e).toNat,
    d * Nat.pow 10 e.toNat * Nat.pow 2 (2 - b.q).toNat)

/-- Whether `d · 10 ^ e` rounds to the number. -/
def rounds (b : Binary) (d : Nat) (e : Int) : Bool :=
  let (low, point) := b.scaled (4 * b.m - if b.narrow then 1 else 2) d e
  let (high, _) := b.scaled (4 * b.m + 2) d e
  if b.m % 2 = 0 then low ≤ point && point ≤ high else low < point && point < high

/-- The greatest multiple of `10 ^ e` that is not above the number, by its factor. -/
def floorAt (b : Binary) (e : Int) : Nat :=
  let (value, unit) := b.scaled (4 * b.m) 1 e
  value / unit

/-- Whether the number is nearer to `d · 10 ^ e` than to the next multiple. -/
def nearerBelow (b : Binary) (d : Nat) (e : Int) : Bool :=
  let (value, sum) := b.scaled (8 * b.m) (2 * d + 1) e
  value < sum

/-- The point of the grid of `10 ^ e` that stands for the number, by its factor, if there is one. -/
def onGrid? (b : Binary) (e : Int) : Option Nat :=
  let d := b.floorAt e
  match b.rounds d e, b.rounds (d + 1) e with
  | true, true => some (if b.nearerBelow d e then d else d + 1)
  | true, false => some d
  | false, true => some (d + 1)
  | false, false => none

/-- The exponents of all grids that a double can need, the coarsest first. -/
def gridExponents : List Int :=
  (List.range 660).map fun (i : Nat) => 310 - (i : Int)

/-- The shortest decimal of the number, as a factor and the exponent of a power of ten. -/
def shortest (b : Binary) : Nat × Int :=
  (gridExponents.findSome? fun e => (b.onGrid? e).map fun d => (d, e)).getD (0, 0)

end Binary

/-- `d · 10 ^ e` in digits, with a decimal point only before places after it. -/
def positional (d : Nat) (e : Int) : String :=
  let digits := (toString d).toList
  if 0 ≤ e then String.ofList (digits ++ List.replicate e.toNat '0')
  else
    let places := (-e).toNat
    let padded := List.replicate (places + 1 - digits.length) '0' ++ digits
    String.ofList (padded.take (padded.length - places) ++ '.' :: padded.drop (padded.length - places))

/-- The text of a finite floating-point number. -/
def ofFloat (x : Float) : String :=
  let bits := x.toBits.toNat
  let sign := if bits / Nat.pow 2 63 = 1 then "-" else ""
  let exponent : Nat := bits / Nat.pow 2 52 % Nat.pow 2 11
  let fraction : Nat := bits % Nat.pow 2 52
  if exponent = 0 ∧ fraction = 0 then sign ++ "0"
  else
    let b : Binary :=
      if exponent = 0 then ⟨fraction, -1074, false⟩
      else ⟨Nat.pow 2 52 + fraction, (exponent : Int) - 1075, fraction = 0 ∧ 1 < exponent⟩
    let (d, e) := b.shortest
    sign ++ positional d e

end CatalogGraph.Decimal
