import CatalogGraph.Json.Value
import CatalogGraph.Yaml.Token

/-!
# Values of YAML scalars

A scalar is text unless it is plain and written like something else: nothing, a truth value, or a number.
A tag may call for one of these.  Integers may be written in hexadecimal, octal or binary digits; an
integer that does not fit 64 bits but does fit 128 has no value.  Digits after a leading zero are text.
Infinities, and what is not a number, count as nothing.
-/

namespace CatalogGraph.Yaml

/-! ## Integers -/

/-- The number that digits in a base write.  There must be a digit. -/
def digitsIn? (base : Nat) (cs : List Char) : Option Nat :=
  if cs.isEmpty then none
  else cs.foldlM (fun n c => do
    let d ← Json.hexValue? c
    if d < base then some (n * base + d) else none) 0

/-- Whether there is more than one digit, and the first one is zero. -/
def hasLeadingZero (cs : List Char) : Bool :=
  1 < cs.length && cs.head? == some '0' && cs.all Char.isDigit

/-- The number that is written without a sign. -/
def magnitude? : List Char → Option Nat
  | '0' :: 'x' :: cs => digitsIn? 16 cs
  | '0' :: 'o' :: cs => digitsIn? 8 cs
  | '0' :: 'b' :: cs => digitsIn? 2 cs
  | cs => if hasLeadingZero cs then none else digitsIn? 10 cs

/-- The integer that is written. -/
def integer? : List Char → Option Int
  | '+' :: cs => (magnitude? cs).map fun n => (n : Int)
  | '-' :: cs => (magnitude? cs).map fun n => -(n : Int)
  | cs => (magnitude? cs).map fun n => (n : Int)

/-- Whether an integer fits so many bits, with a sign or without one. -/
def fits (bits : Nat) (n : Int) : Bool :=
  -(Nat.pow 2 (bits - 1) : Int) ≤ n && n < (Nat.pow 2 bits : Int)

/-! ## Floating-point numbers -/

/-- An exponent that is out of all bounds for any number that is not zero. -/
def exponentBound : Nat := 400

/-- The number `n` times a power of ten, `n` having so many digits.  This may be infinite. -/
def scaled (n digits : Nat) (exponent : Int) : Float :=
  if n = 0 || exponent + digits < -exponentBound then 0
  else if (exponentBound : Int) < exponent + digits then Float.ofScientific 1 false exponentBound
  else Float.ofScientific n (exponent < 0) exponent.natAbs

/-- The exponent after a number, if there is one and nothing after it. -/
def exponentOf? : List Char → Option Int
  | [] => some 0
  | e :: cs =>
    if e == 'e' || e == 'E' then
      match cs with
      | '+' :: digits => (digitsIn? 10 digits).map fun n => (n : Int)
      | '-' :: digits => (digitsIn? 10 digits).map fun n => -(n : Int)
      | digits => (digitsIn? 10 digits).map fun n => (n : Int)
    else none

/-- The number that is written without a sign in decimal digits, with a point and an exponent if they are
there. -/
def decimalMagnitude? (cs : List Char) : Option Float := do
  let whole := cs.takeWhile Char.isDigit
  let cs := cs.drop whole.length
  let fraction := if cs.head? == some '.' then (cs.drop 1).takeWhile Char.isDigit else []
  let cs := if cs.head? == some '.' then cs.drop (fraction.length + 1) else cs
  let n ← digitsIn? 10 (whole ++ fraction)
  let exponent ← exponentOf? cs
  some (scaled n (whole.length + fraction.length) (exponent - fraction.length))

/-- The finite number that is written in decimal digits. -/
def decimal? (cs : List Char) : Option Float := do
  let x ← match cs with
    | '+' :: cs => decimalMagnitude? cs
    | '-' :: cs => (decimalMagnitude? cs).map fun x => -x
    | cs => decimalMagnitude? cs
  if x.isFinite then some x else none

/-- The names of infinities, and of what is not a number. -/
def limitNames : List String := [
  ".inf", ".Inf", ".INF", "+.inf", "+.Inf", "+.INF", "-.inf", "-.Inf", "-.INF", ".nan", ".NaN", ".NAN"]

/-- The value of a number with or without a point. -/
def numberValue? (cs : List Char) : Option Json :=
  if limitNames.contains (String.ofList cs) then some .null else (decimal? cs).map .decimal

/-! ## Scalars -/

/-- The names of nothing. -/
def nullNames : List String := ["null", "Null", "NULL", "~"]

/-- The truth value with a name. -/
def truth? (s : String) : Option Bool :=
  if ["true", "True", "TRUE"].contains s then some true
  else if ["false", "False", "FALSE"].contains s then some false
  else none

/-- The value of a plain scalar, if it has one. -/
def plainValue? (cs : List Char) : Option Json :=
  let s := String.ofList cs
  let other := some (if hasLeadingZero (cs.dropWhile fun c => c == '-' || c == '+') then .string s
    else (numberValue? cs).getD (.string s))
  if cs.isEmpty || nullNames.contains s then some .null
  else
    match truth? s with
    | some b => some (.bool b)
    | none =>
      match integer? cs with
      | some n => if fits 64 n then some (.integer n) else if fits 128 n then none else other
      | none => other

/-- A tag of the core schema. -/
def coreTag (name : String) : Octets := octetsOf ("tag:yaml.org,2002:" ++ name).toList

/-- Whether a tag starts with an exclamation mark. -/
def isMarked (tag : Octets) : Bool := tag.head? == some '!'.toNat.toUInt8

/-- Whether a tag belongs to a single document: it is marked, and the rest of it is text. -/
def isLocal (tag : Octets) : Bool :=
  isMarked tag && (String.fromUTF8? ⟨(tag.drop 1).toArray⟩).isSome

/-- The value of a scalar, if it has one. -/
def scalarValue? (tag : Option Octets) (plain : Bool) (cs : List Char) : Option Json :=
  let s := String.ofList cs
  match tag with
  | none => if plain then plainValue? cs else some (.string s)
  | some tag =>
    if isLocal tag then none
    else if tag == coreTag "bool" then (truth? s).map .bool
    else if tag == coreTag "int" then do
      let n ← integer? cs
      if fits 64 n then some (.integer n) else none
    else if tag == coreTag "float" then numberValue? cs
    else if tag == coreTag "null" then if nullNames.contains s then some .null else none
    else if isMarked tag && plain then plainValue? cs
    else some (.string s)

end CatalogGraph.Yaml
