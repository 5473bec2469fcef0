/-!
# Network addresses

The written forms of addresses that may stand for a host: IPv6 in brackets, as eight groups of
hexadecimal digits of which one run may be left out, with the last two perhaps written as IPv4; and the
lenient numeric form of IPv4, with one to four parts in base 8, 10 or 16.
-/

namespace CatalogGraph.Uri

/-- Whether a character is a hexadecimal digit. -/
def isHexDigit (c : Char) : Bool :=
  c.isDigit || ('a' ≤ c && c ≤ 'f') || ('A' ≤ c && c ≤ 'F')

/-- Value of a hexadecimal digit. -/
def hexDigitValue (c : Char) : Nat :=
  if c.isDigit then c.toNat - '0'.toNat else c.toLower.toNat - 'a'.toNat + 10

/-- Value of a numeral. -/
def numeralValue (base : Nat) (cs : List Char) : Nat :=
  cs.foldl (fun n c => n * base + hexDigitValue c) 0

/-- The parts of a text between the occurrences of a character. -/
def splitOnChar (sep : Char) : List Char → List (List Char)
  | [] => [[]]
  | c :: cs =>
    match splitOnChar sep cs with
    | part :: parts => if c == sep then [] :: part :: parts else (c :: part) :: parts
    | [] => [[c]]

/-- Whether a text is a number up to 255 in decimal, without leading zeros. -/
def isOctet (cs : List Char) : Bool :=
  !cs.isEmpty && cs.length ≤ 3 && cs.all Char.isDigit && numeralValue 10 cs ≤ 255 &&
  (cs.length == 1 || cs.head? != some '0')

/-- Whether a text is four such numbers with full stops between them. -/
def isDottedQuad (cs : List Char) : Bool :=
  let parts := splitOnChar '.' cs
  parts.length == 4 && parts.all isOctet

/-- Whether a text is a group of an IPv6 address. -/
def isGroup (cs : List Char) : Bool :=
  !cs.isEmpty && cs.length ≤ 4 && cs.all isHexDigit

/-- How many groups some parts make up, if each is one; the last may be an IPv4 address, which makes up
two. -/
def groupsIn? (mayEndInQuad : Bool) : List (List Char) → Option Nat
  | [] => some 0
  | part :: parts =>
    if isGroup part then (groupsIn? mayEndInQuad parts).map (· + 1)
    else if mayEndInQuad && parts.isEmpty && isDottedQuad part then some 2
    else none

/-- The text before and after the first `::`, if there is one. -/
def splitOnGap : List Char → Option (List Char × List Char)
  | ':' :: ':' :: rest => some ([], rest)
  | c :: rest => (splitOnGap rest).map fun p => (c :: p.1, p.2)
  | [] => none

/-- How many groups a text makes up; none if it is empty. -/
def groupCount? (mayEndInQuad : Bool) (cs : List Char) : Option Nat :=
  if cs.isEmpty then some 0 else groupsIn? mayEndInQuad (splitOnChar ':' cs)

/-- Whether a text is an IPv6 address. -/
def isIpv6 (cs : List Char) : Bool :=
  match splitOnGap cs with
  | some (head, tail) =>
    match groupCount? false head, groupCount? true tail with
    | some m, some n => m + n ≤ 7
    | _, _ => false
  | none => groupCount? true cs == some 8

/-- The value of one part of a numeric IPv4 address; the inner value is missing when it does not fit
into 32 bits. -/
def ipv4Number? (cs : List Char) : Option (Option Nat) :=
  let read (base : Nat) (digits : List Char) : Option (Option Nat) :=
    if digits.isEmpty then some (some 0)
    else if digits.all (fun c => isHexDigit c && hexDigitValue c < base) then
      some (if numeralValue base digits < Nat.pow 2 32 then some (numeralValue base digits) else none)
    else none
  match cs with
  | [] => none
  | '0' :: 'x' :: rest => read 16 rest
  | '0' :: 'X' :: rest => read 16 rest
  | '0' :: c :: rest => read 8 (c :: rest)
  | cs => read 10 cs

/-- The last part of a domain that is not empty: an empty one after the last full stop does not count. -/
def lastPart (domain : List Char) : List Char :=
  match (splitOnChar '.' domain).reverse with
  | [] :: part :: _ => part
  | part :: _ => part
  | [] => []

/-- Whether a domain ends in a number, so that it must be an IPv4 address. -/
def endsInNumber (domain : List Char) : Bool :=
  let part := lastPart domain
  (!part.isEmpty && part.all Char.isDigit) || (ipv4Number? part).isSome

/-- Whether a text is a numeric IPv4 address: up to four parts, of which the last one fills what the
others leave. -/
def isIpv4 (domain : List Char) : Bool :=
  let parts := splitOnChar '.' domain
  let parts := if parts.getLast? == some [] then parts.dropLast else parts
  let numbers := parts.map ipv4Number?
  if 4 < parts.length || numbers.any (fun n => (n.bind id).isNone) then false
  else
    match (numbers.filterMap (·.bind id)).reverse with
    | last :: others => last < Nat.pow 256 (4 - others.length) && others.all (· ≤ 255)
    | [] => false

end CatalogGraph.Uri
