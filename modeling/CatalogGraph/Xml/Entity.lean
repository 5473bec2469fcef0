/-!
# References

A reference in text or in the value of an attribute stands between `&` and `;`.  It is one of the five
names that need no declaration, or the code point of a character other than NUL, in decimal or, after
`x`, in hexadecimal digits.
-/

namespace CatalogGraph.Xml

/-- The value of a digit in a base of up to sixteen. -/
def digitValue? (base : Nat) (c : Char) : Option Nat :=
  let n :=
    if c.isDigit then some (c.toNat - '0'.toNat)
    else if 'a' ≤ c ∧ c ≤ 'f' then some (c.toNat - 'a'.toNat + 10)
    else if 'A' ≤ c ∧ c ≤ 'F' then some (c.toNat - 'A'.toNat + 10)
    else none
  n.filter (· < base)

/-- The value of a numeral of at most so many digits. -/
def numeralValue? (base limit : Nat) (cs : List Char) : Option Nat :=
  if limit < cs.length then none
  else cs.foldlM (fun n c => (digitValue? base c).map (n * base + ·)) 0

/-- The character with a code point. -/
def charAt? (n : Nat) : Option Char :=
  if h : n.isValidChar then if n = 0 then none else some (Char.ofNatAux n h) else none

/-- The character that a reference stands for. -/
def referenced? : List Char → Option Char
  | '#' :: 'x' :: digits => (numeralValue? 16 6 digits).bind charAt?
  | '#' :: digits => (numeralValue? 10 7 digits).bind charAt?
  | ['l', 't'] => some '<'
  | ['g', 't'] => some '>'
  | ['a', 'm', 'p'] => some '&'
  | ['a', 'p', 'o', 's'] => some '\x27'
  | ['q', 'u', 'o', 't'] => some '"'
  | _ => none

/-- Text with its references resolved.  `reference` holds the characters of the reference that is being
read, in reverse order. -/
def resolveFrom (reference : Option (List Char)) : List Char → Option (List Char)
  | [] => if reference.isNone then some [] else none
  | c :: cs =>
    match reference with
    | none => if c == '&' then resolveFrom (some []) cs else (resolveFrom none cs).map (c :: ·)
    | some name =>
      if c == ';' then
        (referenced? name.reverse).bind fun d => (resolveFrom none cs).map (d :: ·)
      else if c == '&' then none
      else resolveFrom (some (c :: name)) cs

/-- Text with its references resolved, if all of them can be. -/
def resolve? (cs : List Char) : Option (List Char) := resolveFrom none cs

end CatalogGraph.Xml
