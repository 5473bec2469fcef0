import CatalogGraph.Digest.Md5
import CatalogGraph.Text.White

/-!
# Subject URIs

The URI of a record is made from its identifier.  The identifier is read as an integer: white space
before it, one sign and leading zeros do not count, nor does what follows its digits, and without digits
it reads as zero.  So identifiers that write the same number name the same subject.
-/

namespace CatalogGraph.Conversion

/-- The numeral that an identifier is read as. -/
def integerReading (identifier : String) : String :=
  let cs := Text.trimStartChars identifier.toList
  let negative := cs.head? == some '-'
  let rest := if negative || cs.head? == some '+' then cs.drop 1 else cs
  let digits := (rest.takeWhile Char.isDigit).dropWhile (· == '0')
  if digits.isEmpty then "0"
  else String.ofList (if negative then '-' :: digits else digits)

/-- The URI of the record with an identifier. -/
def subjectUri (host identifier : String) : String :=
  "http://" ++ host ++ "/publication/p" ++ Digest.Md5.hex (integerReading identifier)

end CatalogGraph.Conversion
