/-!
# White space

White space is the Unicode property of that name.  The zero-width space, the byte order mark and the
separators below U+0020 do not have it.  A text is *blank* when nothing is left of it after trimming.
-/

namespace CatalogGraph.Text

/-- Whether `c` is white space. -/
def isWhite (c : Char) : Bool :=
  c == ' ' || (0x09 ≤ c.toNat && c.toNat ≤ 0x0D) || c.toNat == 0x85 || c.toNat == 0xA0 ||
  c.toNat == 0x1680 || (0x2000 ≤ c.toNat && c.toNat ≤ 0x200A) || c.toNat == 0x2028 ||
  c.toNat == 0x2029 || c.toNat == 0x202F || c.toNat == 0x205F || c.toNat == 0x3000

/-- A list without the elements at its end that satisfy `p`. -/
def dropEndWhile {α : Type} (p : α → Bool) (xs : List α) : List α :=
  (xs.reverse.dropWhile p).reverse

/-- Characters without white space at the start. -/
def trimStartChars (cs : List Char) : List Char :=
  cs.dropWhile isWhite

/-- Characters without white space at either end. -/
def trimChars (cs : List Char) : List Char :=
  dropEndWhile isWhite (trimStartChars cs)

/-- A text without white space at either end. -/
def trim (s : String) : String :=
  String.ofList (trimChars s.toList)

/-- Whether a text holds nothing but white space. -/
def isBlank (s : String) : Bool :=
  s.toList.all isWhite

end CatalogGraph.Text
