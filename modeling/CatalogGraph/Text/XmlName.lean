/-!
# XML names

The characters that can start an XML name, and those that can stand in one.
-/

namespace CatalogGraph.Text

/-- Whether a name can start with a character. -/
def isXmlNameStart (c : Char) : Bool :=
  let n := c.toNat
  c == ':' || c == '_' || c.isAlpha || (0xC0 ≤ n && n ≤ 0xD6) || (0xD8 ≤ n && n ≤ 0xF6) ||
  (0xF8 ≤ n && n ≤ 0x2FF) || (0x370 ≤ n && n ≤ 0x37D) || (0x37F ≤ n && n ≤ 0x1FFF) ||
  (0x200C ≤ n && n ≤ 0x200D) || (0x2070 ≤ n && n ≤ 0x218F) || (0x2C00 ≤ n && n ≤ 0x2FEF) ||
  (0x3001 ≤ n && n ≤ 0xD7FF) || (0xF900 ≤ n && n ≤ 0xFDCF) || (0xFDF0 ≤ n && n ≤ 0xFFFD) ||
  (0x10000 ≤ n && n ≤ 0xEFFFF)

/-- Whether a character can stand in a name. -/
def isXmlNameChar (c : Char) : Bool :=
  let n := c.toNat
  isXmlNameStart c || c == '-' || c == '.' || c.isDigit || n == 0xB7 || (0x300 ≤ n && n ≤ 0x36F) ||
  (0x203F ≤ n && n ≤ 0x2040)

end CatalogGraph.Text
