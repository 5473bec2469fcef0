import CatalogGraph.Mapping.Spec
import CatalogGraph.Text.Lowercase
import CatalogGraph.Unicode.Decomposition

/-!
# Slugs

A text as part of a URI: Latin letters lose their diacritics, runs of white space become underscores,
letters become small, and all but ASCII letters, digits, hyphens and underscores is dropped.  The first
steps can be switched off, and another pattern can say what is dropped.
-/

namespace CatalogGraph.Conversion

open CatalogGraph.Text CatalogGraph.Mapping

/-- The ASCII spelling of letters that do not decompose into a letter and marks. -/
def latinSpelling? : Char → Option String
  | 'Æ' => some "AE"
  | 'æ' => some "ae"
  | 'Ø' => some "O"
  | 'ø' => some "o"
  | 'Œ' => some "OE"
  | 'œ' => some "oe"
  | 'ß' => some "ss"
  | 'Þ' => some "TH"
  | 'þ' => some "th"
  | 'Ð' => some "D"
  | 'Đ' => some "D"
  | 'ð' => some "d"
  | 'đ' => some "d"
  | 'Ł' => some "L"
  | 'ł' => some "l"
  | 'ı' => some "i"
  | _ => none

/-- A character without diacritics: its ASCII spelling where it has one, and else what it decomposes
into, without the marks. -/
def transliterateChar (c : Char) : List Char :=
  if c.toNat < 0x80 then [c]
  else match latinSpelling? c with
    | some s => s.toList
    | none => (Unicode.decompose c).filter fun d => !Unicode.isMark d

/-- A text without diacritics. -/
def transliterate (cs : List Char) : List Char :=
  cs.flatMap transliterateChar

/-- Every run of white space as one underscore; `inRun` tells that the last character was white. -/
def underscoreWhite (inRun : Bool) : List Char → List Char
  | [] => []
  | c :: cs =>
    if isWhite c then
      if inRun then underscoreWhite true cs else '_' :: underscoreWhite true cs
    else c :: underscoreWhite false cs

/-- The characters that a slug keeps unless a pattern says otherwise. -/
def isSlugChar (c : Char) : Bool :=
  c.isAlphanum || c == '-' || c == '_'

/-- Drops what the options drop. -/
def stripSlug (strip : Option Regex) (s : String) : String :=
  match strip with
  | none => String.ofList (s.toList.filter isSlugChar)
  | some pattern => Regex.remove pattern s

/-- The slug of a text. -/
def slug (o : SlugOptions) (s : String) : String :=
  let plain := transliterate (trimChars s.toList)
  let plain := if o.downcase then lowercaseAfter [] plain else plain
  let plain := if o.convertSpaces then underscoreWhite false plain else plain
  stripSlug o.strip (String.ofList plain)

end CatalogGraph.Conversion
