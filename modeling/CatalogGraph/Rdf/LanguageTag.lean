import CatalogGraph.Text.Lowercase
import CatalogGraph.Uri.Address

/-!
# Language tags

Well-formed language tags: a language, then optional subtags for extended languages, script, region,
variants, extensions and private use, in that order and each of its own shape; or a tag that is wholly
for private use; or one of the irregular tags that were registered before this grammar.
-/

namespace CatalogGraph.Rdf

open CatalogGraph.Text

/-- The registered tags that the grammar does not cover, and those that it covers by chance. -/
def irregularTags : List String := [
  "art-lojban", "cel-gaulish", "en-gb-oed", "i-ami", "i-bnn", "i-default", "i-enochian", "i-hak",
  "i-klingon", "i-lux", "i-mingo", "i-navajo", "i-pwn", "i-tao", "i-tay", "i-tsu", "no-bok", "no-nyn",
  "sgn-be-fr", "sgn-be-nl", "sgn-ch-de", "zh-guoyu", "zh-hakka", "zh-min", "zh-min-nan", "zh-xiang"]

/-- What was read of a tag. -/
inductive TagPlace
  | afterLanguage (extended : Nat)
  | afterExtended
  | afterScript
  | afterRegion
  /-- In an extension; `expected` tells that a subtag must follow. -/
  | inExtension (expected : Bool)
  | inPrivateUse (expected : Bool)
  deriving DecidableEq

/-- Whether a variant may have this form: five or more characters, or four that start with a digit. -/
def isVariant (s : List Char) : Bool :=
  match s with
  | [] => false
  | c :: _ => s.all Char.isAlphanum && ((c.isAlpha && 5 ≤ s.length) || (c.isDigit && 4 ≤ s.length))

/-- Whether a region may have this form: two letters or three digits. -/
def isRegion (s : List Char) : Bool :=
  (s.length == 2 && s.all Char.isAlpha) || (s.length == 3 && s.all Char.isDigit)

/-- Whether a script may have this form: four letters. -/
def isScript (s : List Char) : Bool :=
  s.length == 4 && s.all Char.isAlpha

/-- The place after a subtag, if the subtag may stand there. -/
def TagPlace.next? (place : TagPlace) (s : List Char) : Option TagPlace :=
  if s.isEmpty || 8 < s.length || !s.all Char.isAlphanum then none
  else match place with
    | .inPrivateUse _ => some (.inPrivateUse false)
    | _ =>
      if s == ['x'] || s == ['X'] then
        if place = .inExtension true then none else some (.inPrivateUse true)
      else if s.length == 1 then
        if place = .inExtension true then none else some (.inExtension true)
      else match place with
        | .inPrivateUse _ => none
        | .inExtension _ => some (.inExtension false)
        | .afterLanguage extended =>
          if s.length == 3 && s.all Char.isAlpha then
            if extended < 3 then some (.afterLanguage (extended + 1)) else none
          else if isScript s then some .afterScript
          else if isRegion s then some .afterRegion
          else if isVariant s then some .afterRegion else none
        | .afterExtended =>
          if isScript s then some .afterScript
          else if isRegion s then some .afterRegion
          else if isVariant s then some .afterRegion else none
        | .afterScript =>
          if isRegion s then some .afterRegion
          else if isVariant s then some .afterRegion else none
        | .afterRegion => if isVariant s then some .afterRegion else none

/-- Whether a tag may end here. -/
def TagPlace.isComplete : TagPlace → Bool
  | .inExtension expected => !expected
  | .inPrivateUse expected => !expected
  | _ => true

/-- Whether a tag is a language with subtags. -/
def isRegularTag (cs : List Char) : Bool :=
  match Uri.splitOnChar '-' cs with
  | [] => false
  | language :: subtags =>
    2 ≤ language.length && language.length ≤ 8 && language.all Char.isAlpha &&
    let start := if language.length < 4 then TagPlace.afterLanguage 0 else .afterExtended
    match subtags.foldlM TagPlace.next? start with
    | some place => place.isComplete
    | none => false

/-- Whether a text is a well-formed language tag. -/
def isLanguageTag (s : String) : Bool :=
  let cs := s.toList.map lowerAscii
  irregularTags.contains (String.ofList cs) ||
  match cs with
  | 'x' :: '-' :: rest => !rest.isEmpty && rest.all fun c => c.isAlphanum || c == '-'
  | _ => isRegularTag cs

end CatalogGraph.Rdf
