import CatalogGraph.Uri.Address

/-!
# Absolute IRIs

The grammar of absolute IRIs: a scheme, perhaps an authority after `//`, a path, and perhaps a query
after `?` and a fragment after `#`.  Each part has its own characters, and `%` must be followed by two
hexadecimal digits.  Characters beyond ASCII are allowed as far as the grammar allows them; those for
private use stand in a query only.
-/

namespace CatalogGraph.Uri

/-- Letters, digits and marks that stand for themselves everywhere in an IRI. -/
def isUnreserved (c : Char) : Bool :=
  c.isAlphanum || c == '-' || c == '.' || c == '_' || c == '~'

/-- Delimiters inside the parts of an IRI. -/
def isSubDelimiter (c : Char) : Bool :=
  c == '!' || c == '$' || c == '&' || c == '\x27' || c == '(' || c == ')' || c == '*' || c == '+' ||
  c == ',' || c == ';' || c == '='

/-- Whether the code point of a character lies between two others. -/
def inRange (c : Char) (first last : Nat) : Bool :=
  first ≤ c.toNat && c.toNat ≤ last

/-- The characters beyond ASCII that may stand anywhere in an IRI: all from U+00A0 on but surrogates,
private use, non-characters and specials. -/
def isUniversal (c : Char) : Bool :=
  inRange c 0xA0 0xD7FF || inRange c 0xF900 0xFDCF || inRange c 0xFDF0 0xFFEF ||
  (0x10000 ≤ c.toNat && c.toNat < 0xF0000 && c.toNat % 0x10000 ≤ 0xFFFD &&
    !inRange c 0xE0000 0xE0FFF)

/-- The characters for private use. -/
def isPrivate (c : Char) : Bool :=
  inRange c 0xE000 0xF8FF || inRange c 0xF0000 0xFFFFD || inRange c 0x100000 0x10FFFD

/-- The characters that may stand in a host name. -/
def isNameChar (c : Char) : Bool :=
  isUnreserved c || isUniversal c || isSubDelimiter c

/-- The characters that may stand in the user part of an authority. -/
def isUserChar (c : Char) : Bool := isNameChar c || c == ':'

/-- The characters that may stand in a path. -/
def isPathChar (c : Char) : Bool := isNameChar c || c == ':' || c == '@' || c == '/'

/-- The characters that may stand in a fragment. -/
def isFragmentChar (c : Char) : Bool := isPathChar c || c == '?'

/-- The characters that may stand in a query. -/
def isQueryChar (c : Char) : Bool := isFragmentChar c || isPrivate c

/-- Whether a text holds only some characters, or `%` with two hexadecimal digits. -/
def isEncoded (allowed : Char → Bool) : List Char → Bool
  | [] => true
  | '%' :: a :: b :: rest => isHexDigit a && isHexDigit b && isEncoded allowed rest
  | c :: rest => c != '%' && allowed c && isEncoded allowed rest

/-- The text before and after the first occurrence of a character, if there is one. -/
def cut (sep : Char) (cs : List Char) : List Char × Option (List Char) :=
  let head := cs.takeWhile (· != sep)
  match cs.drop head.length with
  | _ :: tail => (head, some tail)
  | [] => (head, none)

/-- The parts of an IRI. -/
structure IriParts where
  scheme : List Char
  authority : Option (List Char)
  path : List Char
  query : Option (List Char)
  fragment : Option (List Char)
  deriving DecidableEq, Repr

/-- Takes an IRI apart at its delimiters, without looking at the characters of the parts.  Nothing for a
text without colon. -/
def iriParts? (cs : List Char) : Option IriParts :=
  match cut ':' cs with
  | (_, none) => none
  | (scheme, some rest) =>
    let (rest, fragment) := cut '#' rest
    let (rest, query) := cut '?' rest
    match rest with
    | '/' :: '/' :: rest =>
      let authority := rest.takeWhile (· != '/')
      some ⟨scheme, some authority, rest.drop authority.length, query, fragment⟩
    | path => some ⟨scheme, none, path, query, fragment⟩

/-- Whether a text is a scheme: a letter, then letters, digits, `+`, `-` and `.`. -/
def isScheme : List Char → Bool
  | [] => false
  | c :: cs =>
    c.isAlpha && cs.all fun d => d.isAlphanum || d == '+' || d == '-' || d == '.'

/-- Whether a text between brackets is an address of a version to come: `v`, a hexadecimal number, a
full stop and more. -/
def isFutureAddress : List Char → Bool
  | [] => false
  | v :: cs =>
    let version := cs.takeWhile isHexDigit
    match cs.drop version.length with
    | '.' :: rest =>
      (v == 'v' || v == 'V') && !version.isEmpty && !rest.isEmpty &&
      rest.all fun c => isUnreserved c || isSubDelimiter c || c == ':'
    | _ => false

/-- Whether a text is a host with or without a port: an address in brackets or a name, and the port in
digits after a colon. -/
def isHostPort (cs : List Char) : Bool :=
  match cs with
  | '[' :: rest =>
    match cut ']' rest with
    | (address, some after) =>
      (isFutureAddress address || isIpv6 address) &&
      (match after with
        | [] => true
        | ':' :: port => port.all Char.isDigit
        | _ => false)
    | (_, none) => false
  | cs =>
    match cut ':' cs with
    | (name, none) => isEncoded isNameChar name
    | (name, some port) => isEncoded isNameChar name && port.all Char.isDigit

/-- Whether a text is an authority: a host and port, perhaps after a user and `@`. -/
def isAuthority (cs : List Char) : Bool :=
  match cut '@' cs with
  | (host, none) => isHostPort host
  | (user, some host) => isEncoded isUserChar user && isHostPort host

/-- Whether every part of an IRI holds what it may hold. -/
def IriParts.isValid (p : IriParts) : Bool :=
  isScheme p.scheme && p.authority.all isAuthority && isEncoded isPathChar p.path &&
  p.query.all (isEncoded isQueryChar) && p.fragment.all (isEncoded isFragmentChar)

/-- Whether characters form an absolute IRI. -/
def isIriChars (cs : List Char) : Bool :=
  (iriParts? cs).any IriParts.isValid

/-- Whether a text is an absolute IRI. -/
def isIri (s : String) : Bool := isIriChars s.toList

end CatalogGraph.Uri
