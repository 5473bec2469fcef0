import CatalogGraph.Uri.Domain
import CatalogGraph.Uri.Iri

/-!
# URIs with a host

Whether a URI, as it is followed on the web, names a host.  The schemes `http`, `https`, `ws`, `wss` and
`ftp` always do, after any number of slashes, and their host is a domain name or an address.  A `file`
has a host only if one is written out, and not where a drive letter stands.  Any other scheme names a
host after `//`, and no rules but those of IRIs apply to it.
-/

namespace CatalogGraph.Uri

/-- The bytes of a text in which `%` and two hexadecimal digits stand for a byte. -/
def percentDecode : List Char → List UInt8
  | [] => []
  | '%' :: a :: b :: rest =>
    if isHexDigit a && isHexDigit b then
      UInt8.ofNat (16 * hexDigitValue a + hexDigitValue b) :: percentDecode rest
    else String.utf8EncodeChar '%' ++ percentDecode (a :: b :: rest)
  | c :: rest => String.utf8EncodeChar c ++ percentDecode rest

/-- The characters of a text after its percent-encoded bytes are decoded, if they are UTF-8. -/
def decodedChars? (cs : List Char) : Option (List Char) :=
  (String.fromUTF8? ⟨(percentDecode cs).toArray⟩).map String.toList

/-- Whether a text is a host of the web: an IPv6 address in brackets, or a domain name, which must be an
IPv4 address if it ends in a number. -/
def isWebHost (cs : List Char) : Bool :=
  match cs with
  | '[' :: rest => rest.getLast? == some ']' && isIpv6 rest.dropLast
  | cs =>
    match (decodedChars? cs).bind domainForm? with
    | some name => !name.isEmpty && (!endsInNumber name || isIpv4 name)
    | none => false

/-- The host, and the port after a colon outside brackets. -/
def hostAndPort (cs : List Char) : List Char × Option (List Char) :=
  match cs with
  | '[' :: _ =>
    let host := cs.takeWhile (· != ']')
    let after := cs.drop (host.length + 1)
    let (more, port) := cut ':' after
    (cs.take (host.length + 1) ++ more, port)
  | cs => cut ':' cs

/-- Whether a text is a port: digits that write a number below 2¹⁶, or nothing. -/
def isPort (cs : List Char) : Bool :=
  cs.all Char.isDigit && numeralValue 10 cs < Nat.pow 2 16

/-- What follows the last `@` of an authority. -/
def afterUser (authority : List Char) : List Char :=
  (authority.reverse.takeWhile (· != '@')).reverse

/-- The text up to a slash, `?` or `#`. -/
def authorityOf (cs : List Char) : List Char :=
  cs.takeWhile fun c => c != '/' && c != '?' && c != '#'

/-- Whether an authority has a host, and a port that may be one. -/
def hasHostPart (isHost : List Char → Bool) (authority : List Char) : Bool :=
  let (host, port) := hostAndPort (afterUser authority)
  !host.isEmpty && isHost host && port.all isPort

/-- Whether a text is a host of any scheme. -/
def isPlainHost (cs : List Char) : Bool :=
  match cs with
  | '[' :: rest => rest.getLast? == some ']' && isIpv6 rest.dropLast
  | _ => true

/-- Whether a text is a drive letter: a letter and a colon. -/
def isDrive (cs : List Char) : Bool :=
  match cs with
  | [c, ':'] => c.isAlpha
  | _ => false

/-- Whether a segment of a path stays where it is. -/
def isStay (cs : List Char) : Bool :=
  let s := String.ofList (cs.map Text.lowerAscii)
  s == "." || s == "%2e"

/-- Whether the path of a file starts with a drive letter. -/
def startsWithDrive (path : List Char) : Bool :=
  let path := path.takeWhile fun c => c != '?' && c != '#'
  match (splitOnChar '/' (path.drop 1)).dropWhile isStay with
  | segment :: _ => isDrive segment
  | [] => false

/-- Whether a file names a host, by what follows its scheme. -/
def hasFileHost (rest : List Char) : Bool :=
  match rest with
  | '/' :: '/' :: rest =>
    let host := authorityOf rest
    let path := rest.drop host.length
    !host.isEmpty && !isDrive host && isWebHost host &&
    (decodedChars? host).bind domainForm? != some "localhost".toList && !startsWithDrive path
  | _ => false

/-- The schemes of the web. -/
def webSchemes : List String := ["http", "https", "ws", "wss", "ftp"]

/-- Whether a scheme, in capitals or not, is one of the web. -/
def isWebScheme (scheme : List Char) : Bool :=
  webSchemes.contains (String.ofList (scheme.map Text.lowerAscii))

/-- Whether an absolute IRI names a host. -/
def hasHostChars (cs : List Char) : Bool :=
  match cut ':' cs with
  | (_, none) => false
  | (scheme, some rest) =>
    if isWebScheme scheme then hasHostPart isWebHost (authorityOf (rest.dropWhile (· == '/')))
    else if String.ofList (scheme.map Text.lowerAscii) == "file" then hasFileHost rest
    else
      match rest with
      | '/' :: '/' :: rest => hasHostPart isPlainHost (authorityOf rest)
      | _ => false

/-- Whether a text is an absolute IRI that names a host. -/
def isHostedIri (s : String) : Bool :=
  isIri s && hasHostChars s.toList

end CatalogGraph.Uri
