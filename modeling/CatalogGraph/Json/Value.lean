import CatalogGraph.Json.Quoted
import CatalogGraph.OrderedMap

/-!
# JSON values

A value as a document gives it.  Members of an object are kept as they are written, repeated names
included.  A value may be well-formed and still stand for nothing: a number that is out of range, or a
string (or the name of a member) with half of a character.  Such a value does no harm where nobody looks
at it.
-/

namespace CatalogGraph

/-- A JSON value. -/
inductive Json
  | null
  | bool (b : Bool)
  | integer (n : Int)
  | decimal (x : Float)
  | string (s : String)
  | array (items : List Json)
  | object (members : List (String × Json))
  /-- A value that stands for nothing. -/
  | senseless

namespace Json

instance : Inhabited Json := ⟨null⟩

/-! ## Whether a value can be taken as a whole -/

mutual
/-- Whether a value stands for something in all its parts and is nested at most so many levels deep. -/
def isSound (levels : Nat) : Json → Bool
  | array items => 0 < levels && allSound (levels - 1) items
  | object members => 0 < levels && membersSound (levels - 1) members
  | senseless => false
  | _ => true

/-- `isSound` for the items of an array. -/
def allSound (levels : Nat) : List Json → Bool
  | [] => true
  | item :: rest => isSound levels item && allSound levels rest

/-- `isSound` for the members of an object. -/
def membersSound (levels : Nat) : List (String × Json) → Bool
  | [] => true
  | (_, value) :: rest => isSound levels value && membersSound levels rest
end

/-! ## Parts -/

/-- The text, if the value is a string. -/
def string? : Json → Option String
  | string s => some s
  | _ => none

/-- The items, if the value is an array. -/
def items? : Json → Option (List Json)
  | array items => some items
  | _ => none

/-- The members as they are written, if the value is an object. -/
def members? : Json → Option (List (String × Json))
  | object members => some members
  | _ => none

/-- The values of all members with a name. -/
def valuesOf (name : String) (members : List (String × Json)) : List Json :=
  (members.filter (·.1 == name)).map (·.2)

/-! ## Writing -/

mutual
/-- The characters of a value without white space.  Numbers other than integers are not written. -/
def chars : Json → List Char
  | null => ['n', 'u', 'l', 'l']
  | bool true => ['t', 'r', 'u', 'e']
  | bool false => ['f', 'a', 'l', 's', 'e']
  | integer n => (toString n).toList
  | string s => quotedChars s.toList
  | array items => '[' :: itemChars items ++ [']']
  | object members => '\x7b' :: memberChars members ++ ['\x7d']
  | decimal _ | senseless => []

/-- The items of an array with commas between them. -/
def itemChars : List Json → List Char
  | [] => []
  | [item] => chars item
  | item :: rest => chars item ++ ',' :: itemChars rest

/-- The members of an object with commas between them. -/
def memberChars : List (String × Json) → List Char
  | [] => []
  | [(name, value)] => quotedChars name.toList ++ ':' :: chars value
  | (name, value) :: rest =>
    quotedChars name.toList ++ ':' :: chars value ++ ',' :: memberChars rest
end

/-- The text of a value without white space. -/
def render (j : Json) : String := String.ofList j.chars

end Json

end CatalogGraph
