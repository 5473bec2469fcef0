import CatalogGraph.Json.Token

/-!
# Reading JSON

A document is read token by token, with the arrays and objects that are open on a stack.  A document is a
single value; anything after it is an error.
-/

namespace CatalogGraph.Json

/-- An array or an object that is open.  What it holds so far is in reverse order. -/
inductive Open
  | array (items : List Json)
  /-- `sound` tells that all names so far stand for a text; `name` is the last one. -/
  | object (members : List (String × Json)) (sound : Bool) (name : String)

/-- What may come next. -/
inductive Expected
  | value
  | firstItem
  | firstName
  | name
  | colon
  | separator
  /-- The document is complete. -/
  | nothing (result : Json)

/-- How far a document has been read. -/
structure Reading where
  expected : Expected
  stack : List Open

namespace Reading

/-- A value is complete, inside what is open. -/
def complete (value : Json) : List Open → Reading
  | [] => ⟨.nothing value, []⟩
  | .array items :: stack => ⟨.separator, .array (value :: items) :: stack⟩
  | .object members sound name :: stack =>
    ⟨.separator, .object ((name, value) :: members) sound name :: stack⟩

/-- A value begins with a token. -/
def beginValue? (token : Token) (stack : List Open) : Option Reading :=
  match token with
  | .openArray => some ⟨.firstItem, .array [] :: stack⟩
  | .openObject => some ⟨.firstName, .object [] true "" :: stack⟩
  | .string (some s) => some (complete (.string s) stack)
  | .string none => some (complete .senseless stack)
  | .scalar value => some (complete value stack)
  | _ => none

/-- What was opened last is closed by a token. -/
def close? (token : Token) (stack : List Open) : Option Reading :=
  match token, stack with
  | .closeArray, .array items :: stack => some (complete (.array items.reverse) stack)
  | .closeObject, .object members sound _ :: stack =>
    some (complete (if sound then .object members.reverse else .senseless) stack)
  | _, _ => none

/-- The name of a member is a token. -/
def takeName? (token : Token) (stack : List Open) : Option Reading :=
  match token, stack with
  | .string (some name), .object members sound _ :: stack =>
    some ⟨.colon, .object members sound name :: stack⟩
  | .string none, .object members _ _ :: stack => some ⟨.colon, .object members false "" :: stack⟩
  | _, _ => none

/-- The document goes on with a token. -/
def step? (r : Reading) (token : Token) : Option Reading :=
  match r.expected, token, r.stack with
  | .value, _, stack => beginValue? token stack
  | .firstItem, .closeArray, stack => close? token stack
  | .firstItem, _, stack => beginValue? token stack
  | .firstName, .closeObject, stack => close? token stack
  | .firstName, _, stack => takeName? token stack
  | .name, _, stack => takeName? token stack
  | .colon, .colon, stack => some ⟨.value, stack⟩
  | .separator, .comma, .array items :: stack => some ⟨.value, .array items :: stack⟩
  | .separator, .comma, .object members sound name :: stack =>
    some ⟨.name, .object members sound name :: stack⟩
  | .separator, _, stack => close? token stack
  | _, _, _ => none

/-- The value of a document that has been read to its end. -/
def result? (r : Reading) : Option Json :=
  match r.expected with
  | .nothing value => some value
  | _ => none

end Reading

/-- The value that tokens make. -/
def ofTokens? (tokens : List Token) : Option Json :=
  (tokens.foldlM Reading.step? ⟨.value, []⟩).bind Reading.result?

/-- Reads a document. -/
def read? (text : String) : Option Json :=
  (tokens? text.toList).bind ofTokens?

end CatalogGraph.Json
