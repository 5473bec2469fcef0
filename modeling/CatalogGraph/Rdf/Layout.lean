import CatalogGraph.Fault
import CatalogGraph.Rdf.LanguageTag
import CatalogGraph.Rdf.Statement
import CatalogGraph.Uri.Iri

/-!
# Documents of statements

A document is written one statement at a time.  Before a statement is written its parts are checked, in
the order subject, predicate, object: each IRI has to be absolute, and a language tag well-formed.
Language tags are written in lower case.  Writing stops at the first statement that cannot be written.
What was written before stands; the statement itself leaves nothing.
-/

namespace CatalogGraph.Rdf

/-- Checks the IRI at a place in a statement. -/
def checkIri (role : Role) (text : String) : Except Unwritable Unit :=
  if Uri.isIri text then .ok () else .error (.iri role text)

/-- The object as it is written, after a check of its parts. -/
def Object.checked (o : Object) : Except Unwritable Object :=
  match o with
  | .iri text => do
    checkIri .object text
    .ok (.iri text)
  | .plain value => .ok (.plain value)
  | .tagged value language =>
    if isLanguageTag language then .ok (.tagged value (Text.lowercaseAscii language))
    else .error (.languageTag language)
  | .typed value datatype => do
    checkIri .datatype datatype
    .ok (.typed value datatype)

/-- The statement as it is written, after a check of its parts. -/
def Statement.checked (s : Statement) : Except Unwritable Statement := do
  checkIri .subject s.subject
  checkIri .predicate s.predicate
  let object ← s.object.checked
  .ok { s with object := object }

/-- What was written, and the reason why writing stopped, if it did. -/
structure Transcript where
  text : String
  stopped : Option Unwritable
  deriving DecidableEq, Repr

namespace Transcript

/-- The text, or the reason why it is not complete. -/
def complete (t : Transcript) : Outcome String :=
  match t.stopped with
  | none => .ok t.text
  | some why => .error (Cause.unwritable why)

end Transcript

/-- How documents of a format are written: what a checked statement adds to the text after the
statements before it, and what ends the text.  `State` is what has to be remembered of the statements
before. -/
structure Layout (State : Type) where
  start : State
  add : State → Statement → Except Unwritable (String × State)
  finish : State → String

namespace Layout

variable {State : Type}

/-- What a statement adds to the text, after a check. -/
def addChecked (l : Layout State) (state : State) (s : Statement) :
    Except Unwritable (String × State) := do
  l.add state (← s.checked)

/-- The pieces of text for the rest of the statements, and the reason for an early stop. -/
def piecesFrom (l : Layout State) (state : State) :
    List Statement → List String × Option Unwritable
  | [] => ([l.finish state], none)
  | s :: rest =>
    match l.addChecked state s with
    | .error why => ([], some why)
    | .ok (piece, next) =>
      let (pieces, stopped) := l.piecesFrom next rest
      (piece :: pieces, stopped)

/-- Writes a document. -/
def write (l : Layout State) (statements : List Statement) : Transcript :=
  let (pieces, stopped) := l.piecesFrom l.start statements
  ⟨String.join pieces, stopped⟩

end Layout

end CatalogGraph.Rdf
