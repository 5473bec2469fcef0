import CatalogGraph.Rdf.Serialization
import Mathlib.Data.List.TakeWhile

/-!
# Statements that can be written

A document is written statement by statement, and writing stops at the first statement that cannot be
written.  What cannot be written is a property of the statement and of the format alone
(`Format.obstacle?`); the statements before it do not matter.

* `Statement.checked_eq_ok_iff` — a statement passes its check exactly if its IRIs are absolute and its
  language tag is well-formed (`Statement.IsWritable`), and is then written with the tag in lower case;
* `Format.write_stopped` — a document stops as the first of its statements does that has an obstacle.  For
  RDF/XML this includes the reserved predicates: a class can give an element its name, but the predicate of
  such a statement is `rdf:type`, which is not reserved, so the state of the writer does not matter;
* `Format.write_append_of_stopped` — what comes after that statement leaves no trace;
* `text_write_nTriples` — in N-Triples what was written is one line for each statement before it.
-/

namespace CatalogGraph.Rdf

/-! ## The check of a statement -/

namespace Object

/-- The IRI or the datatype is absolute, and the language tag is well-formed. -/
def IsWritable : Object → Prop
  | iri text => Uri.isIri text = true
  | plain _ => True
  | tagged _ language => isLanguageTag language = true
  | typed _ datatype => Uri.isIri datatype = true

/-- The object as it is written: a language tag in lower case. -/
def written : Object → Object
  | tagged value language => tagged value (Text.lowercaseAscii language)
  | o => o

end Object

namespace Statement

/-- All parts of a statement can be written. -/
structure IsWritable (s : Statement) : Prop where
  subject : Uri.isIri s.subject = true
  predicate : Uri.isIri s.predicate = true
  object : s.object.IsWritable

/-- The statement as it is written. -/
def written (s : Statement) : Statement := { s with object := s.object.written }

end Statement

/-- A check of an IRI before something else. -/
theorem checkIri_bind_eq_ok_iff {α : Type} {role : Role} {text : String} {next : Except Unwritable α}
    {a : α} : (checkIri role text >>= fun _ => next) = .ok a ↔ Uri.isIri text = true ∧ next = .ok a := by
  unfold checkIri
  split
  · next hIri => simp [hIri, bind, Except.bind]
  · next hIri => simp [hIri, bind, Except.bind]

theorem Object.checked_eq_ok_iff {o t : Object} :
    o.checked = .ok t ↔ o.IsWritable ∧ t = o.written := by
  cases o with
  | iri text =>
      rw [checked, checkIri_bind_eq_ok_iff, Except.ok.injEq, eq_comm (b := t)]
      rfl
  | plain value =>
      rw [checked, Except.ok.injEq, eq_comm (b := t)]
      exact (and_iff_right trivial).symm
  | tagged value language =>
      rw [checked, IsWritable, written]
      split
      · next hTag => rw [Except.ok.injEq, eq_comm (b := t), and_iff_right hTag]
      · next hTag => simp [hTag]
  | typed value datatype =>
      rw [checked, checkIri_bind_eq_ok_iff, Except.ok.injEq, eq_comm (b := t)]
      rfl

/-- A statement passes its check exactly if all its parts can be written. -/
theorem Statement.checked_eq_ok_iff {s t : Statement} :
    s.checked = .ok t ↔ s.IsWritable ∧ t = s.written := by
  rw [checked, checkIri_bind_eq_ok_iff, checkIri_bind_eq_ok_iff]
  constructor
  · rintro ⟨hSubject, hPredicate, hRest⟩
    cases hObject : s.object.checked with
    | error why => simp [hObject, bind, Except.bind] at hRest
    | ok o =>
        obtain ⟨hWritable, rfl⟩ := Object.checked_eq_ok_iff.mp hObject
        rw [hObject] at hRest
        exact ⟨⟨hSubject, hPredicate, hWritable⟩, (Except.ok.inj hRest).symm⟩
  · rintro ⟨⟨hSubject, hPredicate, hWritable⟩, rfl⟩
    refine ⟨hSubject, hPredicate, ?_⟩
    rw [Object.checked_eq_ok_iff.mpr ⟨hWritable, rfl⟩]
    rfl

/-! ## Layouts -/

namespace Layout

variable {State : Type} {l : Layout State} {obstacle? : Statement → Option Unwritable}

/-- The layout refuses the statements with an obstacle and takes all others, whatever was written before. -/
def RefusesBy (l : Layout State) (obstacle? : Statement → Option Unwritable) : Prop :=
  ∀ state s, match obstacle? s with
    | some why => l.addChecked state s = .error why
    | none => ∃ piece next, l.addChecked state s = .ok (piece, next)

theorem piecesFrom_stopped (h : l.RefusesBy obstacle?) (state : State) (statements : List Statement) :
    (l.piecesFrom state statements).2 = statements.findSome? obstacle? := by
  induction statements generalizing state with
  | nil => rfl
  | cons s rest ih =>
      have hStep := h state s
      rw [piecesFrom]
      cases hObstacle : obstacle? s with
      | some why =>
          rw [hObstacle] at hStep
          rw [hStep, List.findSome?_cons_of_isSome (by simp [hObstacle]), hObstacle]
      | none =>
          rw [hObstacle] at hStep
          obtain ⟨piece, next, hAdd⟩ := hStep
          rw [hAdd, List.findSome?_cons_of_isNone (by simp [hObstacle])]
          exact ih next

/-- Once writing has stopped, nothing is added. -/
theorem piecesFrom_append_of_stopped {a : List Statement} {state : State} {why : Unwritable}
    (h : (l.piecesFrom state a).2 = some why) (b : List Statement) :
    l.piecesFrom state (a ++ b) = l.piecesFrom state a := by
  induction a generalizing state with
  | nil => exact absurd h (by simp [piecesFrom])
  | cons s rest ih =>
      rw [List.cons_append, piecesFrom, piecesFrom]
      rw [piecesFrom] at h
      cases hAdd : l.addChecked state s with
      | error why => rfl
      | ok added =>
          obtain ⟨piece, next⟩ := added
          rw [hAdd] at h
          simp only [ih h]

theorem write_stopped (h : l.RefusesBy obstacle?) (statements : List Statement) :
    (l.write statements).stopped = statements.findSome? obstacle? :=
  piecesFrom_stopped h l.start statements

theorem write_append_of_stopped {a : List Statement} {why : Unwritable}
    (h : (l.write a).stopped = some why) (b : List Statement) : l.write (a ++ b) = l.write a := by
  unfold write
  rw [piecesFrom_append_of_stopped h]

end Layout

/-! ## Formats -/

/-- Why a statement cannot be written in a format, if it cannot. -/
def Format.obstacle? (format : Format) (s : Statement) : Option Unwritable :=
  match s.checked with
  | .error why => some why
  | .ok _ =>
    if format = .rdfXml ∧ RdfXml.isReserved s.predicate = true then some .reservedPredicate else none

/-- In a format that takes every statement that passes its check. -/
theorem refusesBy_of_add {State : Type} {l : Layout State} {format : Format} (hFormat : format ≠ .rdfXml)
    (hAdd : ∀ state s, ∃ piece next, l.add state s = .ok (piece, next)) :
    l.RefusesBy format.obstacle? := by
  intro state s
  unfold Format.obstacle? Layout.addChecked
  cases s.checked with
  | error why => rfl
  | ok t => simpa [hFormat, bind, Except.bind] using hAdd state t

theorem nTriples_refusesBy : nTriples.RefusesBy Format.nTriples.obstacle? :=
  refusesBy_of_add (by decide) fun _ _ => ⟨_, _, rfl⟩

theorem turtle_refusesBy : turtle.RefusesBy Format.turtle.obstacle? :=
  refusesBy_of_add (by decide) fun _ _ => ⟨_, _, rfl⟩

theorem jsonLd_refusesBy : jsonLd.RefusesBy Format.jsonLd.obstacle? :=
  refusesBy_of_add (by decide) fun _ _ => ⟨_, _, rfl⟩

namespace RdfXml

theorem isReserved_rdfType : isReserved Vocabulary.rdfType = false := by decide

/-- The name of an element can say the class of its subject, but no reserved predicate. -/
theorem predicate_of_classOf? {s : Statement} {iri : String} (h : classOf? s = some iri) :
    s.predicate = Vocabulary.rdfType := by
  unfold classOf? at h
  split at h
  · assumption
  · exact absurd h (by simp)

/-- A property element is refused for a reserved predicate only. -/
theorem addProperty_eq (s : Statement) :
    addProperty s = if isReserved s.predicate = true then .error .reservedPredicate else .ok (property s) :=
  rfl

/-- The first element of a subject is refused for a reserved predicate only. -/
theorem openNode_cases (s : Statement) :
    if isReserved s.predicate = true then openNode s = .error .reservedPredicate
    else ∃ piece node, openNode s = .ok (piece, node) := by
  unfold openNode
  cases hClass : classOf? s with
  | some iri =>
      rw [predicate_of_classOf? hClass, isReserved_rdfType]
      exact ⟨_, _, rfl⟩
  | none =>
      simp only [addProperty_eq]
      split
      · rfl
      · exact ⟨_, _, rfl⟩

/-- Whatever element is open, a statement is refused for a reserved predicate only. -/
theorem add_cases (state : Option Node) (s : Statement) :
    if isReserved s.predicate = true then rdfXml.add state s = .error .reservedPredicate
    else ∃ piece next, rdfXml.add state s = .ok (piece, next) := by
  have hOpen := openNode_cases s
  unfold rdfXml
  cases state with
  | none =>
      split at hOpen
      · next hReserved => simp [hReserved, hOpen, bind, Except.bind]
      · next hReserved =>
          obtain ⟨piece, node, hNode⟩ := hOpen
          simp [hReserved, hNode, bind, Except.bind]
  | some node =>
      by_cases hSubject : s.subject = node.subject
      · simp only [hSubject, ↓reduceIte, addProperty_eq]
        split
        · rfl
        · exact ⟨_, _, rfl⟩
      · split at hOpen
        · next hReserved => simp [hSubject, hReserved, hOpen, bind, Except.bind]
        · next hReserved =>
            obtain ⟨piece, next, hNode⟩ := hOpen
            simp [hSubject, hReserved, hNode, bind, Except.bind]

end RdfXml

theorem rdfXml_refusesBy : rdfXml.RefusesBy Format.rdfXml.obstacle? := by
  intro state s
  unfold Format.obstacle? Layout.addChecked
  cases hChecked : s.checked with
  | error why => rfl
  | ok t =>
      obtain ⟨-, rfl⟩ := Statement.checked_eq_ok_iff.mp hChecked
      have hAdd := RdfXml.add_cases state s.written
      have hPredicate : s.written.predicate = s.predicate := rfl
      rw [hPredicate] at hAdd
      split at hAdd
      · next hReserved => simpa [hReserved, bind, Except.bind] using hAdd
      · next hReserved => simpa [hReserved, bind, Except.bind] using hAdd

/-- A document stops as the first of its statements does that has an obstacle. -/
theorem Format.write_stopped (format : Format) (statements : List Statement) :
    (format.write statements).stopped = statements.findSome? format.obstacle? := by
  cases format with
  | rdfXml => exact Layout.write_stopped rdfXml_refusesBy statements
  | jsonLd => exact Layout.write_stopped jsonLd_refusesBy statements
  | turtle => exact Layout.write_stopped turtle_refusesBy statements
  | nTriples => exact Layout.write_stopped nTriples_refusesBy statements

/-- What would come after the statement at which a document stops leaves no trace in it. -/
theorem Format.write_append_of_stopped {format : Format} {a : List Statement} {why : Unwritable}
    (h : (format.write a).stopped = some why) (b : List Statement) :
    format.write (a ++ b) = format.write a := by
  cases format with
  | rdfXml => exact Layout.write_append_of_stopped h b
  | jsonLd => exact Layout.write_append_of_stopped h b
  | turtle => exact Layout.write_append_of_stopped h b
  | nTriples => exact Layout.write_append_of_stopped h b

/-! ## Documents -/

/-- Writing is complete or stops for a reason, and so it is with the document. -/
theorem serialize_eq_ok_iff {format : Format} {statements : List Statement} {text : String} :
    serialize format statements = .ok text ↔
      statements.findSome? format.obstacle? = none ∧ text = (format.write statements).text := by
  unfold serialize Transcript.complete
  rw [← Format.write_stopped]
  cases (format.write statements).stopped with
  | none => simp [eq_comm]
  | some why => simp

theorem serialize_eq_error_iff {format : Format} {statements : List Statement} {e : Fault} :
    serialize format statements = .error e ↔
      ∃ why, statements.findSome? format.obstacle? = some why ∧ e = Cause.unwritable why := by
  unfold serialize Transcript.complete
  rw [← Format.write_stopped]
  cases (format.write statements).stopped with
  | none => simp
  | some why => simp [eq_comm]

/-! ## N-Triples -/

/-- A statement can be written in N-Triples exactly if it passes its check. -/
theorem obstacle?_nTriples_eq_none_iff {s : Statement} :
    Format.nTriples.obstacle? s = none ↔ s.IsWritable := by
  unfold Format.obstacle?
  cases hChecked : s.checked with
  | ok t => simp [(Statement.checked_eq_ok_iff.mp hChecked).1]
  | error why =>
      have hNot : ¬s.IsWritable := by
        intro hWritable
        rw [Statement.checked_eq_ok_iff.mpr ⟨hWritable, rfl⟩] at hChecked
        exact absurd hChecked (by simp)
      simp [hNot]

/-- The line of a statement in N-Triples. -/
def nTriplesLine (s : Statement) : String := s.written.display ++ "\n"

/-- The statements before the first one that has an obstacle. -/
def leading (format : Format) (statements : List Statement) : List Statement :=
  statements.takeWhile fun s => (format.obstacle? s).isNone

theorem leading_of_findSome?_eq_none {format : Format} {statements : List Statement}
    (h : statements.findSome? format.obstacle? = none) : leading format statements = statements := by
  have hAll : ∀ s ∈ statements, (format.obstacle? s).isNone = true := by
    intro s hs
    rw [List.findSome?_eq_none_iff.mp h s hs]
    rfl
  exact List.takeWhile_eq_self_iff.mpr hAll

/-- In N-Triples there is a line for each statement before the first one that cannot be written. -/
theorem text_write_nTriples (statements : List Statement) :
    (Format.nTriples.write statements).text =
      String.join ((leading .nTriples statements).map nTriplesLine) := by
  have hPieces : ∀ rest : List Statement, String.join (nTriples.piecesFrom () rest).1 =
      String.join ((leading .nTriples rest).map nTriplesLine) := by
    intro rest
    induction rest with
    | nil => rfl
    | cons s rest ih =>
        rw [Layout.piecesFrom, leading]
        cases hObstacle : Format.nTriples.obstacle? s with
        | some why =>
            have hAdd := nTriples_refusesBy () s
            rw [hObstacle] at hAdd
            rw [hAdd, List.takeWhile_cons_of_neg (by simp [hObstacle])]
            rfl
        | none =>
            have hWritable := obstacle?_nTriples_eq_none_iff.mp hObstacle
            have hChecked := Statement.checked_eq_ok_iff.mpr ⟨hWritable, rfl⟩
            have hAdd : nTriples.addChecked () s = .ok (nTriplesLine s, ()) := by
              rw [Layout.addChecked, hChecked]
              rfl
            rw [hAdd, List.takeWhile_cons_of_pos (by simp [hObstacle]), List.map_cons]
            simp only [String.join_cons]
            rw [ih]
            rfl
  exact hPieces statements

end CatalogGraph.Rdf
