import CatalogGraph.Rdf.GivenStatement
import CatalogGraph.Proofs.WritableStatements

/-!
# Displayed and written statements

Statements can be displayed, each as one line, and they can be written as a document in N-Triples.  These
are two ways through the optional parts of a literal, and they come to the same
(`nTriplesLine_statement`): a document is the displayed lines, with the language tags in lower case.

Displaying never fails, but writing does.  It stops at the first statement with a part that cannot be
written, and the first such part is told, in the order subject, predicate, object
(`GivenStatement.offence?`).  A datatype is such a part only if the literal has no language.
-/

namespace CatalogGraph.Rdf

/-! ## Parts that cannot be written -/

/-- An IRI at some place that is not absolute. -/
def iriOffence? (role : Role) (text : String) : Option Unwritable :=
  if Uri.isIri text = true then none else some (.iri role text)

namespace GivenObject

/-- What there is of IRI, language and used datatype can be written. -/
def IsValid : GivenObject → Prop
  | iri text => Uri.isIri text = true
  | literal _ (some language) _ => isLanguageTag language = true
  | literal _ none (some datatype) => Uri.isIri datatype = true
  | literal _ none none => True

/-- The part of an object that cannot be written. -/
def offence? : GivenObject → Option Unwritable
  | iri text => iriOffence? .object text
  | literal _ (some language) _ =>
    if isLanguageTag language = true then none else some (.languageTag language)
  | literal _ none (some datatype) => iriOffence? .datatype datatype
  | literal _ none none => none

/-- The object with its language tag in lower case. -/
def lowered : GivenObject → GivenObject
  | iri text => iri text
  | literal value language datatype => literal value (language.map Text.lowercaseAscii) datatype

end GivenObject

namespace GivenStatement

/-- All parts of a statement can be written. -/
structure IsValid (s : GivenStatement) : Prop where
  subject : Uri.isIri s.subject = true
  predicate : Uri.isIri s.predicate = true
  object : s.object.IsValid

/-- The first part of a statement that cannot be written. -/
def offence? (s : GivenStatement) : Option Unwritable :=
  (iriOffence? .subject s.subject).or ((iriOffence? .predicate s.predicate).or s.object.offence?)

/-- The statement with its language tag in lower case. -/
def lowered (s : GivenStatement) : GivenStatement := { s with object := s.object.lowered }

end GivenStatement

theorem iriOffence?_eq_none_iff {role : Role} {text : String} :
    iriOffence? role text = none ↔ Uri.isIri text = true := by
  unfold iriOffence?
  split
  · next h => simp [h]
  · next h => simp [h]

theorem GivenObject.offence?_eq_none_iff {o : GivenObject} : o.offence? = none ↔ o.IsValid := by
  unfold offence? IsValid
  split
  · exact iriOffence?_eq_none_iff
  · next language _ => split <;> simp_all
  · exact iriOffence?_eq_none_iff
  · simp

theorem GivenStatement.offence?_eq_none_iff {s : GivenStatement} : s.offence? = none ↔ s.IsValid := by
  rw [offence?, Option.or_eq_none_iff, Option.or_eq_none_iff, iriOffence?_eq_none_iff,
    iriOffence?_eq_none_iff, GivenObject.offence?_eq_none_iff]
  exact ⟨fun ⟨hSubject, hPredicate, hObject⟩ => ⟨hSubject, hPredicate, hObject⟩,
    fun ⟨hSubject, hPredicate, hObject⟩ => ⟨hSubject, hPredicate, hObject⟩⟩

/-! ## Statements -/

/-- A check of an IRI and what comes after it. -/
theorem checkIri_bind_eq {α : Type} (role : Role) (text : String) (next : Except Unwritable α) :
    (checkIri role text >>= fun _ => next) = (iriOffence? role text).elim next .error := by
  unfold checkIri iriOffence?
  split
  · rfl
  · rfl

theorem GivenObject.checked_object (o : GivenObject) :
    o.object.checked = o.offence?.elim (.ok o.object.written) .error := by
  cases o with
  | iri text => exact checkIri_bind_eq .object text _
  | literal value language datatype =>
      cases language with
      | some language =>
          rw [object, offence?, Object.checked]
          split
          · rfl
          · rfl
      | none =>
          cases datatype with
          | some datatype => exact checkIri_bind_eq .datatype datatype _
          | none => rfl

/-- A statement passes its check or is refused for its first part that cannot be written. -/
theorem GivenStatement.checked_statement (s : GivenStatement) :
    s.statement.checked = s.offence?.elim (.ok s.statement.written) .error := by
  obtain ⟨subject, predicate, object⟩ := s
  rw [Statement.checked, checkIri_bind_eq, checkIri_bind_eq, offence?]
  simp only [statement, GivenObject.checked_object]
  -- subject, predicate, object: what comes after an offence does not count
  cases iriOffence? .subject subject with
  | some why => rfl
  | none =>
      cases iriOffence? .predicate predicate with
      | some why => rfl
      | none =>
          cases object.offence? with
          | some why => rfl
          | none => rfl

theorem obstacle?_statement (s : GivenStatement) :
    Format.nTriples.obstacle? s.statement = s.offence? := by
  rw [Format.obstacle?, s.checked_statement]
  cases s.offence? with
  | some why => rfl
  | none => rfl

/-- The line that is written is the displayed one, with the language tag in lower case. -/
theorem nTriplesLine_statement (s : GivenStatement) :
    nTriplesLine s.statement = s.lowered.display ++ "\n" := by
  obtain ⟨subject, predicate, object⟩ := s
  cases object with
  | iri text => rfl
  | literal value language datatype =>
      cases language with
      | some language => rfl
      | none =>
          cases datatype with
          | some datatype => rfl
          | none => rfl

/-! ## Documents -/

theorem findSome?_obstacle?_map (statements : List GivenStatement) :
    (statements.map GivenStatement.statement).findSome? Format.nTriples.obstacle? =
      statements.findSome? GivenStatement.offence? := by
  rw [List.findSome?_map]
  congr 1
  funext s
  exact obstacle?_statement s

/-- Statements without an offence make a document of their lines. -/
theorem serializeGiven_eq_ok_iff {statements : List GivenStatement} {text : String} :
    serializeGiven .nTriples statements = .ok text ↔
      (∀ s ∈ statements, s.IsValid) ∧
        text = String.join (statements.map fun s => s.lowered.display ++ "\n") := by
  rw [serializeGiven, serialize_eq_ok_iff, text_write_nTriples]
  have hValid : (statements.map GivenStatement.statement).findSome? Format.nTriples.obstacle? = none ↔
      ∀ s ∈ statements, s.IsValid := by
    simp only [findSome?_obstacle?_map, List.findSome?_eq_none_iff, GivenStatement.offence?_eq_none_iff]
  have hLines : (statements.map GivenStatement.statement).map nTriplesLine =
      statements.map fun s => s.lowered.display ++ "\n" := by
    simp only [List.map_map, Function.comp_def, nTriplesLine_statement]
  constructor
  · rintro ⟨hNone, rfl⟩
    rw [leading_of_findSome?_eq_none hNone, hLines]
    exact ⟨hValid.mp hNone, rfl⟩
  · rintro ⟨hAll, rfl⟩
    rw [leading_of_findSome?_eq_none (hValid.mpr hAll), hLines]
    exact ⟨hValid.mpr hAll, rfl⟩

/-- Otherwise it is the first statement with an offence that counts, and the first offence in it. -/
theorem serializeGiven_eq_error_iff {statements : List GivenStatement} {e : Fault} :
    serializeGiven .nTriples statements = .error e ↔
      ∃ before s after why, statements = before ++ s :: after ∧ (∀ b ∈ before, b.IsValid) ∧
        s.offence? = some why ∧ e = Cause.unwritable why := by
  rw [serializeGiven, serialize_eq_error_iff, findSome?_obstacle?_map]
  simp only [List.findSome?_eq_some_iff, GivenStatement.offence?_eq_none_iff]
  constructor
  · rintro ⟨why, ⟨before, s, after, hSplit, hWhy, hBefore⟩, rfl⟩
    exact ⟨before, s, after, why, hSplit, hBefore, hWhy, rfl⟩
  · rintro ⟨before, s, after, why, hSplit, hBefore, hWhy, rfl⟩
    exact ⟨why, ⟨before, s, after, hSplit, hWhy, hBefore⟩, rfl⟩

/-- The documents of two lists are the document of both, one after the other. -/
theorem serializeGiven_append {sink more : List GivenStatement} {text text' : String}
    (h : serializeGiven .nTriples sink = .ok text) (h' : serializeGiven .nTriples more = .ok text') :
    serializeGiven .nTriples (sink ++ more) = .ok (text ++ text') := by
  obtain ⟨hValid, rfl⟩ := serializeGiven_eq_ok_iff.mp h
  obtain ⟨hValid', rfl⟩ := serializeGiven_eq_ok_iff.mp h'
  rw [serializeGiven_eq_ok_iff, List.map_append, String.join_append]
  exact ⟨List.forall_mem_append.mpr ⟨hValid, hValid'⟩, rfl⟩

/-- **A document in N-Triples is made of the displayed lines.**  There is none if some statement has an
IRI that is not absolute, a used datatype that is not, or a language tag that is not well-formed.  The
fault is then the first offence of the first such statement.  Otherwise the document is the displayed
lines, each with its line end and its language tag in lower case.  So the documents of two lists make the
document of both. -/
theorem serializeGiven_agrees_with_display (sink : List GivenStatement) :
    ((∃ e, serializeGiven .nTriples sink = .error e) ↔ ∃ s ∈ sink, ¬s.IsValid) ∧
    (∀ e, serializeGiven .nTriples sink = .error e ↔
      ∃ before s after why, sink = before ++ s :: after ∧ (∀ b ∈ before, b.IsValid) ∧
        s.offence? = some why ∧ e = Cause.unwritable why) ∧
    (∀ text, serializeGiven .nTriples sink = .ok text ↔
      (∀ s ∈ sink, s.IsValid) ∧ text = String.join (sink.map fun s => s.lowered.display ++ "\n")) ∧
    ∀ more text text', serializeGiven .nTriples sink = .ok text →
      serializeGiven .nTriples more = .ok text' →
      serializeGiven .nTriples (sink ++ more) = .ok (text ++ text') := by
  refine ⟨⟨?_, ?_⟩, fun e => serializeGiven_eq_error_iff, fun text => serializeGiven_eq_ok_iff,
    fun more text text' => serializeGiven_append⟩
  · rintro ⟨e, hError⟩
    obtain ⟨before, s, after, why, rfl, -, hWhy, -⟩ := serializeGiven_eq_error_iff.mp hError
    refine ⟨s, by simp, fun hValid => ?_⟩
    rw [GivenStatement.offence?_eq_none_iff.mpr hValid] at hWhy
    exact absurd hWhy (by simp)
  · rintro ⟨s, hs, hNot⟩
    cases hDocument : serializeGiven .nTriples sink with
    | error e => exact ⟨e, rfl⟩
    | ok text => exact absurd ((serializeGiven_eq_ok_iff.mp hDocument).1 s hs) hNot

/-- A literal with a language may have any datatype, and one of the datatype of plain texts is displayed
as such.  The first statement that is refused has two offences, and its predicate is told. -/
theorem serializeGiven_agrees_with_display_titles :
    let title : GivenStatement :=
      ⟨"http://h/1", "http://h/title", .literal "A \"new\"\nstart" (some "EN-us") (some "no type")⟩
    let year : GivenStatement :=
      ⟨"http://h/1", "http://h/year", .literal "1984" none (some (Vocabulary.xsd "string"))⟩
    let part : GivenStatement := ⟨"http://h/1", "http://h/part", .iri "http://h/2"⟩
    let untyped : GivenStatement := ⟨"http://h/1", "title", .literal "A" (some "not valid") none⟩
    serializeGiven .nTriples [title, year] = .ok
        ("<http://h/1> <http://h/title> \"A \\\"new\\\"\\nstart\"@en-us .\n" ++
          "<http://h/1> <http://h/year> \"1984\" .\n") ∧
      serializeGiven .nTriples [title, year, part] = .ok
        ("<http://h/1> <http://h/title> \"A \\\"new\\\"\\nstart\"@en-us .\n" ++
          "<http://h/1> <http://h/year> \"1984\" .\n" ++ "<http://h/1> <http://h/part> <http://h/2> .\n") ∧
      serializeGiven .nTriples [title, untyped, part] =
        .error (Cause.unwritable (.iri .predicate "title")) := by
  intro title year part untyped
  have hTitles : ∀ s ∈ [title, year], s.offence? = none := by decide +kernel
  have hPart : ∀ s ∈ [part], s.offence? = none := by decide +kernel
  obtain ⟨-, -, hTwo, hBoth⟩ := serializeGiven_agrees_with_display [title, year]
  obtain ⟨-, -, hOne, -⟩ := serializeGiven_agrees_with_display [part]
  obtain ⟨-, hError, -, -⟩ := serializeGiven_agrees_with_display [title, untyped, part]
  have hFirst := (hTwo _).mpr
    ⟨fun s hs => GivenStatement.offence?_eq_none_iff.mp (hTitles s hs), rfl⟩
  have hSecond := (hOne _).mpr ⟨fun s hs => GivenStatement.offence?_eq_none_iff.mp (hPart s hs), rfl⟩
  refine ⟨hFirst.trans (by decide +kernel), (hBoth _ _ _ hFirst hSecond).trans (by decide +kernel), ?_⟩
  refine (hError _).mpr ⟨[title], untyped, [part], .iri .predicate "title", rfl, fun b hb => ?_, ?_, rfl⟩
  · rw [List.mem_singleton.mp hb]
    exact GivenStatement.offence?_eq_none_iff.mp (by decide +kernel)
  · decide +kernel

end CatalogGraph.Rdf
