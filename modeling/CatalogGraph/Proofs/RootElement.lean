import CatalogGraph.Marc.MarcXml
import CatalogGraph.Proofs.WrittenXml

/-!
# The kind of a document and its root element

Whether a document holds one record or a collection is decided by the first tag of either name in its
characters, and its elements are read without regard to that.  The two agree on the root element only if
nothing before it, and for a root of neither name nothing behind it, looks like such a tag:

* `fromRoot` — the characters from the root element on, behind blanks, comments, instructions and document
  types; a document that can be read has the name of its root there (`fromRoot_of_read?`);
* `rootKind?_append` — a bracket never continues what looks like a tag before it;
* `rootKind?_of_root` — so the kind comes from what is passed over, or else from the name of the root, or else
  from what is behind the name;
* `readXml_of_root` — what is read is what the name of the root stands for if and only if the kind is that of
  the name.

A comment before the root is enough to mislead (`readXml_of_root_misled`).
-/

namespace CatalogGraph.Xml

/-! ## The name of the root -/

/-- The root element has the name of the outermost of the open elements. -/
theorem name_of_elementFrom? {current : OpenElement} {outer : List OpenElement} {markup : List Markup}
    {name attrs : List Char} {content : List Node}
    (h : elementFrom? current outer markup = some (.element name attrs content)) :
    ((current :: outer).map OpenElement.name).getLast? = some name := by
  fun_induction elementFrom? current outer markup with
  | case1 => simp at h
  | case2 current outer start attrs rest ih => simpa [OpenElement.flush] using ih h
  | case3 current rest =>
      rw [Option.some.injEq, OpenElement.close, Node.element.injEq] at h
      simp [h.1]
  | case4 current rest parent outer ih => simpa [OpenElement.addNode] using ih h
  | case5 => simp at h
  | case6 current outer raw rest ih => simpa [OpenElement.addPart] using ih h
  | case7 current outer content rest ih => simpa [OpenElement.addPart] using ih h
  | case8 current outer rest ih => simpa [OpenElement.flush] using ih h
  | case9 => simp at h

/-! ## Where the root starts -/

/-- Whether markup begins with a start tag. -/
def startsElement : List Markup → Bool
  | .start _ _ :: _ => true
  | _ => false

/-- The characters from the first start tag on.  Every round takes a character at least. -/
def fromRootIn : Nat → List Char → List Char
  | _, [] => []
  | 0, c :: cs => c :: cs
  | rounds + 1, c :: cs =>
    if c == '<' then
      if startsElement (markupAfter cs).1 then c :: cs else fromRootIn rounds (markupAfter cs).2
    else fromRootIn rounds (cs.dropWhile (· != '<'))

/-- The characters of a document from its root element on. -/
def fromRoot (cs : List Char) : List Char :=
  let cs := if cs.head? == some '\uFEFF' then cs.drop 1 else cs
  fromRootIn cs.length cs

/-- The characters of a document before its root element. -/
def prolog (cs : List Char) : List Char := cs.take (cs.length - (fromRoot cs).length)

theorem fromRootIn_suffix (rounds : Nat) (cs : List Char) : fromRootIn rounds cs <:+ cs := by
  fun_induction fromRootIn rounds cs with
  | case1 => exact List.suffix_rfl
  | case2 => exact List.suffix_rfl
  | case3 => exact List.suffix_rfl
  | case4 rounds c cs _ _ ih => exact ih.trans ((markupAfter_suffix cs).trans (List.suffix_cons c cs))
  | case5 rounds c cs _ ih => exact ih.trans ((List.dropWhile_suffix _).trans (List.suffix_cons c cs))

theorem fromRoot_suffix (cs : List Char) : fromRoot cs <:+ cs := by
  unfold fromRoot
  simp only
  split
  · exact (fromRootIn_suffix _ _).trans (List.drop_suffix 1 cs)
  · exact fromRootIn_suffix _ _

theorem prolog_append_fromRoot (cs : List Char) : prolog cs ++ fromRoot cs = cs := by
  have hDrop := List.suffix_iff_eq_drop.mp (fromRoot_suffix cs)
  calc prolog cs ++ fromRoot cs
      = cs.take (cs.length - (fromRoot cs).length) ++ cs.drop (cs.length - (fromRoot cs).length) := by
        rw [← hDrop, prolog]
    _ = cs := List.take_append_drop _ _

/-- Whether what comes next ends the name of a tag. -/
def endsName : List Char → Bool
  | c :: _ => isBlankChar c || c == '>' || c == '/'
  | [] => false

/-- The content of a start tag begins with its name, which ends there. -/
theorem exists_of_tagOf (content after : List Char) :
    ∃ name attrs more rest, tagOf content = .start name attrs :: more ∧
      content ++ '>' :: after = name ++ rest ∧ endsName rest = true := by
  have hSplit : ∀ (cs : List Char) (d : Char) (rest : List Char), (d == '>' || d == '/') = true →
      ∃ tail, cs ++ d :: rest = cs.takeWhile (fun c => !isBlankChar c) ++ tail ∧ endsName tail = true := by
    intro cs d rest hd
    refine ⟨cs.dropWhile (fun c => !isBlankChar c) ++ d :: rest, ?_, ?_⟩
    · rw [← List.append_assoc, List.takeWhile_append_dropWhile]
    · cases hDrop : cs.dropWhile (fun c => !isBlankChar c) with
      | nil => rw [List.nil_append, endsName, Bool.or_assoc, hd, Bool.or_true]
      | cons c more =>
          have hc := List.head?_dropWhile_not (fun c => !isBlankChar c) cs
          rw [hDrop] at hc
          simp at hc
          rw [List.cons_append, endsName, hc, Bool.true_or, Bool.true_or]
  unfold tagOf
  split
  · next hSlash =>
      obtain ⟨init, rfl⟩ := List.getLast?_eq_some_iff.mp (eq_of_beq hSlash)
      obtain ⟨tail, hTail, hEnds⟩ := hSplit init '/' ('>' :: after) rfl
      rw [List.dropLast_concat, List.append_assoc]
      exact ⟨_, _, _, tail, rfl, hTail, hEnds⟩
  · obtain ⟨tail, hTail, hEnds⟩ := hSplit content '>' after rfl
    exact ⟨_, _, _, tail, rfl, hTail, hEnds⟩

theorem declaration_cases (cs : List Char) :
    ((declaration cs).1 = [] ∨ (declaration cs).1 = [.doctype]) ∨
      ∀ more, root? ((declaration cs).1 ++ more) = none := by
  unfold declaration
  split
  · split
    · exact Or.inl (Or.inl rfl)
    · exact Or.inr fun _ => rfl
  · split
    · split <;> exact Or.inr fun _ => rfl
    · exact Or.inr fun _ => rfl
  · split
    · simp only
      split
      · exact Or.inl (Or.inr rfl)
      · exact Or.inr fun _ => rfl
    · exact Or.inr fun _ => rfl

/-- Behind a bracket there is what may stand before the root, a start tag, or what is not read on from. -/
theorem markupAfter_cases (cs : List Char) :
    ((markupAfter cs).1 = [] ∨ (markupAfter cs).1 = [.doctype]) ∨
      (∃ content after, cs = content ++ '>' :: after ∧ markupAfter cs = (tagOf content, after)) ∨
      ∀ more, root? ((markupAfter cs).1 ++ more) = none := by
  unfold markupAfter
  split
  · exact Or.inl (Or.inl rfl)
  · next cs =>
      rcases declaration_cases cs with hSkipped | hNone
      · exact Or.inl hSkipped
      · exact Or.inr (Or.inr hNone)
  · unfold instruction
    simp only
    split
    · exact Or.inl (Or.inl rfl)
    · exact Or.inr (Or.inr fun _ => rfl)
  · exact Or.inr (Or.inr fun _ => rfl)
  · split
    · next content after hContent =>
        exact Or.inr (Or.inl ⟨content, after, eq_of_tagContent? hContent, rfl⟩)
    · exact Or.inr (Or.inr fun _ => rfl)

/-- Where a root is read, its name stands behind the bracket of the first start tag. -/
theorem fromRootIn_of_root? {rounds : Nat} {cs name attrs : List Char} {content : List Node}
    (h : root? (markupIn rounds cs) = some (.element name attrs content)) :
    ∃ rest, fromRootIn rounds cs = '<' :: (name ++ rest) ∧ endsName rest = true := by
  induction rounds generalizing cs with
  | zero => cases cs <;> exact absurd h (by simp [markupIn, root?])
  | succ rounds ih =>
      cases cs with
      | nil => exact absurd h (by simp [markupIn, root?])
      | cons c cs =>
          rw [markupIn] at h
          rw [fromRootIn]
          split at h
          · next hBracket =>
              rw [if_pos hBracket]
              simp only at h
              rcases markupAfter_cases cs with (hNil | hDoctype) | ⟨inner, after, hContent, hTag⟩ | hNone
              -- a comment or an instruction leaves nothing, and a document type is passed over
              · rw [hNil, List.nil_append] at h
                rw [hNil]
                exact ih h
              · rw [hDoctype, List.singleton_append, root?] at h
                rw [hDoctype]
                exact ih h
              -- a start tag is that of the root
              · obtain ⟨start, startAttrs, more, rest, hTagOf, hSplit, hEnds⟩ := exists_of_tagOf inner after
                rw [hTag, hTagOf, List.cons_append, root?] at h
                have hName : start = name := by simpa using name_of_elementFrom? h
                rw [hTag, hTagOf, startsElement, if_pos rfl, eq_of_beq hBracket, hContent, hSplit, hName]
                exact ⟨rest, rfl, hEnds⟩
              · rw [hNone] at h
                exact absurd h (by simp)
          · next hText =>
              rw [if_neg hText]
              rw [root?] at h
              split at h
              · exact ih h
              · exact absurd h (by simp)

/-- Where a document is read, its root element starts with the name that is read. -/
theorem fromRoot_of_read? {cs name attrs : List Char} {content : List Node}
    (h : read? cs = some (.element name attrs content)) :
    ∃ rest, fromRoot cs = '<' :: (name ++ rest) ∧ endsName rest = true :=
  fromRootIn_of_root? h

end CatalogGraph.Xml

namespace CatalogGraph.Marc

open CatalogGraph.Text CatalogGraph.Xml

/-! ## What looks like a tag -/

/-- The kind that the name of an element stands for. -/
def kindNamed? (name : List Char) : Option RootKind :=
  if name = "collection".toList then some .collection
  else if name = "record".toList then some .record
  else none

/-- Whether no character of a name starts a tag or ends the name of one.  In a well-formed document this can
be missing for the ogham space mark only, which is white space but stands in names. -/
def isTagName (name : List Char) : Bool :=
  name.all fun c => !(c == '<' || isWhite c || c == '>' || c == '/')

theorem any_dropText?_iff {text cs : List Char} :
    (dropText? text cs).any endsTagName = true ↔ ∃ rest, cs = text ++ rest ∧ endsTagName rest = true := by
  rw [Option.any_eq_true]
  exact exists_congr fun rest => and_congr_left fun _ => dropText?_eq_some_iff

theorem endsTagName_of_endsName {rest : List Char} (h : endsName rest = true) : endsTagName rest = true := by
  cases rest with
  | nil => exact h
  | cons c rest =>
      rw [endsName, Bool.or_assoc, Bool.or_eq_true] at h
      rw [endsTagName, Bool.or_assoc, Bool.or_eq_true]
      refine h.imp (fun hBlank => ?_) id
      simp only [isBlankChar, Bool.or_eq_true, beq_iff_eq] at hBlank
      rcases hBlank with ((rfl | rfl) | rfl) | rfl <;> decide

/-- Up to the first character that ends it, the name of a tag can be told. -/
theorem eq_of_append_eq {name name' rest rest' : List Char} (hName : isTagName name = true)
    (hName' : isTagName name' = true) (hRest : endsTagName rest = true) (hRest' : endsTagName rest' = true)
    (h : name ++ rest = name' ++ rest') : name = name' := by
  have hTake : ∀ {name rest : List Char}, isTagName name = true → endsTagName rest = true →
      (name ++ rest).takeWhile (fun c => !(isWhite c || c == '>' || c == '/')) = name := by
    intro name rest hName hRest
    rw [List.takeWhile_append_of_pos]
    · cases rest with
      | nil => exact absurd hRest Bool.false_ne_true
      | cons c rest =>
          rw [endsTagName] at hRest
          rw [List.takeWhile_cons_of_neg (by simp [hRest]), List.append_nil]
    · intro c hc
      have hChar := List.all_eq_true.mp hName c hc
      simp only [Bool.not_eq_true', Bool.or_eq_false_iff] at hChar ⊢
      exact ⟨⟨hChar.1.1.2, hChar.1.2⟩, hChar.2⟩
  rw [← hTake hName hRest, h, hTake hName' hRest']

/-- The name of a tag stands for its kind. -/
theorem rootKindAt?_name {name rest : List Char} (hName : isTagName name = true)
    (hRest : endsTagName rest = true) : rootKindAt? (name ++ rest) = kindNamed? name := by
  have hIs : ∀ wanted, isTagName wanted = true →
      ((dropText? wanted (name ++ rest)).any endsTagName = true ↔ name = wanted) := by
    intro wanted hWanted
    rw [any_dropText?_iff]
    constructor
    · rintro ⟨tail, hSame, hTail⟩
      exact eq_of_append_eq hName hWanted hRest hTail hSame
    · rintro rfl
      exact ⟨rest, rfl, hRest⟩
  rw [rootKindAt?, kindNamed?]
  simp only [hIs _ (show isTagName "collection".toList = true by decide),
    hIs _ (show isTagName "record".toList = true by decide)]

/-- A bracket never continues what looks like a tag before it. -/
theorem rootKindAt?_append (cs rest : List Char) : rootKindAt? (cs ++ '<' :: rest) = rootKindAt? cs := by
  have hIs : ∀ wanted : List Char, '<' ∉ wanted →
      ((dropText? wanted (cs ++ '<' :: rest)).any endsTagName = true ↔
        (dropText? wanted cs).any endsTagName = true) := by
    intro wanted hWanted
    rw [any_dropText?_iff, any_dropText?_iff]
    constructor
    · rintro ⟨tail, hSplit, hTail⟩
      -- a name that goes on behind the bracket would hold it, and right behind the name it ends nothing
      rcases List.append_eq_append_iff.mp hSplit with ⟨more, hMore, hRest⟩ | ⟨more, hMore, hRest⟩
      · cases more with
        | nil =>
            rw [List.nil_append] at hRest
            rw [← hRest] at hTail
            exact absurd hTail Bool.false_ne_true
        | cons c more =>
            rw [List.cons_append, List.cons.injEq] at hRest
            exact absurd (hMore ▸ hRest.1 ▸ by simp) hWanted
      · cases more with
        | nil =>
            rw [List.nil_append] at hRest
            rw [hRest] at hTail
            exact absurd hTail Bool.false_ne_true
        | cons c more =>
            rw [hRest] at hTail
            exact ⟨c :: more, hMore, hTail⟩
    · rintro ⟨tail, rfl, hTail⟩
      cases tail with
      | nil => exact absurd hTail Bool.false_ne_true
      | cons c tail => exact ⟨c :: tail ++ '<' :: rest, List.append_assoc _ _ _, hTail⟩
  rw [rootKindAt?, rootKindAt?]
  simp only [hIs "collection".toList (by decide), hIs "record".toList (by decide)]

/-- What looks like a tag before a bracket comes first. -/
theorem rootKind?_append (before rest : List Char) :
    rootKind? (before ++ '<' :: rest) = (rootKind? before).or (rootKind? ('<' :: rest)) := by
  induction before with
  | nil => rfl
  | cons c cs ih =>
      by_cases hBracket : c = '<'
      · rw [hBracket, List.cons_append, rootKind?, ih, rootKindAt?_append, ← Option.or_assoc, ← rootKind?]
      · have hOther : ∀ cs, rootKind? (c :: cs) = rootKind? cs := fun cs => by
          rw [rootKind?]
          exact hBracket
        rw [List.cons_append, hOther, hOther, ih]

theorem rootKind?_of_notMem {name : List Char} (h : '<' ∉ name) (rest : List Char) :
    rootKind? (name ++ rest) = rootKind? rest := by
  induction name with
  | nil => rfl
  | cons c cs ih =>
      rw [List.mem_cons, not_or] at h
      rw [List.cons_append, rootKind?, ih h.2]
      exact Ne.symm h.1

/-! ## The kind of a document -/

/-- Reads a document as one of a kind, or else finds nothing to read. -/
def readAs (xml : String) : Option RootKind → Outcome (List Record)
  | some .collection => recordsOfXml xml
  | some .record => (recordOfXml xml).map fun r => [r]
  | none => .error (Cause.unreadable .noRecords)

theorem readXml_eq_readAs (xml : String) :
    readXml xml = readAs xml (rootKind? (withoutNamespaces xml.toList)) := by
  unfold readXml readAs
  cases rootKind? (withoutNamespaces xml.toList) with
  | none => rfl
  | some kind => cases kind <;> rfl

/-- The characters of a document behind the name in the tag of its root element. -/
def behindName (name cs : List Char) : List Char := (fromRoot cs).drop (name.length + 1)

variable {name attrs : List Char} {content : List Node}

/-- The kind of a document comes from what is passed over before the root, or else from the name of the root,
or else from what is behind the name. -/
theorem rootKind?_of_root {cs : List Char} (hRoot : Xml.read? cs = some (.element name attrs content))
    (hName : isTagName name = true) :
    rootKind? cs = (rootKind? (prolog cs)).or ((kindNamed? name).or (rootKind? (behindName name cs))) := by
  obtain ⟨rest, hStart, hEnds⟩ := fromRoot_of_read? hRoot
  have hBehind : behindName name cs = rest := by
    rw [behindName, hStart, List.drop_succ_cons, List.drop_left]
  have hBracket : '<' ∉ name := fun hMem => absurd (List.all_eq_true.mp hName _ hMem) (by decide)
  calc rootKind? cs
      = rootKind? (prolog cs ++ '<' :: (name ++ rest)) := by rw [← hStart, prolog_append_fromRoot]
    _ = (rootKind? (prolog cs)).or ((kindNamed? name).or (rootKind? rest)) := by
        rw [rootKind?_append, rootKind?, rootKindAt?_name hName (endsTagName_of_endsName hEnds),
          rootKind?_of_notMem hBracket]
    _ = _ := by rw [hBehind]

/-- **What decides how a document is read.**  Where its root element is read, the kind of the document is that
of the first tag of a collection or a record before the root, or else that of the root, or else that of the first
such tag behind the name of the root.  So it is the kind of the root if and only if there is no such tag before
it, or one of its own kind, and for a root of neither kind none behind it either. -/
theorem readXml_of_root {xml : String}
    (hRoot : Xml.read? (withoutNamespaces xml.toList) = some (.element name attrs content))
    (hName : isTagName name = true) :
    let text := withoutNamespaces xml.toList
    let kind := (rootKind? (prolog text)).or ((kindNamed? name).or (rootKind? (behindName name text)))
    readXml xml = readAs xml kind ∧
      (kind = kindNamed? name ↔
        (rootKind? (prolog text) = none ∨ rootKind? (prolog text) = kindNamed? name) ∧
          (kindNamed? name = none → rootKind? (behindName name text) = none)) := by
  intro text kind
  refine ⟨by rw [readXml_eq_readAs, rootKind?_of_root hRoot hName], ?_⟩
  change (rootKind? (prolog text)).or ((kindNamed? name).or (rootKind? (behindName name text))) = _ ↔ _
  cases rootKind? (prolog text) with
  | none => cases kindNamed? name <;> simp
  | some before => cases kindNamed? name <;> simp

/-- A declaration and a label before the name of the root do not matter. -/
theorem readXml_of_root_labelled :
    let xml := "<?xml version=\"1.0\"?><m:collection xmlns:m=\"urn:marc\"><m:record/></m:collection>"
    (Xml.read? (withoutNamespaces xml.toList) =
        some (.element "collection".toList [] [.element "record".toList [] []]) ∧
      isTagName "collection".toList = true) ∧
      readXml xml = recordsOfXml xml ∧ recordsOfXml xml = .ok [.empty] := by
  intro xml
  have hText : withoutNamespaces xml.toList =
      "<?xml version=\"1.0\"?><collection><record/></collection>".toList := by decide +kernel
  have hRoot : Xml.read? (withoutNamespaces xml.toList) =
      some (.element "collection".toList [] [.element "record".toList [] []]) := by
    rw [hText]
    rfl
  have hName : isTagName "collection".toList = true := by decide
  obtain ⟨hRead, hKind⟩ := readXml_of_root hRoot hName
  have hBefore : rootKind? (prolog (withoutNamespaces xml.toList)) = none := by
    rw [hText]
    decide +kernel
  refine ⟨⟨hRoot, hName⟩, ?_, ?_⟩
  · rw [hRead, hKind.mpr ⟨Or.inl hBefore, by decide⟩]
    rfl
  · rw [recordsOfXml, rootOf?, hRoot]
    rfl

/-- A tag in a comment before the root makes one record of a collection, without any of its fields, and a
record inside another root is not the root. -/
theorem readXml_of_root_misled :
    let comment := "<!-- <record> --><collection><record>" ++
      "<controlfield tag=\"001\">1</controlfield></record></collection>"
    let inside := "<wrapper><record></record></wrapper>"
    ((∃ content, Xml.read? (withoutNamespaces comment.toList) =
          some (.element "collection".toList [] content)) ∧
        recordsOfXml comment = .ok [.ofFields [.control ⟨"001", "1"⟩]] ∧ readXml comment = .ok [.empty]) ∧
      (∃ content, Xml.read? (withoutNamespaces inside.toList) =
          some (.element "wrapper".toList [] content)) ∧
        readXml inside = .ok [.empty] :=
  ⟨⟨⟨_, rfl⟩, rfl, rfl⟩, ⟨_, rfl⟩, rfl⟩

end CatalogGraph.Marc
