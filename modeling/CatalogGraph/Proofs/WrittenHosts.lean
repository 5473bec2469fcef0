import CatalogGraph.Conversion.ObjectUri
import CatalogGraph.Proofs.HostNames

/-!
# Hosts as they are written

A value becomes a URI if its text names a host, and the URI is kept as it is written.  A text writes its host out after
a scheme and `://` (`WritesHost`).  But the host of a scheme of the web is looked for behind any number of slashes, so
that a text with fewer or more slashes than two (`HasStraySlashes`) names a host without writing it out.

* `writesHost_or_hasStraySlashes`: there is no other way in which a text names a host;
* `hasHostChars_slashes`: how many slashes stand there makes no difference.

`objectUri_keeps_stray_slashes` says of every value and prefix which object they come to.
-/

namespace CatalogGraph.Uri

open Text Unicode

/-! ## Texts with a host -/

/-- Whether a character ends an authority. -/
def endsAuthority (c : Char) : Bool := c == '/' || c == '?' || c == '#'

/-- The parts of a text with a host: a scheme, perhaps a user before `@`, the host, perhaps a port after a colon, and
what comes behind the authority. -/
structure HostedText where
  scheme : List Char
  user : Option (List Char)
  host : List Char
  port : Option (List Char)
  rest : List Char
  isScheme_scheme : isScheme scheme = true
  user_inside : ∀ c ∈ user.getD [], endsAuthority c = false
  host_inside : ∀ c ∈ host, endsAuthority c = false
  host_form : HasHostForm host
  host_ne_nil : host ≠ []
  port_digits : ∀ c ∈ port.getD [], c.isDigit = true
  rest_outside : ∀ c, rest.head? = some c → endsAuthority c = true

/-- The text that the parts make up. -/
def HostedText.chars (t : HostedText) : List Char :=
  t.scheme ++ ':' :: '/' :: '/' :: (t.user.elim [] (· ++ ['@']) ++ (joined ':' (t.host, t.port) ++ t.rest))

/-- A text writes out a scheme and, behind `://`, a host. -/
def WritesHost (cs : List Char) : Prop := ∃ t : HostedText, t.chars = cs

/-- A text with a scheme of the web has fewer or more slashes behind it than two. -/
def HasStraySlashes (cs : List Char) : Prop :=
  ∃ scheme n rest, isWebScheme scheme = true ∧ n ≠ 2 ∧ rest.head? ≠ some '/' ∧
    cs = scheme ++ ':' :: (List.replicate n '/' ++ rest)

/-! ## Parting an authority -/

theorem authorityOf_append (cs : List Char) : authorityOf cs ++ cs.drop (authorityOf cs).length = cs := by
  unfold authorityOf
  rw [drop_length_takeWhile, List.takeWhile_append_dropWhile]

theorem authorityOf_inside {cs : List Char} {c : Char} (h : c ∈ authorityOf cs) : endsAuthority c = false := by
  have hInside := List.mem_takeWhile_imp h
  simpa [endsAuthority, and_assoc] using hInside

theorem authorityOf_outside {cs : List Char} {c : Char} (h : (cs.drop (authorityOf cs).length).head? = some c) :
    endsAuthority c = true := by
  unfold authorityOf at h
  rw [drop_length_takeWhile] at h
  have hStop := List.head?_dropWhile_not (fun c => c != '/' && c != '?' && c != '#') cs
  rw [h] at hStop
  simp only [Bool.and_eq_false_iff, bne_eq_false_iff_eq] at hStop
  simpa [endsAuthority] using hStop

/-- The user is what stands before the last `@`. -/
theorem afterUser_cases (authority : List Char) : ∃ user : Option (List Char),
    user.elim [] (· ++ ['@']) ++ afterUser authority = authority ∧ '@' ∉ afterUser authority := by
  have hParts := dropWhile_reverse_append (· != '@') authority
  have hNot : '@' ∉ afterUser authority := by
    intro hMem
    have hTaken := List.mem_takeWhile_imp (List.mem_reverse.mp hMem)
    exact absurd hTaken (by decide)
  cases hFront : authority.reverse.dropWhile (· != '@') with
  | nil =>
      rw [hFront] at hParts
      exact ⟨none, hParts, hNot⟩
  | cons last front =>
      have hStop := List.head?_dropWhile_not (· != '@') authority.reverse
      rw [hFront] at hStop hParts
      obtain rfl : last = '@' := by simpa using hStop
      rw [List.reverse_cons] at hParts
      exact ⟨some front.reverse, hParts, hNot⟩

/-- A host and a port are parted at a colon outside brackets. -/
theorem hostAndPort_cases (part : List Char) :
    joined ':' (hostAndPort part) = part ∧
      ((hostAndPort part).1.head? = some '[' ∨ ':' ∉ (hostAndPort part).1) := by
  unfold hostAndPort
  split
  · next rest =>
      simp only
      generalize (('[' :: rest).takeWhile (· != ']')).length = n
      have hMore := joined_cut ':' (('[' :: rest).drop (n + 1))
      constructor
      · calc _ = ('[' :: rest).take (n + 1) ++ joined ':' (cut ':' (('[' :: rest).drop (n + 1))) :=
            List.append_assoc _ _ _
          _ = '[' :: rest := by rw [hMore, List.take_append_drop]
      · exact Or.inl rfl
  · refine ⟨joined_cut ':' part, Or.inr ?_⟩
    rcases cut_cases ':' part with ⟨hNot, hCut⟩ | ⟨before, after, -, hNot, hCut⟩
    · rw [hCut]
      exact hNot
    · rw [hCut]
      exact hNot

theorem hasHostForm_of_isPlainHost {host : List Char} (hColon : host.head? = some '[' ∨ ':' ∉ host)
    (hAt : '@' ∉ host) (h : isPlainHost host = true) : HasHostForm host := by
  unfold isPlainHost at h
  split at h
  · exact hasHostForm_of_brackets h
  · next hBracket =>
      refine Or.inr fun c hc => Bool.eq_false_iff.mpr fun hMark => ?_
      rcases eq_of_isAuthorityMark hMark with rfl | rfl
      · exact hAt hc
      · refine hColon.elim (fun hHead => ?_) (fun hNot => hNot hc)
        obtain ⟨rest, rfl⟩ := List.head?_eq_some_iff.mp hHead
        exact hBracket rest rfl

/-! ## Named hosts are written out -/

/-- An authority with a host behind a scheme and `://`. -/
theorem writesHost_of_hasHostPart {scheme rest : List Char} (hScheme : isScheme scheme = true)
    {isHost : List Char → Bool}
    (hForm : ∀ host : List Char, (host.head? = some '[' ∨ ':' ∉ host) → '@' ∉ host → isHost host = true →
      HasHostForm host)
    (h : hasHostPart isHost (authorityOf rest) = true) : WritesHost (scheme ++ ':' :: '/' :: '/' :: rest) := by
  obtain ⟨user, hUser, hAt⟩ := afterUser_cases (authorityOf rest)
  obtain ⟨hPort, hColon⟩ := hostAndPort_cases (afterUser (authorityOf rest))
  unfold hasHostPart at h
  generalize hostAndPort (afterUser (authorityOf rest)) = part at h hPort hColon
  obtain ⟨host, port⟩ := part
  simp only [Bool.and_eq_true, Bool.not_eq_true', List.isEmpty_eq_false_iff] at h hColon
  obtain ⟨⟨hHost, hIsHost⟩, hDigits⟩ := h
  have hAtHost : '@' ∉ host := fun hMem => hAt (hPort ▸ List.mem_append_left _ hMem)
  have hInside : ∀ c ∈ user.elim [] (· ++ ['@']) ++ joined ':' (host, port), endsAuthority c = false := by
    rw [hPort, hUser]
    exact fun c hc => authorityOf_inside hc
  have hText :
      user.elim [] (· ++ ['@']) ++ (joined ':' (host, port) ++ rest.drop (authorityOf rest).length) = rest := by
    rw [hPort, ← List.append_assoc, hUser, authorityOf_append]
  refine ⟨⟨scheme, user, host, port, rest.drop (authorityOf rest).length, hScheme, ?_, ?_,
    hForm host hColon hAtHost hIsHost, hHost, ?_, fun c hc => authorityOf_outside hc⟩,
    congrArg (scheme ++ ':' :: '/' :: '/' :: ·) hText⟩
  · intro c hc
    refine hInside c (List.mem_append_left _ ?_)
    cases user with
    | none => exact hc
    | some user => exact List.mem_append_left _ hc
  · exact fun c hc => hInside c (List.mem_append_right _ (List.mem_append_left _ hc))
  · intro c hc
    cases port with
    | none => exact absurd hc List.not_mem_nil
    | some port =>
        simp only [Option.all_some, isPort, Bool.and_eq_true, List.all_eq_true] at hDigits
        exact hDigits.1 c hc

theorem writesHost_of_hasFileHost {scheme rest : List Char} (hScheme : isScheme scheme = true)
    (h : hasFileHost rest = true) : WritesHost (scheme ++ ':' :: rest) := by
  unfold hasFileHost at h
  split at h
  · next rest =>
      simp only [Bool.and_eq_true, Bool.not_eq_true', List.isEmpty_eq_false_iff] at h
      obtain ⟨⟨⟨⟨hHost, -⟩, hWeb⟩, -⟩, -⟩ := h
      refine ⟨⟨scheme, none, authorityOf rest, none, rest.drop (authorityOf rest).length, hScheme,
        fun c hc => absurd hc List.not_mem_nil, fun c hc => authorityOf_inside hc, hasHostForm_of_isWebHost hWeb, hHost,
        fun c hc => absurd hc List.not_mem_nil, fun c hc => authorityOf_outside hc⟩, ?_⟩
      simp only [HostedText.chars, joined, Option.elim_none, List.nil_append, List.append_nil, authorityOf_append]
  · cases h

theorem isScheme_of_isIriChars {cs scheme rest : List Char} (h : isIriChars cs = true)
    (hCut : cut ':' cs = (scheme, some rest)) : isScheme scheme = true := by
  unfold isIriChars iriParts? at h
  rw [hCut] at h
  simp only at h
  split at h
  · simp only [Option.any_some, IriParts.isValid, Bool.and_eq_true] at h
    exact h.1.1.1.1
  · simp only [Option.any_some, IriParts.isValid, Bool.and_eq_true] at h
    exact h.1.1.1.1

/-! ## Slashes of the web -/

/-- What stands after the slashes that a text starts with. -/
theorem takeWhile_slashes {n : Nat} {rest : List Char} (h : rest.head? ≠ some '/') :
    (List.replicate n '/' ++ rest).takeWhile (· == '/') = List.replicate n '/' ∧
      (List.replicate n '/' ++ rest).dropWhile (· == '/') = rest := by
  have hSlashes : ∀ c ∈ List.replicate n '/', (c == '/') = true :=
    fun c hc => beq_iff_eq.mpr (List.eq_of_mem_replicate hc)
  have hDrop := List.dropWhile_beq_eq_self_of_head?_ne h
  have hTake : rest.takeWhile (· == '/') = [] := by
    have hAll := List.takeWhile_append_dropWhile (p := (· == '/')) (l := rest)
    rw [hDrop] at hAll
    exact List.append_left_eq_self.mp hAll
  rw [List.takeWhile_append_of_pos hSlashes, List.dropWhile_append_of_pos hSlashes, hTake, hDrop, List.append_nil]
  exact ⟨rfl, rfl⟩

theorem notMem_of_isWebScheme {scheme : List Char} (h : isWebScheme scheme = true) : ':' ∉ scheme := by
  intro hMem
  have hLower : ':' ∈ (String.ofList (scheme.map lowerAscii)).toList := by
    rw [String.toList_ofList]
    exact List.mem_map.mpr ⟨':', hMem, by decide⟩
  have hNone : ∀ s ∈ webSchemes, ':' ∉ s.toList := by decide
  exact hNone _ (List.contains_iff_mem.mp h) hLower

theorem notMem_of_isScheme {scheme : List Char} (h : isScheme scheme = true) : ':' ∉ scheme := by
  intro hMem
  cases scheme with
  | nil => exact absurd hMem List.not_mem_nil
  | cons c cs =>
      simp only [isScheme, Bool.and_eq_true, List.all_eq_true] at h
      rcases List.mem_cons.mp hMem with rfl | hMem
      · exact absurd h.1 (by decide)
      · exact absurd (h.2 ':' hMem) (by decide)

/-- The number of slashes behind a scheme of the web makes no difference. -/
theorem hasHostChars_slashes {scheme rest : List Char} (hScheme : isWebScheme scheme = true)
    (hRest : rest.head? ≠ some '/') (n : Nat) :
    hasHostChars (scheme ++ ':' :: (List.replicate n '/' ++ rest)) =
      hasHostPart isWebHost (authorityOf rest) := by
  unfold hasHostChars
  simp only [cut_append_cons (notMem_of_isWebScheme hScheme), if_pos hScheme, (takeWhile_slashes hRest).2]

/-- A text that names a host writes it out, or it has other slashes than two behind a scheme of the web. -/
theorem writesHost_or_hasStraySlashes {cs : List Char} (hIri : isIriChars cs = true)
    (h : hasHostChars cs = true) : WritesHost cs ∨ HasStraySlashes cs := by
  rcases cut_cases ':' cs with ⟨-, hCut⟩ | ⟨scheme, rest, rfl, -, hCut⟩
  · unfold hasHostChars at h
    rw [hCut] at h
    cases h
  have hScheme := isScheme_of_isIriChars hIri hCut
  unfold hasHostChars at h
  simp only [hCut] at h
  split at h
  · next hWeb =>
      have hSlashes : rest.takeWhile (· == '/') = List.replicate (rest.takeWhile (· == '/')).length '/' :=
        List.eq_replicate_of_mem fun c hc => beq_iff_eq.mp (List.mem_takeWhile_imp (p := (· == '/')) hc)
      have hParts := List.takeWhile_append_dropWhile (p := (· == '/')) (l := rest)
      rw [hSlashes] at hParts
      by_cases hTwo : (rest.takeWhile (· == '/')).length = 2
      · rw [hTwo] at hParts
        rw [← hParts]
        exact Or.inl (writesHost_of_hasHostPart hScheme (fun _ _ _ => hasHostForm_of_isWebHost) h)
      · refine Or.inr ⟨scheme, _, rest.dropWhile (· == '/'), hWeb, hTwo, ?_, by rw [hParts]⟩
        intro hHead
        have hStop := List.head?_dropWhile_not (· == '/') rest
        rw [hHead] at hStop
        exact absurd hStop (by decide)
  · split at h
    · exact Or.inl (writesHost_of_hasFileHost hScheme h)
    · split at h
      · exact Or.inl (writesHost_of_hasHostPart hScheme (fun _ hColon hAt => hasHostForm_of_isPlainHost hColon hAt) h)
      · cases h

/-- An authority does not start with a slash. -/
theorem HostedText.head?_ne_slash (t : HostedText) :
    (t.user.elim [] (· ++ ['@']) ++ (joined ':' (t.host, t.port) ++ t.rest)).head? ≠ some '/' := by
  have hInside {c : Char} {cs more : List Char} (h : ∀ d ∈ c :: cs, endsAuthority d = false) :
      (c :: cs ++ more).head? ≠ some '/' := by
    intro hHead
    obtain rfl := Option.some.inj hHead
    exact absurd (h '/' List.mem_cons_self) (by decide)
  obtain ⟨scheme, user, host, port, rest, -, hUser, hHost, -, hNil, -, -⟩ := t
  cases user with
  | none =>
      obtain ⟨c, cs, rfl⟩ := List.exists_cons_of_ne_nil hNil
      rw [Option.elim_none, List.nil_append, joined, List.append_assoc]
      exact hInside hHost
  | some user =>
      rw [Option.elim_some, List.append_assoc]
      cases user with
      | nil => exact fun hHead => absurd (Option.some.inj hHead) (by decide)
      | cons c cs => exact hInside hUser

theorem not_writesHost_of_hasStraySlashes {cs : List Char} (h : HasStraySlashes cs) : ¬WritesHost cs := by
  rintro ⟨t, hChars⟩
  obtain ⟨scheme, n, rest, hWeb, hn, hRest, rfl⟩ := h
  have hBehind : some (List.replicate 2 '/' ++
      (t.user.elim [] (· ++ ['@']) ++ (joined ':' (t.host, t.port) ++ t.rest))) =
      some (List.replicate n '/' ++ rest) := by
    have hCut := congrArg (cut ':') hChars
    rw [HostedText.chars, cut_append_cons (notMem_of_isScheme t.isScheme_scheme),
      cut_append_cons (notMem_of_isWebScheme hWeb)] at hCut
    exact congrArg Prod.snd hCut
  -- neither the authority nor the rest starts with a slash, so the slashes can be counted
  have hSlashes : List.replicate 2 '/' = List.replicate n '/' := by
    rw [← (takeWhile_slashes t.head?_ne_slash).1, Option.some.inj hBehind, (takeWhile_slashes hRest).1]
  have hLength := congrArg List.length hSlashes
  rw [List.length_replicate, List.length_replicate] at hLength
  exact hn hLength.symm

/-- A text without colon has neither a host written out nor stray slashes. -/
theorem not_hosted_of_notMem {cs : List Char} (h : ':' ∉ cs) : ¬WritesHost cs ∧ ¬HasStraySlashes cs := by
  constructor
  · rintro ⟨t, rfl⟩
    exact h (List.mem_append_right _ List.mem_cons_self)
  · rintro ⟨scheme, n, rest, -, -, -, rfl⟩
    exact h (List.mem_append_right _ List.mem_cons_self)

/-! ## Hosts in letters -/

/-- A label whose characters stand in none of the tables from right to left is not written so. -/
theorem isRightToLeft_eq_false {label : List Char}
    (h : ∀ c ∈ label, (directionTables.take 3).find? (fun row => row.2.contains c) = none) :
    isRightToLeft label = false := by
  have hNames : ∀ row ∈ directionRows.drop 3, ["R", "AL", "AN"].contains row.1 = false := by decide
  refine List.any_eq_false.mpr fun c hc => Bool.not_eq_true _ ▸ ?_
  unfold direction
  rw [← List.take_append_drop 3 directionTables, List.find?_append, h c hc, Option.none_or]
  cases hFind : (directionTables.drop 3).find? fun row => row.2.contains c with
  | none => decide
  | some row =>
      have hRow := List.mem_of_find?_eq_some hFind
      rw [directionTables, ← List.map_drop] at hRow
      obtain ⟨source, hSource, rfl⟩ := List.mem_map.mp hRow
      exact hNames source hSource

theorem isWebHost_a : isWebHost ['a'] = true := by
  have hDecoded : decodedChars? ['a'] = some ['a'] := by decide +kernel
  have hName : ['a'].flatMap nameForm = ['a'] := by decide
  have hLabels : (splitOnChar '.' ['a']).mapM decodedLabel? = some [['a']] := by decide +kernel
  have hDirection : isRightToLeft ['a'] = false := by
    refine isRightToLeft_eq_false (List.forall_mem_singleton.mpr ?_)
    decide +kernel
  have hForm : domainForm? ['a'] = some ['a'] := by
    unfold domainForm?
    simp only [hName]
    rw [hLabels]
    simp [hDirection]
  unfold isWebHost
  split
  · next h => exact absurd (List.cons.inj h).1 (by decide)
  · rw [hDecoded, Option.bind_some, hForm]
    decide
end CatalogGraph.Uri

namespace CatalogGraph.Conversion

open CatalogGraph.Uri

/-- Every value comes to the text of its prefix and itself, as a URI or as a plain literal.

* It is a URI only if the text is an IRI, and then the text writes out a scheme and a host, except if it has stray
  slashes: fewer or more than two behind a scheme of the web.
* With neither a host written out nor stray slashes it is a literal.
* With a scheme of the web it is a URI if the text is an IRI and what follows its slashes, however many there are,
  starts with a host and a port. -/
theorem objectUri_keeps_stray_slashes (value base : String) :
    (objectUri value base = .iri (base ++ value) ∨ objectUri value base = .plain (base ++ value)) ∧
      (objectUri value base = .iri (base ++ value) →
        isIri (base ++ value) = true ∧
          (WritesHost (base ++ value).toList ↔ ¬HasStraySlashes (base ++ value).toList)) ∧
      (¬WritesHost (base ++ value).toList → ¬HasStraySlashes (base ++ value).toList →
        objectUri value base = .plain (base ++ value)) ∧
      ∀ scheme n rest, isWebScheme scheme = true → rest.head? ≠ some '/' →
        (base ++ value).toList = scheme ++ ':' :: (List.replicate n '/' ++ rest) →
        (objectUri value base = .iri (base ++ value) ↔
          isIri (base ++ value) = true ∧ hasHostPart isWebHost (authorityOf rest) = true) := by
  have hIff : objectUri value base = .iri (base ++ value) ↔
      isIri (base ++ value) = true ∧ hasHostChars (base ++ value).toList = true := by
    unfold objectUri isHostedIri
    rw [← Bool.and_eq_true]
    split
    · next hHosted => exact iff_of_true rfl hHosted
    · next hPlain => exact iff_of_false (fun h => by cases h) hPlain
  have hEither : objectUri value base = .iri (base ++ value) ∨ objectUri value base = .plain (base ++ value) := by
    unfold objectUri
    split
    · exact Or.inl rfl
    · exact Or.inr rfl
  have hWritten : objectUri value base = .iri (base ++ value) →
      isIri (base ++ value) = true ∧
        (WritesHost (base ++ value).toList ∨ HasStraySlashes (base ++ value).toList) := by
    intro h
    obtain ⟨hIri, hHost⟩ := hIff.mp h
    exact ⟨hIri, writesHost_or_hasStraySlashes hIri hHost⟩
  refine ⟨hEither, fun h => ⟨(hWritten h).1, fun hWrites hStray => not_writesHost_of_hasStraySlashes hStray hWrites,
    (hWritten h).2.resolve_right⟩, fun hWrites hStray => ?_, ?_⟩
  · exact hEither.resolve_left fun h => (hWritten h).2.elim hWrites hStray
  · intro scheme n rest hScheme hRest hText
    rw [hIff, hText, hasHostChars_slashes hScheme hRest]

/-- A URI with an address as its host, and a word that is none. -/
theorem objectUri_keeps_stray_slashes_titles :
    objectUri "titles" "http://[::1]/" = .iri "http://[::1]/titles" ∧
      (WritesHost "http://[::1]/titles".toList ↔ ¬HasStraySlashes "http://[::1]/titles".toList) ∧
      objectUri "Emma" "" = .plain "Emma" := by
  have hUri : objectUri "titles" "http://[::1]/" = .iri "http://[::1]/titles" :=
    ((objectUri_keeps_stray_slashes "titles" "http://[::1]/").2.2.2 "http".toList 2 "[::1]/titles".toList (by decide)
      (by decide) (by decide)).mpr ⟨by decide +kernel, by decide +kernel⟩
  have hNone : ':' ∉ "Emma".toList := by decide
  exact ⟨hUri, ((objectUri_keeps_stray_slashes "titles" "http://[::1]/").2.1 hUri).2,
    (objectUri_keeps_stray_slashes "Emma" "").2.2.1 (not_hosted_of_notMem hNone).1 (not_hosted_of_notMem hNone).2⟩

/-- A text that becomes a URI although no `//` and no host stand in it. -/
theorem objectUri_without_slashes :
    objectUri "http:a" "" = .iri "http:a" ∧ isIri "http:a" = true ∧ ¬WritesHost "http:a".toList := by
  have hIri : isIri "http:a" = true := by decide +kernel
  have hWeb : isWebScheme "http".toList = true := by decide
  have hStart : ['a'].head? ≠ some '/' := by decide
  have hText : "http:a".toList = "http".toList ++ ':' :: (List.replicate 0 '/' ++ ['a']) := by decide
  have hHost : hasHostChars "http:a".toList = true := by
    rw [hText, hasHostChars_slashes hWeb hStart]
    simp [hasHostPart, authorityOf, afterUser, hostAndPort, cut, isWebHost_a]
  refine ⟨?_, hIri, not_writesHost_of_hasStraySlashes ⟨_, 0, ['a'], hWeb, by decide, hStart, hText⟩⟩
  have hHosted : isHostedIri "http:a" = true := by
    rw [isHostedIri, hIri, hHost]
    rfl
  exact if_pos hHosted

end CatalogGraph.Conversion
