import CatalogGraph.Regex.Search

/-!
# The places of matches

Every search yields matches that lie in the text, one behind the other, with their groups inside of them
(`inOrder_matchesIn`).  This holds of any program, also of one that no pattern is written as: it rests on what a thread
keeps, `Thread.Within`.  A thread has started at some place, and all groups that it has entered or left since then lie
between that place and the one it is at:

* it starts so (`Thread.Within.begin`);
* entering and leaving a group keeps it so (`Thread.Within.enter`, `Thread.Within.leave`), and going on to another
  step or another character does (`Thread.Within.goTo`, `Thread.Within.mono`);
* so it is kept by all threads at one place (`passPlace_within`), and along the text (`follow_within`).

Which of the matches at a place is preferred has no part in this.
-/

namespace CatalogGraph.Regex

/-- A span that lies between two places. -/
structure Span.Within (s : Span) (first last : Nat) : Prop where
  first_le : first ≤ s.start
  start_le_stop : s.start ≤ s.stop
  stop_le : s.stop ≤ last

theorem Span.Within.mono {s : Span} {first last first' last' : Nat} (h : s.Within first last)
    (hFirst : first' ≤ first) (hLast : last ≤ last') : s.Within first' last' :=
  ⟨Nat.le_trans hFirst h.first_le, h.start_le_stop, Nat.le_trans h.stop_le hLast⟩

/-- A match that lies between two places, with its groups inside of it. -/
structure Match.Within (m : Match) (first last : Nat) : Prop where
  span : m.span.Within first last
  groups : ∀ group, some group ∈ m.groups → group.Within m.span.start m.span.stop

theorem Match.Within.mono {m : Match} {first last first' last' : Nat} (h : m.Within first last)
    (hFirst : first' ≤ first) (hLast : last ≤ last') : m.Within first' last' :=
  ⟨h.span.mono hFirst hLast, h.groups⟩

/-- Matches between two places that do not overlap, from left to right. -/
structure InOrder (first last : Nat) (ms : List Match) : Prop where
  within : ∀ m ∈ ms, m.Within first last
  apart : ms.Pairwise fun m next => m.span.stop ≤ next.span.start

theorem inOrder_nil (first last : Nat) : InOrder first last [] :=
  ⟨List.forall_mem_nil _, .nil⟩

/-- Behind the first match the others are in order. -/
theorem inOrder_cons_iff {first last : Nat} {m : Match} {ms : List Match} :
    InOrder first last (m :: ms) ↔ m.Within first last ∧ InOrder m.span.stop last ms := by
  constructor
  · rintro ⟨hWithin, hApart⟩
    obtain ⟨hFirst, hRest⟩ := List.forall_mem_cons.mp hWithin
    obtain ⟨hNext, hApart⟩ := List.pairwise_cons.mp hApart
    refine ⟨hFirst, fun next hMem => ?_, hApart⟩
    have hSpan := (hRest next hMem).span
    exact ⟨⟨hNext next hMem, hSpan.start_le_stop, hSpan.stop_le⟩, (hRest next hMem).groups⟩
  · rintro ⟨hFirst, hWithin, hApart⟩
    have hBehind : first ≤ m.span.stop := Nat.le_trans hFirst.span.first_le hFirst.span.start_le_stop
    refine ⟨List.forall_mem_cons.mpr ⟨hFirst, fun next hMem => ?_⟩, List.pairwise_cons.mpr ⟨?_, hApart⟩⟩
    · exact (hWithin next hMem).mono hBehind (Nat.le_refl last)
    · exact fun next hMem => (hWithin next hMem).span.first_le

/-! ## What a thread keeps -/

/-- A thread at `position` that has started at `first` or later.  The groups it has entered and left lie between its
start and `position`. -/
structure Thread.Within (t : Thread) (first position : Nat) : Prop where
  first_le : first ≤ t.start
  start_le : t.start ≤ position
  entered : ∀ e ∈ t.entered, t.start ≤ e.2 ∧ e.2 ≤ position
  left : ∀ e ∈ t.left, e.2.Within t.start position

namespace Thread.Within

variable {t : Thread} {first position : Nat}

theorem begin (h : first ≤ position) (entry : Nat) : (Thread.begin entry position).Within first position :=
  ⟨h, Nat.le_refl position, List.forall_mem_nil _, List.forall_mem_nil _⟩

theorem mono {later : Nat} (h : t.Within first position) (hLater : position ≤ later) : t.Within first later where
  first_le := h.first_le
  start_le := Nat.le_trans h.start_le hLater
  entered e he := ⟨(h.entered e he).1, Nat.le_trans (h.entered e he).2 hLater⟩
  left e he := (h.left e he).mono (Nat.le_refl _) hLater

/-- The next step of a thread has no part in where it has been. -/
theorem goTo (h : t.Within first position) (address : Nat) : { t with address }.Within first position :=
  ⟨h.first_le, h.start_le, h.entered, h.left⟩

theorem enter (h : t.Within first position) (index : Nat) : (t.enter index position).Within first position where
  first_le := h.first_le
  start_le := h.start_le
  entered := by
    refine List.forall_mem_cons.mpr ⟨⟨h.start_le, Nat.le_refl position⟩, fun e he => ?_⟩
    exact h.entered e (List.mem_filter.mp he).1
  left := h.left

theorem leave (h : t.Within first position) (index : Nat) : (t.leave index position).Within first position where
  first_le := h.first_le
  start_le := h.start_le
  entered := h.entered
  left := by
    refine List.forall_mem_cons.mpr ⟨?_, fun e he => h.left e (List.mem_filter.mp he).1⟩
    cases hEntered : t.entered.find? (·.1 == index) with
    | none => exact ⟨h.start_le, Nat.le_refl position, Nat.le_refl position⟩
    | some e =>
        obtain ⟨hStart, hPosition⟩ := h.entered e (List.mem_of_find?_eq_some hEntered)
        exact ⟨hStart, hPosition, Nat.le_refl position⟩

/-- A thread that has arrived is a match with its groups inside of it. -/
theorem toMatch (h : t.Within first position) (groupCount : Nat) :
    (t.toMatch groupCount position).Within first position where
  span := ⟨h.first_le, h.start_le, Nat.le_refl position⟩
  groups group hGroup := by
    obtain ⟨i, -, hLeft⟩ := List.mem_map.mp hGroup
    obtain ⟨e, hFound, rfl⟩ := Option.map_eq_some_iff.mp hLeft
    exact h.left e (List.mem_of_find?_eq_some hFound)

theorem cons {threads : List Thread} (h : t.Within first position)
    (hRest : ∀ t ∈ threads, t.Within first position) : ∀ t' ∈ t :: threads, t'.Within first position :=
  List.forall_mem_cons.mpr ⟨h, hRest⟩

end Thread.Within

/-! ## Threads at one place -/

variable {first last position : Nat}

theorem settleThreads_within (program : Program) (before after : Option Char) (fuel : Nat) {todo ready : List Thread}
    (seen : Array Bool) (hTodo : ∀ t ∈ todo, t.Within first position)
    (hReady : ∀ t ∈ ready, t.Within first position) :
    ∀ t ∈ settleThreads program before after position fuel todo seen ready, t.Within first position := by
  -- one case for each step that a thread may be at; which addresses were seen has no part in it
  induction fuel generalizing todo seen ready with
  | zero => exact fun t ht => hReady t (List.mem_reverse.mp ht)
  | succ fuel ih =>
      cases todo with
      | nil => exact fun t ht => hReady t (List.mem_reverse.mp ht)
      | cons t todo =>
          obtain ⟨hThread, hTodo⟩ := List.forall_mem_cons.mp hTodo
          rw [settleThreads]
          split
          · exact ih _ hTodo hReady
          split
          · exact ih _ hTodo hReady
          · exact ih _ hTodo (hThread.cons hReady)
          · exact ih _ hTodo (hThread.cons hReady)
          · exact ih _ ((hThread.goTo _).cons ((hThread.goTo _).cons hTodo)) hReady
          · refine ih _ (fun t ht => ?_) hReady
            split at ht
            · exact (hThread.goTo _).cons hTodo t ht
            · exact hTodo t ht
          · exact ih _ (((hThread.enter _).goTo _).cons hTodo) hReady
          · exact ih _ (((hThread.leave _).goTo _).cons hTodo) hReady

theorem takeChar_within {program : Program} {next : Option Char} {threads : List Thread}
    (h : ∀ t ∈ threads, t.Within first position) :
    (∀ t ∈ (takeChar program next threads).1, t.Within first position) ∧
      ∀ t, (takeChar program next threads).2 = some t → t.Within first position := by
  induction threads with
  | nil => exact ⟨List.forall_mem_nil _, fun t ht => nomatch ht⟩
  | cons t threads ih =>
      obtain ⟨hThread, hRest⟩ := List.forall_mem_cons.mp h
      obtain ⟨hWaiting, hArrived⟩ := ih hRest
      rw [takeChar]
      split
      · refine ⟨List.forall_mem_nil _, fun t' ht => ?_⟩
        obtain rfl := Option.some.inj ht
        exact hThread
      · dsimp only
        split
        · split
          · exact ⟨(hThread.goTo _).cons hWaiting, hArrived⟩
          · exact ⟨hWaiting, hArrived⟩
        · exact ⟨hWaiting, hArrived⟩
      · exact ⟨hWaiting, hArrived⟩

/-- At one place all threads keep their bounds, and a match that is found there lies between them. -/
theorem passPlace_within (re : Regex) (before after : Option Char) {threads : List Thread} {found : Option Match}
    (hThreads : ∀ t ∈ threads, t.Within first position) (hFound : ∀ m, found = some m → m.Within first position) :
    (∀ t ∈ (passPlace re before after position threads found).1, t.Within first position) ∧
      ∀ m, (passPlace re before after position threads found).2 = some m → m.Within first position := by
  have hReady := settleThreads_within re.program before after (threads.length + 2 * re.program.size + 1)
    (.replicate re.program.size false) hThreads (List.forall_mem_nil _)
  obtain ⟨hWaiting, hArrived⟩ := takeChar_within hReady
  refine ⟨hWaiting, fun m hm => ?_⟩
  rw [passPlace] at hm
  rcases Option.or_eq_some_iff.mp hm with hNew | ⟨-, hOld⟩
  · obtain ⟨t, ht, rfl⟩ := Option.map_eq_some_iff.mp hNew
    exact (hArrived t ht).toMatch re.groupCount
  · exact hFound m hOld

theorem startThreads_within {re : Regex} {threads : List Thread} {found : Option Match} (hFirst : first ≤ position)
    (h : ∀ t ∈ threads, t.Within first position) :
    ∀ t ∈ startThreads re position threads found, t.Within first position := by
  unfold startThreads
  split
  · exact List.forall_mem_append.mpr ⟨h, List.forall_mem_singleton.mpr (.begin hFirst re.entry)⟩
  · exact h

/-! ## Along the text -/

/-- A match that is found while the rest of a text is read does not go beyond it. -/
theorem follow_within {re : Regex} {before : Option Char} {threads : List Thread} {found : Option Match}
    {rest : List Char} (hFirst : first ≤ position) (hThreads : ∀ t ∈ threads, t.Within first position)
    (hFound : ∀ m, found = some m → m.Within first position) :
    ∀ m, follow re before position threads found rest = some m → m.Within first (position + rest.length) := by
  induction rest generalizing before position threads found with
  | nil =>
      rw [follow, List.length_nil, Nat.add_zero]
      exact (passPlace_within re before none (startThreads_within hFirst hThreads) hFound).2
  | cons c rest ih =>
      intro m hm
      rw [follow] at hm
      dsimp only at hm
      split at hm
      · exact (hFound m hm).mono (Nat.le_refl first) (Nat.le_add_right position _)
      · obtain ⟨hWaiting, hNew⟩ := passPlace_within re before (some c)
          (startThreads_within hFirst hThreads) hFound
        have hNext : position ≤ position + 1 := Nat.le_succ position
        have hRest := ih (Nat.le_trans hFirst hNext) (fun t ht => (hWaiting t ht).mono hNext)
          (fun m' hm' => (hNew m' hm').mono (Nat.le_refl first) hNext) m hm
        rwa [List.length_cons, Nat.add_comm rest.length 1, ← Nat.add_assoc]

theorem search_within {re : Regex} {text : List Char} {m : Match} (hPosition : position ≤ text.length)
    (h : search re text position = some m) : m.Within position text.length := by
  have hEnd : position + (text.drop position).length = text.length := by
    rw [List.length_drop, Nat.add_sub_cancel' hPosition]
  have hNone : ∀ m, (none : Option Match) = some m → m.Within position position := fun m hm => nomatch hm
  have hWithin := follow_within (Nat.le_refl position) (List.forall_mem_nil _) hNone m h
  rwa [hEnd] at hWithin

theorem inOrder_matchesFrom {re : Regex} {text : List Char} (fuel : Nat) (last : Option Nat)
    (hPosition : position ≤ text.length) : InOrder position text.length (matchesFrom re text fuel position last) := by
  induction fuel generalizing position last with
  | zero => exact inOrder_nil position text.length
  | succ fuel ih =>
      have hNext (m : Match) (hm : m.Within position text.length) :
          InOrder position text.length (m :: matchesFrom re text fuel m.span.stop (some m.span.stop)) :=
        inOrder_cons_iff.mpr ⟨hm, ih _ hm.span.stop_le⟩
      rw [matchesFrom]
      split
      · next m hChosen =>
          refine hNext m ?_
          split at hChosen
          · next first hFirst =>
              split at hChosen
              · -- an empty match where the last one ended: the search goes on one character later
                split at hChosen
                · next hMore => exact (search_within hMore hChosen).mono (Nat.le_succ position) (Nat.le_refl _)
                · cases hChosen
              · obtain rfl := Option.some.inj hChosen
                exact search_within hPosition hFirst
          · cases hChosen
      · exact inOrder_nil position text.length

/-- All matches in a text lie in it, one behind the other, with their groups inside of them. -/
theorem inOrder_matchesIn (re : Regex) (text : List Char) : InOrder 0 text.length (matchesIn re text) :=
  inOrder_matchesFrom _ _ (Nat.zero_le _)

end CatalogGraph.Regex
