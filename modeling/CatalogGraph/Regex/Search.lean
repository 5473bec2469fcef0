import CatalogGraph.Regex.Program
import CatalogGraph.Regex.Reader

/-!
# Searching

The matches of a regular expression in a text.  The leftmost match wins; of several that start at one
place the preferred one of the pattern wins.  All of them are followed at once, as an ordered list of
threads that read the text one character at a time, so the time is bounded by the size of the text
times the size of the pattern.

The search for the next match starts where the last one ended.  An empty match is not taken where the
last match ended: there the search goes on one character later.
-/

namespace CatalogGraph.Regex

/-- A part of a text, by the numbers of characters before its start and before its end. -/
structure Span where
  start : Nat
  stop : Nat
  deriving DecidableEq, Repr

namespace Span

/-- The characters of a text that lie in the span. -/
def chars (s : Span) (text : List Char) : List Char :=
  (text.drop s.start).take (s.stop - s.start)

/-- The part of a text that lies in the span. -/
def text (s : Span) (text : List Char) : String :=
  String.ofList (s.chars text)

end Span

/-- A match: its own span, and the spans of its groups from group 1 on, where a group took part. -/
structure Match where
  span : Span
  groups : List (Option Span)
  deriving Repr

/-- One way to match that is being followed: the next step, the start of the match, the groups that
were entered and those that were left. -/
structure Thread where
  address : Nat
  start : Nat
  entered : List (Nat × Nat)
  left : List (Nat × Span)

namespace Thread

/-- The thread that starts a match. -/
def begin (entry position : Nat) : Thread := ⟨entry, position, [], []⟩

/-- The thread with a group entered. -/
def enter (t : Thread) (index position : Nat) : Thread :=
  { t with entered := (index, position) :: t.entered.filter (·.1 != index) }

/-- The thread with a group left. -/
def leave (t : Thread) (index position : Nat) : Thread :=
  let start := ((t.entered.find? (·.1 == index)).map Prod.snd).getD position
  { t with left := (index, ⟨start, position⟩) :: t.left.filter (·.1 != index) }

/-- The match of a thread that has arrived. -/
def toMatch (t : Thread) (groupCount position : Nat) : Match where
  span := ⟨t.start, position⟩
  groups := (List.range (groupCount - 1)).map fun i =>
    (t.left.find? (·.1 == i + 1)).map Prod.snd

end Thread

end CatalogGraph.Regex

namespace CatalogGraph

/-- A regular expression: its text and the program that matches it. -/
structure Regex where
  source : String
  program : Array Regex.Step
  entry : Nat
  /-- The number of groups, the whole match included. -/
  groupCount : Nat

end CatalogGraph

namespace CatalogGraph.Regex

/-- The regular expression that a text writes, if it writes one. -/
def compile? (source : String) : Option Regex :=
  (Pattern.read? source).map fun p =>
    let (entry, program) := Program.ofPattern p
    ⟨source, program, entry, p.groupCount⟩

/-- Follows every thread through the steps that take no character.  `seen` marks the addresses that a
preferred thread has passed; `fuel` bounds the number of steps. -/
def settleThreads (program : Program) (before after : Option Char) (position : Nat) :
    Nat → List Thread → Array Bool → List Thread → List Thread
  | 0, _, _, ready => ready.reverse
  | _ + 1, [], _, ready => ready.reverse
  | fuel + 1, t :: todo, seen, ready =>
    if seen.getD t.address true then
      settleThreads program before after position fuel todo seen ready
    else
      let seen := seen.setIfInBounds t.address true
      let go (todo : List Thread) (ready : List Thread) :=
        settleThreads program before after position fuel todo seen ready
      match program[t.address]? with
      | none => go todo ready
      | some .accept => go todo (t :: ready)
      | some (.one _ _) => go todo (t :: ready)
      | some (.fork first second) =>
        go ({ t with address := first } :: { t with address := second } :: todo) ready
      | some (.look l next) =>
        go (if l.holds before after then { t with address := next } :: todo else todo) ready
      | some (.enter i next) => go ({ t.enter i position with address := next } :: todo) ready
      | some (.leave i next) => go ({ t.leave i position with address := next } :: todo) ready

/-- Lets the threads that wait take the next character, down to the first one that has arrived: the
threads after it are dropped, as it is preferred to them. -/
def takeChar (program : Program) (next : Option Char) : List Thread → List Thread × Option Thread
  | [] => ([], none)
  | t :: ts =>
    match program[t.address]? with
    | some .accept => ([], some t)
    | some (.one s address) =>
      let (waiting, arrived) := takeChar program next ts
      match next with
      | some c =>
        if s.contains c then ({ t with address } :: waiting, arrived) else (waiting, arrived)
      | none => (waiting, arrived)
    | _ => takeChar program next ts

/-- The threads that are followed at a place: those that wait there, and as long as nothing has been
found one that starts a match there. -/
def startThreads (re : Regex) (position : Nat) (threads : List Thread) (found : Option Match) :
    List Thread :=
  if found.isNone then threads ++ [.begin re.entry position] else threads

/-- Follows threads at one place between two characters: the threads that wait for the character after
the next one, and the match that is preferred so far. -/
def passPlace (re : Regex) (before after : Option Char) (position : Nat) (threads : List Thread)
    (found : Option Match) : List Thread × Option Match :=
  let ready := settleThreads re.program before after position
    (threads.length + 2 * re.program.size + 1) threads (.replicate re.program.size false) []
  let (waiting, arrived) := takeChar re.program after ready
  (waiting, (arrived.map (·.toMatch re.groupCount position)).or found)

/-- Reads the rest of a text with some threads. -/
def follow (re : Regex) (before : Option Char) (position : Nat) (threads : List Thread)
    (found : Option Match) : List Char → Option Match
  | [] => (passPlace re before none position (startThreads re position threads found) found).2
  | c :: rest =>
    let threads := startThreads re position threads found
    if threads.isEmpty then found
    else
      let (threads, found) := passPlace re before (some c) position threads found
      follow re (some c) (position + 1) threads found rest

/-- The leftmost match that starts at `position` or later. -/
def search (re : Regex) (text : List Char) (position : Nat) : Option Match :=
  follow re ((text.take position).getLast?) position [] none (text.drop position)

/-- The matches from `position` on; `last` is the end of the match before it.  There are at most
`fuel` of them. -/
def matchesFrom (re : Regex) (text : List Char) : Nat → Nat → Option Nat → List Match
  | 0, _, _ => []
  | fuel + 1, position, last =>
    let first := search re text position
    let chosen := match first with
      | some m =>
        if m.span.start == m.span.stop && some m.span.stop == last then
          if position < text.length then search re text (position + 1) else none
        else some m
      | none => none
    match chosen with
    | some m => m :: matchesFrom re text fuel m.span.stop (some m.span.stop)
    | none => []

/-- All matches in a text, from left to right. -/
def matchesIn (re : Regex) (text : List Char) : List Match :=
  matchesFrom re text (text.length + 1) 0 none

/-- The characters of a text outside some spans that follow each other, from `position` on. -/
def outsideOf (text : List Char) : Nat → List Span → List Char
  | position, [] => text.drop position
  | position, s :: spans =>
    (Span.mk position s.start).chars text ++ outsideOf text s.stop spans

/-- A text without the matches of a regular expression. -/
def remove (re : Regex) (text : String) : String :=
  String.ofList (outsideOf text.toList 0 ((matchesIn re text.toList).map Match.span))

end CatalogGraph.Regex
