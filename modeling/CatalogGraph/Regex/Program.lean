import CatalogGraph.Regex.Pattern

/-!
# Programs

A pattern is matched by a program of small steps that is built from its end to its start, so that each
step knows the address of what follows it.  Address 0 accepts.
-/

namespace CatalogGraph.Regex

/-- One step of a program. -/
inductive Step
  /-- A match ends here. -/
  | accept
  /-- Takes one character of a set. -/
  | one (s : CharSet) (next : Nat)
  /-- Goes on at two addresses, the first one preferred. -/
  | fork (first second : Nat)
  /-- Goes on if a condition holds at the current place. -/
  | look (l : Look) (next : Nat)
  /-- A group starts here. -/
  | enter (index : Nat) (next : Nat)
  /-- A group ends here. -/
  | leave (index : Nat) (next : Nat)

/-- Steps by address. -/
abbrev Program := Array Step

namespace Program

/-- A fork between another round of a repetition and its end. -/
def forkBy (greedy : Bool) (again done : Nat) : Step :=
  if greedy then .fork again done else .fork done again

/-- A way to put some steps before an address: the address of the first of them, and the program with
them. -/
abbrev Emitter := Nat → Program → Nat × Program

/-- `n` copies one after the other. -/
def copies (emit : Emitter) : Nat → Emitter
  | 0, next, p => (next, p)
  | n + 1, next, p =>
    let (entry, p) := copies emit n next p
    emit entry p

/-- Up to `n` copies one after the other; each may be the last, and then `done` follows. -/
def optionalCopies (emit : Emitter) (greedy : Bool) (done : Nat) : Nat → Program → Nat × Program
  | 0, p => (done, p)
  | n + 1, p =>
    let (entry, p) := optionalCopies emit greedy done n p
    let (entry, p) := emit entry p
    (p.size, p.push (forkBy greedy entry done))

/-- One or more rounds; the answer also holds the address of the fork after each of them. -/
def rounds (emit : Emitter) (greedy : Bool) (next : Nat) (p : Program) : Nat × Nat × Program :=
  let fork := p.size
  let (entry, p) := emit fork (p.push .accept)
  (entry, fork, p.setIfInBounds fork (forkBy greedy entry next))

/-- A repetition.  When the rounds may be empty, no round at all is a fork before the first one, so
that leaving a round never competes with not starting any. -/
def repeated (emit : Emitter) (canBeEmpty : Bool) (least : Nat) (most : Option Nat)
    (greedy : Bool) : Emitter := fun next p =>
  match most with
  | some most =>
    let (entry, p) := optionalCopies emit greedy next (most - least) p
    copies emit least entry p
  | none =>
    let (entry, fork, p) := rounds emit greedy next p
    match least with
    | 0 => if canBeEmpty then (p.size, p.push (forkBy greedy entry next)) else (fork, p)
    | least + 1 => copies emit least entry p

/-- Puts the steps of a pattern before an address. -/
def emit : Pattern → Emitter
  | .empty => fun next p => (next, p)
  | .one s => fun next p => (p.size, p.push (.one s next))
  | .look l => fun next p => (p.size, p.push (.look l next))
  | .seq a b => fun next p =>
    let (entry, p) := emit b next p
    emit a entry p
  | .alt a b => fun next p =>
    let (second, p) := emit b next p
    let (first, p) := emit a next p
    (p.size, p.push (.fork first second))
  | .rep a least most greedy => repeated (emit a) a.canBeEmpty least most greedy
  | .group i a => fun next p =>
    let (entry, p) := emit a p.size (p.push (.leave i next))
    (p.size, p.push (.enter i entry))

/-- The program of a pattern and the address of its first step. -/
def ofPattern (p : Pattern) : Nat × Program :=
  emit p 0 #[.accept]

end Program

end CatalogGraph.Regex
