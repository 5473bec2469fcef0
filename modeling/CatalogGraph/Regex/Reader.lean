import CatalogGraph.Regex.Pattern

/-!
# Reading patterns

The written form of a pattern.  Flags (`i` any case, `m` lines, `s` dot matches line feeds, `U` swapped
greed, `u` Unicode, `R` any line end, `x` blanks and comments ignored) hold from where they are set to
the end of the group around them, also across `|`.  Look-around and references to groups are refused,
and so is everything that could match a part of a character: without `u` a pattern may name ASCII only.

Nesting is limited.  The depth of a part counts groups, repetitions, bracketed classes, and every
concatenation or choice of two or more.
-/

namespace CatalogGraph.Regex

open CatalogGraph.Text (isWhite)

/-- The flags in force at a place of a pattern. -/
structure Flags where
  anyCase : Bool := false
  multiLine : Bool := false
  dotAll : Bool := false
  swapGreed : Bool := false
  unicode : Bool := true
  anyLineEnd : Bool := false
  ignoreBlank : Bool := false
  deriving DecidableEq

/-- Drops blanks and comments; `comment` tells whether a comment is open. -/
def skipBlanks (comment : Bool) : List Char → List Char
  | [] => []
  | c :: cs =>
    if comment then skipBlanks (c != '\n') cs
    else if isWhite c then skipBlanks false cs
    else if c == '#' then skipBlanks true cs
    else c :: cs

/-- The rest of a pattern, after blanks and comments where they are ignored. -/
def settle (ignore : Bool) (cs : List Char) : List Char :=
  if ignore then skipBlanks false cs else cs

/-- The rest of a pattern after its first character. -/
def advance (ignore : Bool) (cs : List Char) : List Char :=
  settle ignore (cs.drop 1)

/-- The characters that satisfy `p` at the start of the rest, and what follows; `fuel` bounds their
number. -/
def takeRun (ignore : Bool) (p : Char → Bool) : Nat → List Char → List Char × List Char
  | 0, cs => ([], cs)
  | fuel + 1, cs =>
    match cs with
    | [] => ([], [])
    | c :: _ =>
      if p c then
        let (run, rest) := takeRun ignore p fuel (advance ignore cs)
        (c :: run, rest)
      else ([], cs)

/-- The characters up to the next one that does not satisfy `p`, and the rest. -/
def spanRun (ignore : Bool) (p : Char → Bool) (cs : List Char) : List Char × List Char :=
  takeRun ignore p cs.length cs

/-- Value of a numeral in a base up to sixteen. -/
def numeral (base : Nat) (cs : List Char) : Nat :=
  cs.foldl (fun n c => n * base + Unicode.hexDigit c.toLower) 0

/-- Whether a character is a hexadecimal digit. -/
def isHex (c : Char) : Bool :=
  c.isDigit || ('a' ≤ c && c ≤ 'f') || ('A' ≤ c && c ≤ 'F')

/-- The character with a code point, if there is one. -/
def scalar? (n : Nat) : Option Char :=
  if n < 0xD800 ∨ (0xDFFF < n ∧ n < 0x110000) then some (Char.ofNat n) else none

/-- A decimal count below 2³², with blanks around it. -/
def readCount? (ignore : Bool) (cs : List Char) : Option (Nat × List Char) :=
  let (digits, rest) := spanRun ignore Char.isDigit (cs.dropWhile isWhite)
  let (_, rest) := spanRun ignore isWhite rest
  if digits.isEmpty || Nat.pow 2 32 ≤ numeral 10 digits then none
  else some (numeral 10 digits, rest)

/-- One element of a pattern that is not built from others. -/
inductive Atom
  /-- A character; `byte` tells that it was written as a byte, `\xNN`. -/
  | char (c : Char) (byte : Bool)
  | look (l : Look)
  | set (s : CharSet)
  | dot

/-- A code point after `\x`, `\u` or `\U`, as that many digits or as any number of them in braces. -/
def readHex? (ignore : Bool) (digits : Nat) (cs : List Char) : Option (Atom × List Char) :=
  match advance ignore cs with
  | [] => none
  | '\x7B' :: rest =>
    let (body, rest) := spanRun ignore isHex (settle ignore rest)
    match rest with
    | '\x7D' :: _ =>
      if body.isEmpty then none
      else (scalar? (numeral 16 body)).map fun c => (.char c false, advance ignore rest)
    | _ => none
  | rest =>
    let (body, rest) := takeRun ignore isHex digits rest
    if body.length = digits then
      (scalar? (numeral 16 body)).map fun c => (.char c (digits == 2), rest)
    else none

/-- A property query between braces: a name, or a property and a value; `!=` negates it. -/
def queryProperty? (body : List Char) (negated : Bool) : Option (Unicode.PropertySet × Bool) :=
  let text := String.ofList body
  let parts (sep : String) := match text.splitOn sep with
    | name :: value :: more => some (name, sep.intercalate (value :: more))
    | _ => none
  match parts "!=", parts ":", parts "=" with
  | some (name, value), _, _ => (Unicode.propertyValue? name value).map (·, !negated)
  | none, some (name, value), _ => (Unicode.propertyValue? name value).map (·, negated)
  | none, none, some (name, value) => (Unicode.propertyValue? name value).map (·, negated)
  | none, none, none => (Unicode.property? text).map (·, negated)

/-- A set closed under case where any case is asked for, and then its complement if it is negated. -/
def foldSet (flags : Flags) (negated : Bool) (s : CharSet) : CharSet :=
  let s := if flags.anyCase then
    (if flags.unicode then CharSet.anyCase s else CharSet.anyAsciiCase s) else s
  s.negateIf negated

/-- A class by property, after `\p` or `\P`. -/
def readProperty? (flags : Flags) (negated : Bool) (cs : List Char) : Option (Atom × List Char) :=
  let ignore := flags.ignoreBlank
  let finish (q : Option (Unicode.PropertySet × Bool)) (rest : List Char) :=
    if flags.unicode then
      q.map fun (p, negated) => (Atom.set (foldSet flags negated (.property p)), rest)
    else none
  match advance ignore cs with
  | [] => none
  | '\x7B' :: rest =>
    let (body, rest) := spanRun ignore (· != '\x7D') (settle ignore rest)
    match rest with
    | '\x7D' :: rest => finish (queryProperty? body negated) rest
    | _ => none
  | c :: rest =>
    if c == '\\' then none
    else finish ((Unicode.property? (String.singleton c)).map (·, negated)) (settle ignore rest)

/-- The class `\d`, `\s` or `\w`, and in capitals its complement. -/
def shorthand? (flags : Flags) (c : Char) : Option CharSet :=
  let negated := c.isUpper
  if flags.unicode then
    match c.toLower with
    | 'd' => some (CharSet.digit.negateIf negated)
    | 's' => some (CharSet.white.negateIf negated)
    | 'w' => some (CharSet.word.negateIf negated)
    | _ => none
  else if negated then none
  else match c with
    | 'd' => CharSet.ascii? "digit"
    | 's' => CharSet.ascii? "space"
    | 'w' => CharSet.ascii? "word"
    | _ => none

/-- Whether an escaped character stands for itself: every ASCII character but letters, digits and
angle brackets. -/
def isEscapable (c : Char) : Bool :=
  c.toNat < 0x80 && !c.isAlphanum && c != '<' && c != '>'

/-- A word boundary after `\b`, with the part of it that may be asked for in braces.  Braces that do not
start with a letter or a hyphen are left for a repetition. -/
def readBoundary? (flags : Flags) (cs : List Char) : Option (Atom × List Char) :=
  let ignore := flags.ignoreBlank
  let ascii := !flags.unicode
  let isName (c : Char) := c.isAlpha || c == '-'
  match cs with
  | '\x7B' :: _ =>
    match advance ignore cs with
    | [] => none
    | rest@(c :: _) =>
      if isName c then
        let (name, rest) := spanRun ignore isName rest
        match rest with
        | '\x7D' :: rest =>
          match String.ofList name with
          | "start" => some (.look (.wordStart ascii), rest)
          | "end" => some (.look (.wordEnd ascii), rest)
          | "start-half" => some (.look (.wordStartHalf ascii), rest)
          | "end-half" => some (.look (.wordEndHalf ascii), rest)
          | _ => none
        | _ => none
      else some (.look (.wordBoundary ascii), cs)
  | _ => some (.look (.wordBoundary ascii), cs)

/-- What follows a backslash; `cs` starts after it. -/
def readEscape? (flags : Flags) (cs : List Char) : Option (Atom × List Char) :=
  let ignore := flags.ignoreBlank
  let ascii := !flags.unicode
  match cs with
  | [] => none
  | c :: rest =>
    if c.isDigit then none
    else if isEscapable c then some (.char c false, rest)
    else match c with
      | 'x' => readHex? ignore 2 cs
      | 'u' => readHex? ignore 4 cs
      | 'U' => readHex? ignore 8 cs
      | 'p' => readProperty? flags false cs
      | 'P' => readProperty? flags true cs
      | 'a' => some (.char '\x07' false, rest)
      | 'f' => some (.char '\x0C' false, rest)
      | 't' => some (.char '\t' false, rest)
      | 'n' => some (.char '\n' false, rest)
      | 'r' => some (.char '\r' false, rest)
      | 'v' => some (.char '\x0B' false, rest)
      | 'A' => some (.look .textStart, rest)
      | 'z' => some (.look .textEnd, rest)
      | 'b' => readBoundary? flags rest
      | 'B' => some (.look (.notWordBoundary ascii), rest)
      | '<' => some (.look (.wordStart ascii), rest)
      | '>' => some (.look (.wordEnd ascii), rest)
      | _ => (shorthand? flags c).map fun s => (.set s, rest)

/-- A character that must be a whole one: without Unicode a byte above U+007F is part of one. -/
def wholeChar? (flags : Flags) (c : Char) (byte : Bool) : Option Char :=
  if !flags.unicode && byte && 0x80 ≤ c.toNat then none else some c

/-- The pattern of an atom outside brackets. -/
def Atom.pattern? (flags : Flags) : Atom → Option Pattern
  | .char c byte => (wholeChar? flags c byte).map fun c => .one (foldSet flags false (.single c))
  | .look l => some (.look l)
  | .set s => some (.one s)
  | .dot =>
    if !flags.unicode then none
    else if flags.dotAll then some (.one (.outside .none))
    else if flags.anyLineEnd then
      some (.one (.outside (.union (.single '\n') (.single '\r'))))
    else some (.one (.outside (.single '\n')))

/-! ## Bracketed classes -/

/-- The members of a class read so far, how many they are, and the depth of the deepest one. -/
structure Members where
  set : CharSet := .none
  count : Nat := 0
  depth : Nat := 0

namespace Members

/-- The members with one more. -/
def add (m : Members) (s : CharSet) (depth : Nat) : Members :=
  ⟨if m.count = 0 then s else .union m.set s, m.count + 1, max m.depth depth⟩

/-- The depth of the members as one part. -/
def totalDepth (m : Members) : Nat :=
  if m.count ≤ 1 then m.depth else m.depth + 1

end Members

/-- The operations between two classes. -/
inductive ClassOp
  | inter
  | diff
  | symmDiff

/-- What is open around the place that is read in a class: a bracket, with the members before it, or an
operation with its left side. -/
inductive ClassFrame
  | bracket (outer : Members) (negated : Bool)
  | op (kind : ClassOp) (left : CharSet) (depth : Nat)

/-- Applies the operation on top of the stack, if there is one, to its left side and `right`. -/
def closeOp (flags : Flags) (right : CharSet) (depth : Nat) :
    List ClassFrame → CharSet × Nat × List ClassFrame
  | .op kind left leftDepth :: stack =>
    let fold (s : CharSet) := foldSet flags false s
    let s := match kind with
      | .inter => CharSet.inter (fold left) (fold right)
      | .diff => CharSet.inter (fold left) (.outside (fold right))
      | .symmDiff => CharSet.symmDiff (fold left) (fold right)
    (s, max leftDepth depth + 1, stack)
  | stack => (right, depth, stack)

/-- Opens a bracket: its negation, and the hyphens or the closing bracket that stand for themselves at
its start.  `cs` starts at the bracket. -/
def openBracket? (ignore : Bool) (cs : List Char) : Option (Bool × Members × List Char) :=
  let cs := advance ignore cs
  let negated := cs.head? == some '^'
  let cs := if negated then advance ignore cs else cs
  let (hyphens, cs) := spanRun ignore (· == '-') cs
  let m := hyphens.foldl (fun (m : Members) c => m.add (.single c) 0) {}
  match cs with
  | [] => none
  | c :: _ =>
    if hyphens.isEmpty && c == ']' then
      let cs := advance ignore cs
      if cs.isEmpty then none else some (negated, m.add (.single ']') 0, cs)
    else some (negated, m, cs)

/-- A named ASCII class such as `[:^alpha:]`, if one stands here. -/
def readNamedClass? (cs : List Char) : Option (CharSet × Bool × List Char) :=
  match cs with
  | '[' :: ':' :: rest =>
    let negated := rest.head? == some '^'
    let rest := if negated then rest.drop 1 else rest
    let name := rest.takeWhile (· != ':')
    match rest.drop name.length with
    | ':' :: ']' :: after => (CharSet.ascii? (String.ofList name)).map (·, negated, after)
    | _ => none
  | _ => none

/-- One end of a range or a single member of a class. -/
def readMember? (flags : Flags) (cs : List Char) : Option (Atom × List Char) :=
  match cs with
  | [] => none
  | '\\' :: rest => readEscape? flags rest
  | c :: rest => some (.char c false, rest)

/-- A character as a member of a class: without Unicode only ASCII. -/
def memberChar? (flags : Flags) (c : Char) : Option Char :=
  if !flags.unicode && 0x80 ≤ c.toNat then none else some c

/-- A range or a single member of a class. -/
def readRange? (flags : Flags) (cs : List Char) : Option (CharSet × List Char) := do
  let ignore := flags.ignoreBlank
  let (first, rest) ← readMember? flags cs
  let rest := settle ignore rest
  let single : Option (CharSet × List Char) := match first with
    | .char c _ => (memberChar? flags c).map fun c => (.single c, rest)
    | .set s => some (s, rest)
    | _ => none
  match rest with
  | [] => none
  | '-' :: _ =>
    let after := settle ignore (rest.drop 1)
    match after with
    | [] => none
    | ']' :: _ => single
    | '-' :: _ => single
    | _ =>
      let (last, rest) ← readMember? flags after
      match first, last with
      | .char a _, .char b _ =>
        let a ← memberChar? flags a
        let b ← memberChar? flags b
        if a ≤ b then some (.interval a b, rest) else none
      | _, _ => none
  | _ => single

/-- A class as it stands when its outermost bracket is closed: the set, its depth and the rest. -/
abbrev ClosedClass := CharSet × Nat × List Char

/-- Reads a class to its end.  `m` holds the members since the innermost bracket or operation, `stack`
what is open; every round of the loop takes a character, so `fuel` characters are enough. -/
def readClassLoop (flags : Flags) : Nat → Members → List ClassFrame → List Char →
    Option ClosedClass
  | 0, _, _, _ => none
  | fuel + 1, m, stack, cs =>
    let operation (kind : ClassOp) (rest : List Char) :=
      let (left, depth, stack) := closeOp flags m.set m.totalDepth stack
      readClassLoop flags fuel {} (.op kind left depth :: stack) rest
    match settle flags.ignoreBlank cs with
    | [] => none
    | '&' :: '&' :: rest => operation .inter rest
    | '-' :: '-' :: rest => operation .diff rest
    | '~' :: '~' :: rest => operation .symmDiff rest
    | ']' :: rest =>
      match closeOp flags m.set m.totalDepth stack with
      | (s, depth, .bracket outer negated :: stack) =>
        let s := foldSet flags negated s
        if !flags.unicode && !s.isAscii then none
        else if stack.isEmpty then some (s, depth + 1, rest)
        else readClassLoop flags fuel (outer.add s (depth + 1)) stack rest
      | _ => none
    | '[' :: rest =>
      match readNamedClass? ('[' :: rest) with
      | some (s, negated, rest) =>
        readClassLoop flags fuel (m.add (foldSet flags negated s) 0) stack rest
      | none =>
        match openBracket? flags.ignoreBlank ('[' :: rest) with
        | some (negated, inner, rest) =>
          readClassLoop flags fuel inner (.bracket m negated :: stack) rest
        | none => none
    | cs =>
      match readRange? flags cs with
      | some (s, rest) => readClassLoop flags fuel (m.add s 0) stack rest
      | none => none

/-- Reads a bracketed class; `cs` starts at its bracket. -/
def readClass? (flags : Flags) (cs : List Char) : Option ClosedClass :=
  match openBracket? flags.ignoreBlank cs with
  | some (negated, m, rest) => readClassLoop flags (cs.length + 1) m [.bracket {} negated] rest
  | none => none

/-! ## Groups and repetitions -/

/-- One part of a concatenation with its depth: a pattern, or a change of flags. -/
inductive Part
  | pattern (p : Pattern) (depth : Nat)
  | flags

/-- The parts of a concatenation, the last one first, as one pattern. -/
def joinParts (parts : List Part) : Pattern × Nat :=
  let depths := parts.map fun
    | .pattern _ depth => depth
    | .flags => 0
  let depth := depths.foldl max 0
  let patterns := parts.reverse.filterMap fun
    | .pattern p _ => some p
    | .flags => none
  (.sequence patterns, if parts.length ≤ 1 then depth else depth + 1)

/-- Alternatives, the last one first, as one pattern. -/
def joinChoices (choices : List (Pattern × Nat)) : Pattern × Nat :=
  let depth := (choices.map Prod.snd).foldl max 0
  (.choice (choices.reverse.map Prod.fst), if choices.length ≤ 1 then depth else depth + 1)

/-- What is kept of the place outside a group while the group is read. -/
structure GroupFrame where
  /-- The number of the group, if it captures. -/
  index : Option Nat
  flags : Flags
  choices : List (Pattern × Nat)
  parts : List Part

/-- The state of the reader. -/
structure Reading where
  rest : List Char
  flags : Flags := {}
  /-- The number of the next capturing group. -/
  nextGroup : Nat := 1
  names : List String := []
  choices : List (Pattern × Nat) := []
  parts : List Part := []
  stack : List GroupFrame := []

/-- Flags by their letters; a hyphen switches off those after it.  No letter may be repeated, and the
hyphen must be followed by one.  `seen` holds what was read. -/
def readFlags? (flags : Flags) (seen : List Char) : List Char → Option (Flags × Bool × List Char)
  | [] => none
  | c :: cs =>
    if c == ':' || c == ')' then
      if seen.head? == some '-' then none else some (flags, seen.isEmpty, c :: cs)
    else if seen.contains c then none
    else
      let on := !seen.contains '-'
      match c with
      | '-' => readFlags? flags (c :: seen) cs
      | 'i' => readFlags? { flags with anyCase := on } (c :: seen) cs
      | 'm' => readFlags? { flags with multiLine := on } (c :: seen) cs
      | 's' => readFlags? { flags with dotAll := on } (c :: seen) cs
      | 'U' => readFlags? { flags with swapGreed := on } (c :: seen) cs
      | 'u' => readFlags? { flags with unicode := on } (c :: seen) cs
      | 'R' => readFlags? { flags with anyLineEnd := on } (c :: seen) cs
      | 'x' => readFlags? { flags with ignoreBlank := on } (c :: seen) cs
      | _ => none

/-- Whether a character may stand in the name of a group. -/
def isNameChar (first : Bool) (c : Char) : Bool :=
  c == '_' || (if first then Unicode.isAlphabetic c
    else c == '.' || c == '[' || c == ']' || Unicode.isAlphanumeric c)

/-- The name of a group, up to the closing angle bracket. -/
def readName? (cs : List Char) : Option (String × List Char) :=
  let name := cs.takeWhile (· != '>')
  match name, cs.drop name.length with
  | first :: more, '>' :: rest =>
    if isNameChar true first && more.all (isNameChar false) then
      some (String.ofList name, rest)
    else none
  | _, _ => none

namespace Reading

/-- Enters a group. -/
def enter (r : Reading) (index : Option Nat) (flags : Flags) (rest : List Char) : Reading :=
  { r with
    rest, flags
    nextGroup := r.nextGroup + (if index.isSome then 1 else 0)
    choices := [], parts := []
    stack := ⟨index, r.flags, r.choices, r.parts⟩ :: r.stack }

/-- Opens what follows a parenthesis: a group, or flags alone. -/
def openGroup? (r : Reading) (rest : List Char) : Option Reading :=
  let named (rest : List Char) := do
    let (name, rest) ← readName? rest
    if r.names.contains name then none
    else some { r.enter (some r.nextGroup) r.flags rest with names := name :: r.names }
  match settle r.flags.ignoreBlank rest with
  | '?' :: '=' :: _ => none
  | '?' :: '!' :: _ => none
  | '?' :: '<' :: '=' :: _ => none
  | '?' :: '<' :: '!' :: _ => none
  | '?' :: 'P' :: '<' :: rest => named rest
  | '?' :: '<' :: rest => named rest
  | '?' :: rest =>
    match readFlags? r.flags [] rest with
    | some (flags, _, ':' :: rest) => some (r.enter none flags rest)
    | some (flags, false, ')' :: rest) =>
      some { r with rest, flags, parts := .flags :: r.parts }
    | _ => none
  | rest => some (r.enter (some r.nextGroup) r.flags rest)

/-- The alternatives read so far, together with the current one. -/
def allChoices (r : Reading) : List (Pattern × Nat) :=
  joinParts r.parts :: r.choices

/-- Closes the innermost group. -/
def closeGroup? (r : Reading) (rest : List Char) : Option Reading :=
  match r.stack with
  | [] => none
  | frame :: stack =>
    let (p, depth) := joinChoices r.allChoices
    let p := match frame.index with
      | some i => .group i p
      | none => p
    some { r with
      rest, flags := frame.flags, choices := frame.choices
      parts := .pattern p (depth + 1) :: frame.parts, stack }

/-- Repeats the last part. -/
def repeat? (r : Reading) (least : Nat) (most : Option Nat) (rest : List Char) :
    Option Reading :=
  let lazy := rest.head? == some '?'
  let rest := if lazy then rest.drop 1 else rest
  match r.parts with
  | .pattern p depth :: parts =>
    some { r with
      rest
      parts := .pattern (p.times least most (lazy == r.flags.swapGreed)) (depth + 1) :: parts }
  | _ => none

/-- Repeats the last part as a count in braces says; `cs` starts at the brace. -/
def repeatCounted? (r : Reading) (cs : List Char) : Option Reading :=
  let ignore := r.flags.ignoreBlank
  let close (least : Nat) (most : Option Nat) (rest : List Char) : Option Reading :=
    match rest with
    | '\x7D' :: _ =>
      if most.all (least ≤ ·) then r.repeat? least most (advance ignore rest) else none
    | _ => none
  match readCount? ignore (advance ignore cs) with
  | none => none
  | some (least, ',' :: rest) =>
    match settle ignore rest with
    | rest@('\x7D' :: _) => close least none rest
    | rest =>
      match readCount? ignore rest with
      | some (most, rest) => close least (some most) rest
      | none => none
  | some (least, rest) => close least (some least) rest

/-- Adds a part. -/
def push (r : Reading) (p : Pattern) (depth : Nat) (rest : List Char) : Reading :=
  { r with rest, parts := .pattern p depth :: r.parts }

/-- Reads one more element of the pattern, `c`, with `rest` after it. -/
def step? (r : Reading) (c : Char) (rest : List Char) : Option Reading :=
  let atom (a : Atom) (rest : List Char) := (a.pattern? r.flags).map fun p => r.push p 0 rest
  match c with
  | '(' => r.openGroup? rest
  | ')' => r.closeGroup? rest
  | '|' => some { r with rest, choices := r.allChoices, parts := [] }
  | '[' => (readClass? r.flags (c :: rest)).map fun (s, depth, rest) => r.push (.one s) depth rest
  | '?' => r.repeat? 0 (some 1) rest
  | '*' => r.repeat? 0 none rest
  | '+' => r.repeat? 1 none rest
  | '\x7B' => r.repeatCounted? (c :: rest)
  | '\\' => (readEscape? r.flags rest).bind fun (a, rest) => atom a rest
  | '.' => atom .dot rest
  | '^' => atom (.look (if !r.flags.multiLine then .textStart
      else if r.flags.anyLineEnd then .anyLineStart else .lineStart)) rest
  | '$' => atom (.look (if !r.flags.multiLine then .textEnd
      else if r.flags.anyLineEnd then .anyLineEnd else .lineEnd)) rest
  | c => atom (.char c false) rest

/-- The deepest nesting a pattern may have. -/
def maxDepth : Nat := 250

/-- The pattern of a finished reading: no group is open, and it is neither too deep nor too large. -/
def result? (r : Reading) : Option Pattern :=
  let (p, depth) := joinChoices r.allChoices
  if r.stack.isEmpty && depth ≤ maxDepth && p.room ≤ Pattern.maxRoom then some p else none

/-- Reads to the end; every round takes a character, so `fuel` characters are enough. -/
def loop? : Nat → Reading → Option Pattern
  | 0, _ => none
  | fuel + 1, r =>
    match settle r.flags.ignoreBlank r.rest with
    | [] => r.result?
    | c :: rest =>
      match r.step? c rest with
      | some r => loop? fuel r
      | none => none

end Reading

/-- The pattern that a text writes, if it writes one. -/
def Pattern.read? (text : String) : Option Pattern :=
  Reading.loop? (text.length + 1) { rest := text.toList }

end CatalogGraph.Regex
