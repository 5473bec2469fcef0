/-!
# Tables over code points

The standard gives its character data as long lists of code points.  This module holds the two shapes
in which they are looked up: a set of intervals (`CodeTable`) and a mapping (`CodeMap`).  Both are
written as compact text and searched by halving.

In the text of a table an interval is `gap` or `gap+more`, in hexadecimal: `gap` code points are
skipped after the interval before it, and `more` follow its first one.  In the text of a mapping an
entry is `gap>v.v`: the key is `gap` above the key before it, and the values are code points.  Blanks
or line ends separate intervals and entries.
-/

namespace CatalogGraph.Unicode

/-- Value of a hexadecimal digit in lower case; any other character counts as zero. -/
def hexDigit (c : Char) : Nat :=
  if '0' ≤ c ∧ c ≤ '9' then c.toNat - '0'.toNat
  else if 'a' ≤ c ∧ c ≤ 'f' then c.toNat - 'a'.toNat + 10
  else 0

/-- The entry for which `side` answers `.eq`, among those of a sorted array from `lo` to before `hi`. -/
def halve {α : Type} (entries : Array α) (side : α → Ordering) (lo hi : Nat) : Option α :=
  if lo < hi then
    match entries[(lo + hi) / 2]? with
    | none => none
    | some entry =>
      match side entry with
      | .lt => halve entries side lo ((lo + hi) / 2)
      | .eq => some entry
      | .gt => halve entries side ((lo + hi) / 2 + 1) hi
  else none
  termination_by hi - lo

/-- The characters of a text, with line ends as blanks. -/
def flatten (text : String) : List Char :=
  text.toList.map fun c => if c = '\n' then ' ' else c

/-- Sorted, disjoint intervals of code points, both ends included. -/
structure CodeTable where
  intervals : Array (Nat × Nat)
  deriving Repr

namespace CodeTable

/-- Whether the code point of `c` lies in one of the intervals. -/
def contains (t : CodeTable) (c : Char) : Bool :=
  (halve t.intervals
    (fun i => if c.toNat < i.1 then .lt else if i.2 < c.toNat then .gt else .eq)
    0 t.intervals.size).isSome

/-- Reader of the text of a table: `next` is the code point after the last interval, `gap` the part
of the current interval before its `+`, and `value` the number read so far. -/
def readIntervals : List Char → Nat → Option Nat → Nat → Array (Nat × Nat) → Array (Nat × Nat)
  | [], next, none, value, acc => acc.push (next + value, next + value)
  | [], next, some gap, value, acc => acc.push (next + gap, next + gap + value)
  | ' ' :: cs, next, none, value, acc =>
    readIntervals cs (next + value + 1) none 0 (acc.push (next + value, next + value))
  | ' ' :: cs, next, some gap, value, acc =>
    readIntervals cs (next + gap + value + 1) none 0 (acc.push (next + gap, next + gap + value))
  | '+' :: cs, next, _, value, acc => readIntervals cs next (some value) 0 acc
  | c :: cs, next, gap, value, acc => readIntervals cs next gap (16 * value + hexDigit c) acc

/-- The table that a text describes. -/
def ofText (text : String) : CodeTable :=
  ⟨readIntervals (flatten text) 0 none 0 #[]⟩

end CodeTable

/-- A mapping from code points to lists of characters, sorted by key. -/
structure CodeMap where
  entries : Array (Nat × List Char)
  deriving Repr

namespace CodeMap

/-- What a character is mapped to, if the mapping lists it. -/
def find? (m : CodeMap) (c : Char) : Option (List Char) :=
  (halve m.entries
    (fun e => if c.toNat < e.1 then .lt else if e.1 < c.toNat then .gt else .eq)
    0 m.entries.size).map Prod.snd

/-- Reader of the text of a mapping: `key` is the key of the current entry once its `>` is passed,
`value` the number read so far, and `values` the ended values of the entry, the last one first. -/
def readEntries : List Char → Nat → Nat → List Char → Array (Nat × List Char) →
    Array (Nat × List Char)
  | [], key, value, values, acc => acc.push (key, (Char.ofNat value :: values).reverse)
  | ' ' :: cs, key, value, values, acc =>
    readEntries cs key 0 [] (acc.push (key, (Char.ofNat value :: values).reverse))
  | '>' :: cs, key, value, values, acc => readEntries cs (key + value) 0 values acc
  | '.' :: cs, key, value, values, acc => readEntries cs key 0 (Char.ofNat value :: values) acc
  | c :: cs, key, value, values, acc => readEntries cs key (16 * value + hexDigit c) values acc

/-- The mapping that a text describes. -/
def ofText (text : String) : CodeMap :=
  ⟨readEntries (flatten text) 0 0 [] #[]⟩

end CodeMap

/-- The text in the row of the list that has `name` among its names, which blanks separate. -/
def rowOf? (rows : List (String × String)) (name : String) : Option String :=
  (rows.find? (fun row => (row.1.splitOn " ").contains name)).map Prod.snd

end CatalogGraph.Unicode
