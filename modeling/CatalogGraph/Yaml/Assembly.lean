import CatalogGraph.Yaml.Node
import CatalogGraph.Yaml.Stream

/-!
# Assembling YAML documents

The tokens of a stream make up one document.  Nodes are put into the collections that are open.  A node may
be left out where the next token shows that there is none; it then counts as an empty scalar.  Dashes at
the column of the keys around them make a sequence without a start and an end of its own.
-/

namespace CatalogGraph.Yaml

/-- What is written before a node. -/
structure Properties where
  anchor : Option (List Char) := none
  tag : Option Octets := none
  deriving DecidableEq, Repr

/-- What comes next in a mapping. -/
inductive Slot
  | key
  /-- A key that has no value. -/
  | loneKey
  | value (key : Node)

/-- The way a sequence is written. -/
inductive SequenceForm
  | block
  /-- A block without a column of its own. -/
  | dashes
  | flow
  deriving DecidableEq, Repr

/-- The way a mapping is written. -/
inductive MappingForm
  | block
  | flow
  /-- A single entry in a flow sequence. -/
  | pair
  deriving DecidableEq, Repr

/-- What an open collection holds so far, in reverse order. -/
inductive Holder
  | sequence (form : SequenceForm) (items : List Node)
  | mapping (form : MappingForm) (entries : List (Node × Node)) (slot : Slot)

/-- A collection that is open.  An anchor has the number of the node and its place. -/
structure Open where
  holder : Holder
  tag : Option Octets := none
  anchor : Option (Nat × Nat) := none

/-- What may come next. -/
inductive Expected
  /-- Directives, or the start of the document. -/
  | start
  /-- A node, or something more before it. -/
  | node (properties : Properties)
  /-- An entry of a flow collection, or its end. -/
  | entry
  /-- Something between two nodes. -/
  | separator
  /-- Nothing more than the end. -/
  | finish

/-- A document of which the tokens have been read up to a point. -/
structure Assembly where
  expected : Expected := .start
  stack : List Open := []
  root : Option Node := none
  /-- Whether the start of the document is marked. -/
  marked : Bool := false
  versioned : Bool := false
  handles : List (List Char × Octets) := []
  /-- The names of anchors, and the numbers that they have now. -/
  names : List (List Char × Nat) := []
  anchored : List Anchored := []
  size : Nat := 0

namespace Assembly

/-! ## Tags and anchors -/

/-- What handles stand for unless directives say something else. -/
def commonHandles : List (List Char × Octets) := [
  (['!'], octetsOf ['!']),
  (['!', '!'], octetsOf "tag:yaml.org,2002:".toList)]

/-- The tag that a handle and the rest of it make. -/
def tagOf? (a : Assembly) (handle : List Char) (rest : Octets) : Option Octets :=
  if handle.isEmpty then some rest
  else ((a.handles ++ commonHandles).find? (·.1 == handle)).map (·.2 ++ rest)

/-- Gives a number to a name.  A new number is the number of different names so far. -/
def nameAnchor (a : Assembly) : Option (List Char) → Option (Nat × Nat) × Assembly
  | none => (none, a)
  | some name =>
    let id := a.names.length
    (some (id, a.size), { a with names := (name, id) :: a.names.filter (·.1 != name) })

/-- Keeps a node that has an anchor. -/
def keep (a : Assembly) (anchor : Option (Nat × Nat)) (node : Node) : Assembly :=
  match anchor with
  | some (id, place) => { a with anchored := ⟨id, place, node⟩ :: a.anchored }
  | none => a

/-! ## Nodes -/

/-- What is open and what may come next after a node is complete.  An entry by itself is complete with its
value. -/
def placed (node : Node) : List Open → Expected × List Open × Option Node
  | [] => (.finish, [], some node)
  | top :: rest =>
    let go (holder : Holder) := (Expected.separator, { top with holder := holder } :: rest, none)
    match top.holder with
    | .sequence form items => go (.sequence form (node :: items))
    | .mapping form entries .key => go (.mapping form entries (.value node))
    | .mapping form entries .loneKey => go (.mapping form ((node, .absent) :: entries) .key)
    | .mapping .pair entries (.value key) =>
      placed (.mapping none ((key, node) :: entries).reverse) rest
    | .mapping form entries (.value key) => go (.mapping form ((key, node) :: entries) .key)

/-- The number of ends, and of nodes that are not written, that a node brings with it. -/
def alongWith : List Open → Nat
  | ⟨.mapping _ _ .loneKey, _, _⟩ :: _ => 1
  | ⟨.mapping .pair _ (.value _), _, _⟩ :: _ => 1
  | _ => 0

/-- Puts a complete node into what is open. -/
def complete (a : Assembly) (node : Node) : Assembly :=
  let (expected, stack, root) := placed node a.stack
  { a with
    expected := expected, stack := stack, root := root.or a.root, size := a.size + alongWith a.stack }

/-- Puts in a scalar. -/
def putScalar (a : Assembly) (p : Properties) (plain : Bool) (text : List Char) : Assembly :=
  let node := Node.scalar p.tag plain text
  let (anchor, a) := a.nameAnchor p.anchor
  ({ a with size := a.size + 1 }.keep anchor node).complete node

/-- Puts in an alias of a name. -/
def putAlias? (a : Assembly) (name : List Char) : Option Assembly :=
  (a.names.find? (·.1 == name)).map fun n => { a with size := a.size + 1 }.complete (.alias n.2)

/-- Opens a collection. -/
def openHolder (a : Assembly) (p : Properties) (holder : Holder) (expected : Expected) : Assembly :=
  let (anchor, a) := a.nameAnchor p.anchor
  { a with
    expected := expected, stack := ⟨holder, p.tag, anchor⟩ :: a.stack, size := a.size + 1 }

/-- The node that a collection makes. -/
def Holder.node (tag : Option Octets) : Holder → Node
  | .sequence _ items => .sequence tag items.reverse
  | .mapping _ entries _ => .mapping tag entries.reverse

/-- Closes the innermost collection. -/
def close (a : Assembly) : Assembly :=
  match a.stack with
  | [] => a
  | top :: rest =>
    let node := Holder.node top.tag top.holder
    ({ a with stack := rest, size := a.size + 1 }.keep top.anchor node).complete node

/-! ## Nodes that are left out -/

/-- Whether a token shows that a node is left out at the place reached. -/
def maySkipNode (a : Assembly) (t : Token) : Bool :=
  match a.stack with
  | [] =>
    a.marked &&
    match t with
    | .version _ _ | .handle _ _ | .documentStart | .documentEnd => true
    | _ => false
  | top :: _ =>
    match top.holder with
    | .sequence .block _ => t == .dash || t == .blockEnd
    | .sequence .dashes _ => t == .dash || t == .key || t == .value || t == .blockEnd
    | .sequence .flow _ => false
    | .mapping .block _ _ => t == .key || t == .value || t == .blockEnd
    | .mapping .flow _ .key => t == .value || t == .comma || t == .closeMapping
    | .mapping .flow _ .loneKey => false
    | .mapping .flow _ (.value _) => t == .comma || t == .closeMapping
    | .mapping .pair _ _ => t == .comma || t == .closeSequence

/-- Ends a sequence of dashes before a token that is no dash. -/
def endDashes (a : Assembly) (t : Token) : Assembly :=
  match a.stack with
  | ⟨.sequence .dashes _, _, _⟩ :: _ => if t == .dash then a else a.close
  | _ => a

/-- Leaves out a value before a token that does not start one. -/
def endKey (a : Assembly) (t : Token) : Assembly :=
  match a.stack with
  | ⟨.mapping _ _ (.value _), _, _⟩ :: _ => if t == .value then a else a.putScalar {} true []
  | _ => a

/-! ## Tokens -/

/-- A token between two nodes. -/
def separate? (a : Assembly) (t : Token) : Option Assembly :=
  match a.expected with
  | .finish => if t == .documentEnd then some a else none
  | _ =>
    let a := (a.endDashes t).endKey t
    let node := some { a with expected := .node {} }
    let entry := some { a with expected := .entry }
    match a.stack with
    | [] => none
    | top :: _ =>
      match top.holder, t with
      | .sequence .block _, .dash => node
      | .sequence .dashes _, .dash => node
      | .sequence .block _, .blockEnd => some a.close
      | .sequence .flow _, .comma => entry
      | .sequence .flow _, .closeSequence => some a.close
      | .mapping _ _ (.value _), .value => node
      | .mapping .block _ .key, .key => node
      | .mapping .block _ .key, .blockEnd => some a.close
      | .mapping .flow _ .key, .comma => entry
      | .mapping .flow _ .key, .closeMapping => some a.close
      | _, _ => none

/-- Whether the innermost collection is a block mapping. -/
def inBlockMapping (a : Assembly) : Bool :=
  match a.stack with
  | ⟨.mapping .block _ _, _, _⟩ :: _ => true
  | _ => false

/-- Whether a key is left out in an entry by itself, before a token. -/
def skipsPairKey (a : Assembly) (t : Token) : Bool :=
  match a.stack with
  | ⟨.mapping .pair _ .key, _, _⟩ :: _ => t == .value || t == .comma || t == .closeSequence
  | _ => false

/-- A token where a node is expected, after some properties of it.  In an entry by itself, the token that
shows that the key is left out is gone with it. -/
def node? (a : Assembly) (p : Properties) (t : Token) : Option Assembly :=
  let bare := p.anchor.isNone && p.tag.isNone
  match t with
  | .anchor name =>
    if p.anchor.isSome then none else some { a with expected := .node { p with anchor := some name } }
  | .tag handle rest =>
    if p.tag.isSome then none
    else (a.tagOf? handle rest).map fun tag => { a with expected := .node { p with tag := some tag } }
  | .alias name => if bare then a.putAlias? name else none
  | .scalar plain text =>
    let tag := if p.tag == some (octetsOf ['!']) then none else p.tag
    some (a.putScalar { p with tag := tag } plain text)
  | .openSequence => some (a.openHolder p (.sequence .flow []) .entry)
  | .openMapping => some (a.openHolder p (.mapping .flow [] .key) .entry)
  | .blockSequence => some (a.openHolder p (.sequence .block []) .separator)
  | .blockMapping => some (a.openHolder p (.mapping .block [] .key) .separator)
  | _ =>
    if t == .dash && a.inBlockMapping then some (a.openHolder p (.sequence .dashes []) (.node {}))
    else if bare && a.skipsPairKey t then some (a.putScalar p true [])
    else if !bare || a.maySkipNode t then (a.putScalar p true []).separate? t
    else none

/-- A token where an entry of a flow collection is expected, or its end. -/
def entry? (a : Assembly) (t : Token) : Option Assembly :=
  match a.stack with
  | ⟨.sequence .flow _, _, _⟩ :: _ =>
    match t with
    | .closeSequence => some a.close
    | .key => some (a.openHolder {} (.mapping .pair [] .key) (.node {}))
    | _ => a.node? {} t
  | ⟨.mapping form entries slot, tag, anchor⟩ :: rest =>
    match t with
    | .closeMapping => some a.close
    | .key => some { a with expected := .node {}, stack := ⟨.mapping form entries slot, tag, anchor⟩ :: rest }
    | _ => node? { a with stack := ⟨.mapping form entries .loneKey, tag, anchor⟩ :: rest } {} t
  | _ => none

/-- A token before the document.  A document that is not marked has no directives. -/
def start? (a : Assembly) (t : Token) : Option Assembly :=
  match t with
  | .version major minor =>
    if a.versioned || major != 1 || (minor != 1 && minor != 2) then none
    else some { a with versioned := true }
  | .handle name meaning =>
    if a.handles.any (·.1 == name) then none
    else some { a with handles := (name, meaning) :: a.handles }
  | .documentStart => some { a with expected := .node {}, marked := true }
  | _ => if a.versioned || !a.handles.isEmpty then none else a.node? {} t

/-- The document goes on with a token. -/
def step? (a : Assembly) (t : Token) : Option Assembly :=
  match a.expected with
  | .start => a.start? t
  | .node p => a.node? p t
  | .entry => a.entry? t
  | .separator | .finish => a.separate? t

/-- The document, if its tokens have come to an end.  Nothing at all is a document without a root. -/
def result? (a : Assembly) : Option Document :=
  match a.expected with
  | .start => if a.versioned || !a.handles.isEmpty then none else some ⟨none, [], 1⟩
  | _ => do
    let a ← a.step? .documentEnd
    some ⟨some (← a.root), a.anchored, a.size⟩

end Assembly

/-- The document that tokens make. -/
def Document.ofTokens? (tokens : List Token) : Option Document :=
  (tokens.foldlM Assembly.step? {}).bind Assembly.result?

/-- Reads a document. -/
def Document.read? (text : String) : Option Document :=
  (tokens? text.toList).bind Document.ofTokens?

end CatalogGraph.Yaml
