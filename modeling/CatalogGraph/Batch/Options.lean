import CatalogGraph.Conversion.Converter
import CatalogGraph.Rdf.Format

/-!
# Command lines

The arguments of the command are options, each with a value of its own or none.  A long option may be
joined with its value by an equals sign; a short one may be joined directly or by an equals sign.  Options
with one value may be given once.  The records come from one file or from one folder, and a run without
classes cannot be asked for one.
-/

namespace CatalogGraph.Batch

/-- What the command can be asked to do with an option that has a value. -/
inductive OptionName
  | mapping
  | input
  | inputFolder
  | outputFolder
  | format
  | host
  | type
  | binding
  deriving DecidableEq, Repr

/-- What can be written after one or two hyphens. -/
inductive Switch
  | option (name : OptionName)
  | untyped
  | version
  | help
  deriving DecidableEq, Repr

/-- The switch with a long name. -/
def longSwitch? : String → Option Switch
  | "mapping" => some (.option .mapping)
  | "input" => some (.option .input)
  | "input-dir" => some (.option .inputFolder)
  | "output-dir" => some (.option .outputFolder)
  | "format" => some (.option .format)
  | "host" => some (.option .host)
  | "type" => some (.option .type)
  | "prefix" => some (.option .binding)
  | "untyped" => some .untyped
  | "version" => some .version
  | "help" => some .help
  | _ => none

/-- The switch with a short name. -/
def shortSwitch? : Char → Option Switch
  | 'm' => some (.option .mapping)
  | 'i' => some (.option .input)
  | 'd' => some (.option .inputFolder)
  | 'o' => some (.option .outputFolder)
  | 'f' => some (.option .format)
  | 'V' => some .version
  | 'h' => some .help
  | _ => none

/-- Where the records come from. -/
inductive Source
  | file (path : String)
  | folder (path : String)
  deriving DecidableEq, Repr

/-- What a run is asked to do. -/
structure Options where
  mapping : String
  source : Source
  outputFolder : Option String
  format : Rdf.Format
  settings : Conversion.Settings
  bindings : List (String × String)
  deriving DecidableEq, Repr

/-- What the command is asked to do. -/
inductive Invocation
  | run (options : Options)
  | version
  | help
  /-- The arguments make no sense. -/
  | invalid
  deriving DecidableEq, Repr

/-! ## Values -/

/-- A label and its namespace, with an equals sign between them.  None of them is empty. -/
def binding? (value : String) : Option (String × String) :=
  let label := value.toList.takeWhile (· != '=')
  match value.toList.drop label.length with
  | _ :: first :: rest =>
    if label.isEmpty then none else some (String.ofList label, String.ofList (first :: rest))
  | _ => none

/-- The options that have been given, the last one first. -/
structure Given where
  values : List (OptionName × String) := []
  untyped : Bool := false
  deriving DecidableEq, Repr

namespace Given

/-- The values of an option in their order. -/
def valuesOf (g : Given) (name : OptionName) : List String :=
  ((g.values.filter (·.1 == name)).map (·.2)).reverse

/-- The value of an option that was given. -/
def value? (g : Given) (name : OptionName) : Option String := (g.valuesOf name).head?

/-- Whether an option may be given more than once. -/
def repeats : OptionName → Bool
  | .type | .binding => true
  | _ => false

/-- Whether a value makes sense for an option. -/
def isValid (name : OptionName) (value : String) : Bool :=
  match name with
  | .mapping | .input | .inputFolder | .outputFolder => value != ""
  | .format => (Rdf.Format.ofName value).isOk
  | .binding => (binding? value).isSome
  | .host | .type => true

/-- One more option with its value. -/
def add? (g : Given) (name : OptionName) (value : String) : Option Given :=
  if !isValid name value || (!repeats name && (g.value? name).isSome) then none
  else some { g with values := (name, value) :: g.values }

/-- What a run without classes is asked for. -/
def addUntyped? (g : Given) : Option Given := if g.untyped then none else some { g with untyped := true }

/-- The class of records unless something else is asked for. -/
def usualType : String := "ONTOLOGY.Publication"

/-- The terms for the classes of records. -/
def types (g : Given) : List String :=
  if g.untyped then []
  else if (g.valuesOf .type).isEmpty then [usualType]
  else g.valuesOf .type

/-- Where the records come from, if that is clear. -/
def source? (g : Given) : Option Source :=
  match g.value? .input, g.value? .inputFolder with
  | some path, none => some (.file path)
  | none, some path => some (.folder path)
  | _, _ => none

/-- What a run is asked to do, if that makes sense. -/
def options? (g : Given) : Option Options := do
  let source ← g.source?
  if g.untyped && !(g.valuesOf .type).isEmpty then none
  else some {
    mapping := (g.value? .mapping).getD "mapping.yaml"
    source := source
    outputFolder := g.value? .outputFolder
    format := ((g.value? .format).bind fun name => (Rdf.Format.ofName name).toOption).getD .nTriples
    settings := {
      host := (g.value? .host).getD "placeholder.com"
      recordTypes := g.types }
    bindings := (g.valuesOf .binding).filterMap binding? }

/-- What the command is asked to do when there are no more arguments. -/
def finish (g : Given) : Invocation :=
  match g.options? with
  | some options => .run options
  | none => .invalid

end Given

/-! ## Arguments -/

/-- A switch as it is written, with the value that is joined to it. -/
structure Written where
  switch : Switch
  value : Option String
  deriving DecidableEq, Repr

/-- A long switch, after its hyphens. -/
def readLong? (cs : List Char) : Option Written := do
  let name := cs.takeWhile (· != '=')
  let switch ← longSwitch? (String.ofList name)
  match cs.drop name.length with
  | [] => some ⟨switch, none⟩
  | _ :: value => some ⟨switch, some (String.ofList value)⟩

/-- A short switch, after its hyphen.  What comes after a switch without a value does not count. -/
def readShort? (c : Char) (cs : List Char) : Option Written := do
  match ← shortSwitch? c with
  | .option name =>
    match cs with
    | [] => some ⟨.option name, none⟩
    | '=' :: value => some ⟨.option name, some (String.ofList value)⟩
    | value => some ⟨.option name, some (String.ofList value)⟩
  | switch => some ⟨switch, none⟩

/-- The switch that an argument is. -/
def readSwitch? (argument : String) : Option Written :=
  match argument.toList with
  | '-' :: '-' :: cs => readLong? cs
  | '-' :: c :: cs => readShort? c cs
  | _ => none

/-- Whether an argument may be the value of the option before it. -/
def isValue (argument : String) : Bool :=
  match argument.toList with
  | '-' :: _ :: _ => false
  | _ => true

/-- What a switch asks for: options to go on with, and an option that still lacks its value, or an end. -/
def Given.takeSwitch (g : Given) (w : Written) : Except Invocation (Given × Option OptionName) :=
  match w.switch, w.value with
  | .option name, some value =>
    match g.add? name value with
    | some g => .ok (g, none)
    | none => .error .invalid
  | .option name, none => .ok (g, some name)
  | .untyped, none =>
    match g.addUntyped? with
    | some g => .ok (g, none)
    | none => .error .invalid
  | .version, none => .error .version
  | .help, none => .error .help
  | _, some _ => .error .invalid

/-- What an argument asks for after an option that may still lack its value. -/
def Given.takeArgument (g : Given) (awaiting : Option OptionName) (argument : String) :
    Except Invocation (Given × Option OptionName) :=
  match awaiting with
  | some name =>
    match if isValue argument then g.add? name argument else none with
    | some g => .ok (g, none)
    | none => .error .invalid
  | none =>
    match readSwitch? argument with
    | some w => g.takeSwitch w
    | none => .error .invalid

/-- What the command is asked to do, after some options of which the last one may still lack its value.
The first argument that asks for the version or for help, or that makes no sense, decides.  Two hyphens
end the options, and nothing may come after them. -/
def readArguments (g : Given) (awaiting : Option OptionName) : List String → Invocation
  | [] => if awaiting.isSome then .invalid else g.finish
  | argument :: rest =>
    if argument == "--" && awaiting.isNone && rest.isEmpty then g.finish
    else
      match g.takeArgument awaiting argument with
      | .ok (g, awaiting) => readArguments g awaiting rest
      | .error result => result

/-- What the command is asked to do. -/
def Invocation.ofArguments (arguments : List String) : Invocation :=
  readArguments {} none arguments

end CatalogGraph.Batch
