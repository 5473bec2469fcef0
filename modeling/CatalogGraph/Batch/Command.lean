import CatalogGraph.Batch.Options
import CatalogGraph.Batch.Run
import CatalogGraph.Batch.Storage

/-!
# The command

What the command does from its arguments to its exit status.  The mapping is loaded, the folder for output
is made, the records are converted, and what they came to is written.  The command succeeds even if some
records failed; it fails if one of these steps does, or if the mapping turns out to be at fault.
-/

namespace CatalogGraph.Batch

open CatalogGraph.Conversion

/-- Why the command failed. -/
inductive Failure
  | mapping (path : String) (fault : Fault)
  | outputFolder (path : String)
  | inputFolder (path : String)
  | conversion (path : String) (fault : Fault)
  | writing (why : Unwritable)
  deriving DecidableEq, Repr

namespace Failure

/-- What failed, in words. -/
def message : Failure → String
  | mapping path _ => "Failed to load mapping " ++ path
  | outputFolder path => "Failed to create output directory " ++ path
  | inputFolder path => "Failed to read input directory " ++ path
  | conversion path _ => "Mapping error while converting " ++ path
  | writing _ => "Failed to write statements"

/-- The fault behind the failure, in words. -/
def reason : Failure → String
  | mapping _ fault | conversion _ fault => fault.message
  | outputFolder _ | inputFolder _ => Cause.message .file
  | writing why => Cause.message (.unwritable why)

/-- The report of the failure. -/
def report (f : Failure) : String := "Error: " ++ f.message ++ "\n\nCaused by:\n    " ++ f.reason

end Failure

/-- What the command printed, and why it failed if it did. -/
structure Answer where
  printed : String
  failure : Option Failure
  deriving DecidableEq

/-- The failure that an early end of a run is. -/
def Stop.failure : Stop → Failure
  | conversion path fault => .conversion path fault
  | writing why => .writing why

namespace Options

/-- Where the statements go. -/
def target (o : Options) : Target :=
  match o.outputFolder with
  | some path => .folder path
  | none => .screen

/-- The vocabulary before the bindings of the mapping document. -/
def vocabulary (o : Options) : Vocabulary :=
  (Vocabulary.core.extend .standard).bindAll o.bindings

end Options

variable {m : Type → Type} [Monad m]

namespace Storage

/-- The paths of the files with records, in order. -/
def inputPaths (s : Storage m) : Source → m (Except Failure (List String))
  | .file path => pure (.ok [path])
  | .folder path => do
    match ← s.namesIn? path with
    | some names =>
      let names := (names.filter holdsRecords).mergeSort fun a b => a ≤ b
      pure (.ok (names.map (inFolder path)))
    | none => pure (.error (.inputFolder path))

/-- The inputs of a run. -/
def inputs (s : Storage m) (paths : List String) : m (List Input) :=
  paths.mapM fun path => do pure ⟨path, ← s.loadRecords path⟩

/-- Writes files.  What cannot be written is left out. -/
def writeFiles (s : Storage m) : List (String × String) → m Unit
  | [] => pure ()
  | (path, text) :: rest => do
    let _ ← s.writeFile path text
    s.writeFiles rest

/-- Makes the folder for output if there is one. -/
def prepare (s : Storage m) (o : Options) : m (Except Failure Unit) :=
  match o.outputFolder with
  | none => pure (.ok ())
  | some path => do
    let made ← s.makeFolder path
    pure (if made then .ok () else .error (.outputFolder path))

/-- Does what a run is asked to do. -/
def perform (s : Storage m) (o : Options) : m Answer := do
  match ← s.loadConverter o.mapping o.vocabulary o.settings with
  | .error fault => pure ⟨"", some (.mapping o.mapping fault)⟩
  | .ok converter =>
    match ← s.prepare o with
    | .error failure => pure ⟨"", some failure⟩
    | .ok () =>
      match ← s.inputPaths o.source with
      | .error failure => pure ⟨"", some failure⟩
      | .ok paths =>
        let (progress, stop) := run converter o.target o.format (← s.inputs paths)
        s.writeFiles progress.written
        pure ⟨progress.printed, stop.map Stop.failure⟩

end Storage

/-! ## From arguments to exit status -/

/-- What is printed for the version. -/
def versionText : String := "marcrdf 0.1.0\n"

/-- What is printed for help. -/
def helpText : String := "\n".intercalate [
  "Convert MARCXML records to RDF with a mapping document",
  "",
  "Usage: marcrdf [OPTIONS]",
  "",
  "Options:",
  "  -m, --mapping <MAPPING>        Mapping document (YAML, or JSON with a .json extension)",
  "  -i, --input <INPUT>            MARCXML file to convert",
  "  -d, --input-dir <INPUT_DIR>    Directory of *.marcxml files to convert",
  "  -o, --output-dir <OUTPUT_DIR>  Write one file per record here instead of standard output",
  "  -f, --format <FORMAT>          Output format: ntriples, turtle, rdfxml or jsonld",
  "      --host <HOST>              Host of minted subject URIs",
  "      --type <CLASS>             Class asserted as rdf:type of every record (repeatable)",
  "      --untyped                  Assert no rdf:type for records",
  "      --prefix <NAME=URI>        Extra vocabulary prefix (repeatable)",
  "  -h, --help                     Print help",
  "  -V, --version                  Print version",
  ""]

/-- What the command leaves: its exit status, and what it prints as results and about a failure. -/
structure Result where
  status : Nat
  printed : String
  report : Option String
  deriving DecidableEq, Repr

/-- Does what the arguments ask for. -/
def command (s : Storage m) (arguments : List String) : m Result := do
  match Invocation.ofArguments arguments with
  | .version => pure ⟨0, versionText, none⟩
  | .help => pure ⟨0, helpText, none⟩
  | .invalid => pure ⟨2, "", none⟩
  | .run options =>
    let answer ← s.perform options
    match answer.failure with
    | none => pure ⟨0, answer.printed, none⟩
    | some failure => pure ⟨1, answer.printed, some failure.report⟩

end CatalogGraph.Batch
