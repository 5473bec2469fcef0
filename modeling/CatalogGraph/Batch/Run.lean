import CatalogGraph.Batch.FileName
import CatalogGraph.Conversion.Converter
import CatalogGraph.Rdf.Serialization

/-!
# Batch runs

A run converts the records of its inputs one after the other.  With a folder as target every record gets a
file of its own.  On the screen, N-Triples are printed record by record; a document of any other format is
printed at the end, for all records together.

An input that cannot be read and a record that cannot be written count as failed, and the run goes on; what
had been written of such a record stays.  A fault of the mapping ends the run.
-/

namespace CatalogGraph.Batch

open CatalogGraph.Conversion CatalogGraph.Marc CatalogGraph.Rdf

/-- A file of records that has been read, or could not be. -/
structure Input where
  path : String
  records : Outcome (List Record)

/-- Where the statements go. -/
inductive Target
  | screen
  | folder (path : String)
  deriving DecidableEq, Repr

/-- How far a run has got. -/
structure Progress where
  printed : String := ""
  /-- The files that were written, in order, with their texts. -/
  written : List (String × String) := []
  /-- The statements that are still to be written. -/
  pending : List Statement := []
  converted : Nat := 0
  failed : Nat := 0
  deriving DecidableEq

/-- Why a run ended early. -/
inductive Stop
  /-- A fault of the mapping that showed in a record of a file. -/
  | conversion (path : String) (fault : Fault)
  /-- The document at the end could not be written. -/
  | writing (why : Unwritable)
  deriving DecidableEq, Repr

namespace Progress

/-- One more record was written, or could not be written to its end. -/
def count (p : Progress) (stopped : Option Unwritable) : Progress :=
  match stopped with
  | none => { p with converted := p.converted + 1 }
  | some _ => { p with failed := p.failed + 1 }

/-- The statements of one more record. -/
def addStatements (p : Progress) (target : Target) (format : Format) (r : Record)
    (statements : List Statement) : Progress :=
  match target, format with
  | .folder folder, _ =>
    let t := format.write statements
    { p with written := p.written ++ [(outputPath folder r format, t.text)] }.count t.stopped
  | .screen, .nTriples =>
    let t := format.write statements
    { p with printed := p.printed ++ t.text }.count t.stopped
  | .screen, _ => { p with pending := p.pending ++ statements }.count none

/-- Converts the records of a file, up to a fault of the mapping. -/
def addRecords (c : Converter) (target : Target) (format : Format) (path : String) :
    List Record → Progress → Progress × Option Stop
  | [], p => (p, none)
  | r :: rest, p =>
    match c.convert r with
    | .ok statements => addRecords c target format path rest (p.addStatements target format r statements)
    | .error fault =>
      if fault.isConfiguration then (p, some (.conversion path fault))
      else addRecords c target format path rest { p with failed := p.failed + 1 }

/-- Converts the records of all inputs, up to a fault of the mapping. -/
def addInputs (c : Converter) (target : Target) (format : Format) :
    List Input → Progress → Progress × Option Stop
  | [], p => (p, none)
  | input :: rest, p =>
    match input.records with
    | .error _ => addInputs c target format rest { p with failed := p.failed + 1 }
    | .ok records =>
      match addRecords c target format input.path records p with
      | (p, some stop) => (p, some stop)
      | (p, none) => addInputs c target format rest p

/-- Prints the document of the statements that are still to be written. -/
def finish (p : Progress) (target : Target) (format : Format) : Progress × Option Stop :=
  match target, format with
  | .folder _, _ | .screen, .nTriples => (p, none)
  | .screen, _ =>
    let t := format.write p.pending
    ({ p with printed := p.printed ++ t.text, pending := [] }, t.stopped.map .writing)

end Progress

/-- Converts the records of all inputs. -/
def run (c : Converter) (target : Target) (format : Format) (inputs : List Input) :
    Progress × Option Stop :=
  match Progress.addInputs c target format inputs {} with
  | (p, some stop) => (p, some stop)
  | (p, none) => p.finish target format

end CatalogGraph.Batch
