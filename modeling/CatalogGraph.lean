import CatalogGraph.Batch.FileTree
import CatalogGraph.Main
import CatalogGraph.Marc.RecordJson
import CatalogGraph.Proofs.BlankValues
import CatalogGraph.Proofs.BuiltVocabularies
import CatalogGraph.Proofs.BlamedRules
import CatalogGraph.Proofs.CompiledTerms
import CatalogGraph.Proofs.ConversionFaults
import CatalogGraph.Proofs.NodeIntroduction
import CatalogGraph.Proofs.PipelineStages
import CatalogGraph.Proofs.SubfieldIsolation
import CatalogGraph.Proofs.TagLocality
import CatalogGraph.Proofs.InsertedSubfields
import CatalogGraph.Proofs.SubjectIris
import CatalogGraph.Proofs.WritableConversions
import CatalogGraph.Proofs.BatchShares
import CatalogGraph.Proofs.UnwritableRecords
import CatalogGraph.Proofs.PairedConversions
import CatalogGraph.Proofs.RunAccounts
import CatalogGraph.Proofs.RecordsAsXml
import CatalogGraph.Proofs.RootElement
import CatalogGraph.Proofs.RecordGrouping
import CatalogGraph.Proofs.CompiledOrder
import CatalogGraph.Proofs.CompilationFaults
import CatalogGraph.Proofs.DisplayedStatements
import CatalogGraph.Proofs.TextDeclarations
import CatalogGraph.Proofs.LiteralText
import CatalogGraph.Proofs.OpenDeclarations
import CatalogGraph.Proofs.ChosenPredicates
import CatalogGraph.Proofs.ReadableLines
import CatalogGraph.Proofs.RecordFiles
import CatalogGraph.Proofs.WrittenHosts
import CatalogGraph.Proofs.SubstitutedKeys
import CatalogGraph.Proofs.SplitPieces
import CatalogGraph.Proofs.CleanSlugs
import CatalogGraph.Proofs.IdentifierNumerals
import CatalogGraph.Proofs.ReplacedValues
import CatalogGraph.Proofs.TakenSubstrings
import CatalogGraph.Proofs.WrittenTerms
import CatalogGraph.Proofs.OutputPaths
import CatalogGraph.Proofs.Requirements
import CatalogGraph.Proofs.RecordTexts
import CatalogGraph.Proofs.Expansions
