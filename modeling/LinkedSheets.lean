import LinkedSheets.Main
import LinkedSheets.Resolution.Typed
import LinkedSheets.Schema.Catalog
import LinkedSheets.Source.FileTree
import LinkedSheets.Proofs.FirstFailure
import LinkedSheets.Proofs.RowOutcome
import LinkedSheets.Proofs.DataRow
import LinkedSheets.Proofs.RowValue
import LinkedSheets.Proofs.DepthLimit
import LinkedSheets.Proofs.Cycle
import LinkedSheets.Proofs.FieldPath
import LinkedSheets.Proofs.Lenient
import LinkedSheets.Proofs.RowCount
import LinkedSheets.Proofs.Extension
import LinkedSheets.Proofs.Embedded
import LinkedSheets.Proofs.Renaming
import LinkedSheets.Proofs.ObjectKeys
import LinkedSheets.Proofs.RecordValue
import LinkedSheets.Proofs.FirstMatch
import LinkedSheets.Proofs.RowLookup
import LinkedSheets.Proofs.CellGrammar
import LinkedSheets.Proofs.ValueShape
import LinkedSheets.Proofs.FieldOrder
import LinkedSheets.Proofs.NumberText
import LinkedSheets.Proofs.ColumnOrder
import LinkedSheets.Proofs.FittedRows
import LinkedSheets.Proofs.PathFront
import LinkedSheets.Proofs.WrittenValue
import LinkedSheets.Proofs.AllOrNothing
import LinkedSheets.Proofs.RepeatedFields
import LinkedSheets.Proofs.LinkedList
import LinkedSheets.Proofs.EventLog
import LinkedSheets.Proofs.KnownFields
import LinkedSheets.Proofs.ArrayItems
import LinkedSheets.Proofs.QuotedRecords
import LinkedSheets.Proofs.SheetDocument
import LinkedSheets.Proofs.CellPlaces
import LinkedSheets.Proofs.FileStems
import LinkedSheets.Proofs.UnplacedFailures
import LinkedSheets.Proofs.ResolverSettings
import LinkedSheets.Proofs.SheetOrder
import LinkedSheets.Proofs.EmptyField
