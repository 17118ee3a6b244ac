import RunConditions.CommandLine.Tool
import RunConditions.Database.Script
import RunConditions.Database.Server
import RunConditions.Main
import RunConditions.Proofs.CacheInvariant
import RunConditions.Proofs.Selection
import RunConditions.Proofs.Sending
import RunConditions.Proofs.StoredRecords
import RunConditions.Proofs.Transparency
import RunConditions.Proofs.Journal
import RunConditions.Proofs.Sharing
import RunConditions.Proofs.Atomicity
import RunConditions.Proofs.Consistency
import RunConditions.Proofs.Superseded
import RunConditions.Proofs.Closing
import RunConditions.Proofs.Collections
import RunConditions.Proofs.Insertion
import RunConditions.Proofs.Validation
import RunConditions.Proofs.ConfigDocument
import RunConditions.Proofs.ConfiguredTables
import RunConditions.Proofs.Epoch
import RunConditions.Proofs.Nesting
import RunConditions.Proofs.NewRows
import RunConditions.Proofs.RecordText
import RunConditions.Proofs.OpenDatabase
import RunConditions.Proofs.Password
import RunConditions.Proofs.Descriptions
import RunConditions.Proofs.NextOpening
import RunConditions.Proofs.KeylessInsert
import RunConditions.Proofs.ColumnNames
import RunConditions.Proofs.ColumnLayout
import RunConditions.Proofs.GivenId
import RunConditions.Proofs.Adding
import RunConditions.Proofs.ParametersText
import RunConditions.Proofs.DataLayout
import RunConditions.Proofs.ServerRows
