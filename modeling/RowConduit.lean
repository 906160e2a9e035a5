import RowConduit.Convert.Stages
import RowConduit.Pipeline.Channel
import RowConduit.Pipeline.DeadLetter
import RowConduit.Pipeline.Telemetry
import RowConduit.Proofs.Convert.Document
import RowConduit.Proofs.Convert.DocumentColumn
import RowConduit.Proofs.Convert.FixedPoint
import RowConduit.Proofs.Convert.MapColumn
import RowConduit.Proofs.Convert.Soundness
import RowConduit.Proofs.Pipeline.Chain
import RowConduit.Proofs.Pipeline.Delivery
import RowConduit.Proofs.Query.Closure
import RowConduit.Proofs.Query.Confinement
import RowConduit.Proofs.Reading.Lifetime
import RowConduit.Proofs.Reading.Mapping
import RowConduit.Proofs.Row.Representation
import RowConduit.Proofs.Schema.Document
import RowConduit.Proofs.Types.Grammar
import RowConduit.Proofs.Warehouse.Field
import RowConduit.Reading.Session
import RowConduit.Schema.Document
import RowConduit.Settings.Document
import RowConduit.Warehouse.Field
import RowConduit.Proofs.Query.Refusal
import RowConduit.Proofs.Convert.Rendering
import RowConduit.Proofs.Reading.Account
import RowConduit.Proofs.Number.Numeral
import RowConduit.Proofs.Number.Written
import RowConduit.Proofs.Convert.Exact
import RowConduit.Proofs.Reading.Addressing
import RowConduit.Proofs.Types.LookupName
import RowConduit.Proofs.Types.Override
import RowConduit.Proofs.Types.NumberType
import RowConduit.Proofs.Types.Spelling
import RowConduit.Proofs.Types.SizeGroup
import RowConduit.Proofs.Types.LeafName
import RowConduit.Proofs.Types.Punctuation
import RowConduit.Proofs.Types.Derivation
import RowConduit.Proofs.Convert.WholeType
import RowConduit.Proofs.Row.Template
import RowConduit.Proofs.Row.KeyList
import RowConduit.Proofs.Warehouse.Destination
import RowConduit.Proofs.Json.Printed
import RowConduit.Proofs.Pipeline.DeadLetter
import RowConduit.Proofs.Query.Quoting
import RowConduit.Proofs.Text.Hex
import RowConduit.Proofs.Convert.Binary
import RowConduit.Proofs.Json.Checked
import RowConduit.Proofs.Row.Rendering
import RowConduit.Proofs.Schema.Parts
