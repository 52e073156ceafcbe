import TrainingLab.Catalog.Basic
import TrainingLab.Device.Connected
import TrainingLab.Device.Console
import TrainingLab.Device.Interface
import TrainingLab.Device.Neighbor
import TrainingLab.Device.Policy
import TrainingLab.Device.Prompt
import TrainingLab.Device.Record
import TrainingLab.Device.Route
import TrainingLab.Device.Staging
import TrainingLab.Device.Vendor
import TrainingLab.Dialect.Basic
import TrainingLab.Dialect.Cloud
import TrainingLab.Dialect.Console
import TrainingLab.Dialect.FortiOs.Table
import TrainingLab.Dialect.Ios.Table
import TrainingLab.Dialect.Junos.Listing
import TrainingLab.Dialect.Junos.Table
import TrainingLab.Dialect.PanOs.Table
import TrainingLab.Grammar.Rule
import TrainingLab.Json.Printer
import TrainingLab.Json.Reader
import TrainingLab.Lab.Definition
import TrainingLab.Lab.Operations
import TrainingLab.Lab.Simulation
import TrainingLab.Main
import TrainingLab.Network.Cidr
import TrainingLab.Proofs.Device.Effect
import TrainingLab.Proofs.Device.Live
import TrainingLab.Proofs.Device.Staging
import TrainingLab.Proofs.Device.Views
import TrainingLab.Proofs.Dialect.Basic
import TrainingLab.Proofs.Dialect.FortiOs.Command
import TrainingLab.Proofs.Dialect.Ios.Command
import TrainingLab.Proofs.Dialect.Junos.Command
import TrainingLab.Proofs.Dialect.Junos.Commit
import TrainingLab.Proofs.Dialect.PanOs.Command
import TrainingLab.Proofs.Dialect.Patterns
import TrainingLab.Proofs.Grammar.Alignment
import TrainingLab.Proofs.Grammar.Completion
import TrainingLab.Proofs.Grammar.Dispatch
import TrainingLab.Proofs.Grammar.Matching
import TrainingLab.Proofs.Lab.Isolation
import TrainingLab.Proofs.Text.Case
import TrainingLab.Protocol
import TrainingLab.Reference
import TrainingLab.Session.MetaCommand
import TrainingLab.Settings
import TrainingLab.SortedMap
import TrainingLab.Text.Alphanumeric
import TrainingLab.Text.Case
import TrainingLab.Text.Decimal
import TrainingLab.Text.Quoted
import TrainingLab.Text.Words
import TrainingLab.Toml.Reader
import TrainingLab.Tutor.Conversation
import TrainingLab.Proofs.Device.Reply
import TrainingLab.Proofs.Lab.Simulation
import TrainingLab.Proofs.Text.Decimal
import TrainingLab.Proofs.Dialect.Inspection
import TrainingLab.Proofs.Dialect.Rejection
import TrainingLab.Proofs.Dialect.FortiOs.Nesting
import TrainingLab.Proofs.Dialect.FortiOs.Editing
import TrainingLab.Proofs.Dialect.Junos.Compare
import TrainingLab.Proofs.Dialect.Ios.Coherence
import TrainingLab.Proofs.Session.Delivery
import TrainingLab.Proofs.Device.InterfaceNetwork
import TrainingLab.Proofs.Dialect.FortiOs.Replay
import TrainingLab.Proofs.Dialect.FortiOs.ListablePolicies
import TrainingLab.Proofs.Dialect.FortiOs.PolicyReplay
import TrainingLab.Proofs.Dialect.Ios.Listable
import TrainingLab.Proofs.Dialect.Ios.Reading
import TrainingLab.Proofs.Dialect.Ios.Replay
import TrainingLab.Proofs.Lab.RoundTrip
import TrainingLab.Proofs.Device.InterfaceChange
import TrainingLab.Proofs.Dialect.Ios.InterfaceChange
import TrainingLab.Proofs.Dialect.FortiOs.InterfaceChange
import TrainingLab.Proofs.Dialect.Junos.InterfaceChange
import TrainingLab.Proofs.Dialect.PanOs.InterfaceChange
import TrainingLab.Proofs.Dialect.Agreement
import TrainingLab.Proofs.Device.Rulebase
import TrainingLab.Proofs.Dialect.Rulebase
import TrainingLab.Proofs.Device.Addressing
import TrainingLab.Proofs.Dialect.Addressing
import TrainingLab.Proofs.Device.Printing
import TrainingLab.Proofs.Dialect.History
import TrainingLab.Proofs.Datum.Codec
import TrainingLab.Proofs.Datum.Parts
import TrainingLab.Proofs.Device.Record
import TrainingLab.Proofs.Json.Lexer
import TrainingLab.Proofs.Json.Numeral
import TrainingLab.Proofs.Json.RoundTrip
import TrainingLab.Proofs.Json.Held
import TrainingLab.Proofs.Device.Json
import TrainingLab.Proofs.Lab.Json
import TrainingLab.Proofs.Dialect.Junos.Hierarchy
import TrainingLab.Proofs.Dialect.Junos.Deletion
import TrainingLab.Proofs.Session.Safety
import TrainingLab.Proofs.Device.Neighbor
import TrainingLab.Proofs.Lab.Arrival
import TrainingLab.Proofs.SecurityGroup
import TrainingLab.Proofs.Text.Ascii
import TrainingLab.Proofs.Reference
import TrainingLab.Proofs.Device.Route
import TrainingLab.Proofs.Text.Columns
import TrainingLab.Proofs.Dialect.Ios.Inspection
import TrainingLab.Proofs.Dialect.Ios.VlanTable
import TrainingLab.Proofs.Dialect.Routing
import TrainingLab.Proofs.Dialect.FortiOs.Fields
import TrainingLab.Proofs.Dialect.PanOs.PolicyQuery
import TrainingLab.Proofs.Tutor.Quiz
import TrainingLab.Proofs.Dialect.InterfaceWrites
import TrainingLab.Proofs.Text.Marks
import TrainingLab.Proofs.Device.Recall
import TrainingLab.Proofs.Dialect.Ios.Marks
import TrainingLab.Proofs.Dialect.Ios.Standard
import TrainingLab.Proofs.Dialect.Ios.PlainAnswers
import TrainingLab.Proofs.Dialect.Ios.CommandHistory
