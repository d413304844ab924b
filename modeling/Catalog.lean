import Catalog.Text.Alphanumeric
import Catalog.Json.Parser
import Catalog.Json.Printer
import Catalog.Entry.Record
import Catalog.Store.Written
import Catalog.Store.Mapped
import Catalog.Store.Script
import Catalog.Service
import Catalog.Migration.Basic
import Catalog.Settings.Basic
import Catalog.Settings.EnvFile
import Catalog.Program
import Catalog.Listing.Record
import Catalog.Main
import Catalog.Proofs.Sql.Arguments
import Catalog.Proofs.Table.Statement
import Catalog.Proofs.Table.Execution
import Catalog.Proofs.Listing.Basic
import Catalog.Proofs.Store.Conversation
import Catalog.Proofs.Store.Machine
import Catalog.Proofs.Store.Agreement
import Catalog.Proofs.Listing.Position
import Catalog.Proofs.Listing.Selection
import Catalog.Proofs.Listing.Agreement
import Catalog.Proofs.Sql.Placeholder
import Catalog.Proofs.Listing.Coherence
import Catalog.Proofs.Service.Codes
import Catalog.Proofs.Session.Interleaving
import Catalog.Proofs.Store.Deadline
import Catalog.Proofs.Store.Errors
import Catalog.Proofs.Store.Exchange
import Catalog.Proofs.Store.Audit
import Catalog.Proofs.Store.Serial
import Catalog.Proofs.Store.Text
import Catalog.Proofs.Listing.Search
import Catalog.Proofs.Service.Gate
import Catalog.Proofs.Service.Concurrent
import Catalog.Proofs.Migration.Database
import Catalog.Proofs.Migration.Transaction
import Catalog.Proofs.Migration.Record
import Catalog.Proofs.Migration.Status
import Catalog.Proofs.Command.Secrecy
import Catalog.Proofs.CommandLine.Variable
import Catalog.Proofs.Decimal
import Catalog.Proofs.Json.Record
import Catalog.Proofs.Calendar.Timestamp
import Catalog.Proofs.Uuid
import Catalog.Proofs.Entry.RoundTrip
import Catalog.Proofs.Text.Blank
import Catalog.Proofs.Listing.Count
import Catalog.Proofs.Listing.Paging
import Catalog.Proofs.Command.Preview
import Catalog.Proofs.Sql.Words
import Catalog.Proofs.Sql.Layout
import Catalog.Proofs.Sql.Order
import Catalog.Proofs.Sql.Parts
import Catalog.Proofs.Sql.Content
import Catalog.Proofs.Store.Question
import Catalog.Proofs.Store.Columns
import Catalog.Proofs.Store.Decoding
import Catalog.Proofs.Service.Outcome
import Catalog.Proofs.Command.Answer
import Catalog.Proofs.Migration.Log
import Catalog.Proofs.Migration.Bracket
import Catalog.Proofs.Migration.Due
import Catalog.Proofs.CommandLine.Word
import Catalog.Proofs.CommandLine.Written
import Catalog.Proofs.CommandLine.RoundTrip
import Catalog.Proofs.Json.Grammar
import Catalog.Proofs.Json.Member
import Catalog.Proofs.Entry.Fields
import Catalog.Proofs.Text.Letter
import Catalog.Proofs.Settings.Spelling
import Catalog.Proofs.Settings.EnvFile
import Catalog.Proofs.Listing.Spelling
import Catalog.Proofs.Settings.Values
