import SqlClient.Options.Json
import SqlClient.ResultSet.Export
import SqlClient.Engine.Scripted
import SqlClient.Session.Step
import SqlClient.Embedded.Engine
import SqlClient.Proofs.Session.Moves
import SqlClient.Proofs.Session.References
import SqlClient.Proofs.Session.Changes
import SqlClient.Proofs.Session.Coherence
import SqlClient.Proofs.Session.Lifetimes
import SqlClient.Proofs.Session.Release
import SqlClient.Proofs.Session.Closing
import SqlClient.Proofs.Binary64.Integers
import SqlClient.Proofs.Binary64.Widening
import SqlClient.Proofs.Table.Conversion
import SqlClient.Proofs.Table.Inference
import SqlClient.Proofs.Table.Materialize
import SqlClient.Proofs.Text.Digits
import SqlClient.Proofs.Timestamp.Layout
import SqlClient.Proofs.Embedded.Binding
import SqlClient.Proofs.Table.OwnRows
import SqlClient.Proofs.Csv.Framing
import SqlClient.Proofs.Session.Registries
import SqlClient.Proofs.Session.Requests
import SqlClient.Proofs.Session.Sharing
import SqlClient.Proofs.Engine.Detached
import SqlClient.Proofs.Session.Users
import SqlClient.Proofs.Session.Isolation
import SqlClient.Proofs.Session.Attempts
import SqlClient.Proofs.Session.Settling
import SqlClient.Proofs.Json.Members
import SqlClient.Proofs.Table.Lookup
import SqlClient.Proofs.Table.Decoding
import SqlClient.Proofs.Json.Characters
import SqlClient.Proofs.Json.Reader
import SqlClient.Proofs.Table.Lines
import SqlClient.Proofs.Embedded.Blank
import SqlClient.Proofs.Table.Selection
import SqlClient.Proofs.Timestamp.Iso
import SqlClient.Proofs.Json.Stored
import SqlClient.Proofs.Calendar.Days
import SqlClient.Proofs.Calendar.Dates
import SqlClient.Proofs.Timestamp.Micros
import SqlClient.Proofs.Table.RecordBatch
import SqlClient.Proofs.Table.Ragged
import SqlClient.Proofs.Table.Misfits
import SqlClient.Proofs.Timestamp.Unambiguous
import SqlClient.Proofs.Timestamp.Instants
import SqlClient.Proofs.Table.Grid
import SqlClient.Proofs.Table.Limit
import SqlClient.Proofs.Table.Timestamps
import SqlClient.Proofs.Embedded.Affinity
import SqlClient.Proofs.ResultSet.Offers
import SqlClient.Proofs.Session.Openings
import SqlClient.Proofs.Session.Identity
import SqlClient.Proofs.Embedded.Counting
import SqlClient.Proofs.Embedded.Library
import SqlClient.Proofs.Embedded.Tallies
import SqlClient.Proofs.Embedded.Affected
import SqlClient.Proofs.Options.Environment
