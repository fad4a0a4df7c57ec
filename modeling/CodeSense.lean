import CodeSense.Act
import CodeSense.Cache
import CodeSense.Command.Integer
import CodeSense.Command.Quoting
import CodeSense.Command.Table
import CodeSense.Command.Words
import CodeSense.Completion.Candidate
import CodeSense.Completion.Chunk
import CodeSense.Completion.Matching
import CodeSense.Diagnostic
import CodeSense.Engine
import CodeSense.Engine.Absent
import CodeSense.Engine.Script
import CodeSense.Fault
import CodeSense.FileSystem
import CodeSense.Journal
import CodeSense.Keyed
import CodeSense.Main
import CodeSense.Native.Engine
import CodeSense.Native.Library
import CodeSense.Overlays
import CodeSense.Pool
import CodeSense.Proofs.Act
import CodeSense.Proofs.Cache
import CodeSense.Proofs.Command.Grammar
import CodeSense.Proofs.Command.Lines
import CodeSense.Proofs.Command.Literals
import CodeSense.Proofs.Command.Requests
import CodeSense.Proofs.Completion.Decoding
import CodeSense.Proofs.Completion.Narrowing
import CodeSense.Proofs.Completion.Ranking
import CodeSense.Proofs.Engine
import CodeSense.Proofs.FileSystem
import CodeSense.Proofs.Keyed
import CodeSense.Proofs.Native.Clients
import CodeSense.Proofs.Native.Handles
import CodeSense.Proofs.Native.Tables
import CodeSense.Proofs.Pool.Agreement
import CodeSense.Proofs.Pool.Balance
import CodeSense.Proofs.Pool.Client
import CodeSense.Proofs.Pool.Closing
import CodeSense.Proofs.Pool.Coherence
import CodeSense.Proofs.Pool.Footprint
import CodeSense.Proofs.Pool.Growth
import CodeSense.Proofs.Pool.Locality
import CodeSense.Proofs.Pool.Obtaining
import CodeSense.Proofs.Pool.Operations
import CodeSense.Proofs.Pool.Retry
import CodeSense.Proofs.Pool.Statistics
import CodeSense.Proofs.Pool.Teardown
import CodeSense.Proofs.Response.Frame
import CodeSense.Proofs.Response.Reading
import CodeSense.Proofs.Server.Agreement
import CodeSense.Proofs.Server.Alias
import CodeSense.Proofs.Server.Execute
import CodeSense.Proofs.Server.Frames
import CodeSense.Proofs.Server.Loop
import CodeSense.Proofs.Server.Pairs
import CodeSense.Proofs.Server.Queries
import CodeSense.Proofs.Server.Reading
import CodeSense.Proofs.Server.Rejection
import CodeSense.Proofs.Server.Returning
import CodeSense.Proofs.Server.Runs
import CodeSense.Proofs.Server.Twins
import CodeSense.Proofs.Session.Active
import CodeSense.Proofs.Session.Agreement
import CodeSense.Proofs.Session.Buffers
import CodeSense.Proofs.Session.Candidates
import CodeSense.Proofs.Session.Completing
import CodeSense.Proofs.Session.Conduct
import CodeSense.Proofs.Session.Discipline
import CodeSense.Proofs.Session.Effects
import CodeSense.Proofs.Session.Listing
import CodeSense.Proofs.Session.Overlays
import CodeSense.Proofs.Session.Readings
import CodeSense.Proofs.Session.References
import CodeSense.Proofs.Session.Reports
import CodeSense.Proofs.Session.ResultSets
import CodeSense.Proofs.Session.Sound
import CodeSense.Proofs.Session.Steps
import CodeSense.Proofs.Startup.Boundary
import CodeSense.Proofs.Startup.Cleanup
import CodeSense.Proofs.Startup.Modes
import CodeSense.Proofs.Text.Utf8
import CodeSense.Proofs.Trace
import CodeSense.Response
import CodeSense.Response.Reader
import CodeSense.Server.Basic
import CodeSense.Server.Execute
import CodeSense.Server.Loop
import CodeSense.Server.Scratch
import CodeSense.Session.Analysis
import CodeSense.Session.Basic
import CodeSense.Session.Buffers
import CodeSense.Session.Completing
import CodeSense.Session.Operation
import CodeSense.Settings
import CodeSense.Startup.Launch
import CodeSense.Startup.Options
import CodeSense.Text.Blank
import CodeSense.Text.Case.Fold
import CodeSense.Text.Case.Lower
import CodeSense.Text.Case.Upper
import CodeSense.Text.Decimal
import CodeSense.Text.Digit
import CodeSense.Text.Newline
import CodeSense.Text.Printable
import CodeSense.Text.Quoted
import CodeSense.Text.Runs
import CodeSense.Text.Utf8
