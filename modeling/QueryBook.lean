import QueryBook.Book.Basic
import QueryBook.Book.Open
import QueryBook.Catalog
import QueryBook.CommandLine.Run
import QueryBook.Compile
import QueryBook.Connection.Offline
import QueryBook.Data.Row
import QueryBook.Files.Encoding
import QueryBook.Files.Tree
import QueryBook.Json.Printer
import QueryBook.Json.Reader
import QueryBook.Log
import QueryBook.Main
import QueryBook.MarkedText
import QueryBook.Projection
import QueryBook.Proofs.Accepting
import QueryBook.Proofs.Agreement
import QueryBook.Proofs.Assigning
import QueryBook.Proofs.Blaming
import QueryBook.Proofs.Books
import QueryBook.Proofs.ByText
import QueryBook.Proofs.Caching
import QueryBook.Proofs.Closure
import QueryBook.Proofs.Collisions
import QueryBook.Proofs.Compilable
import QueryBook.Proofs.Compiling
import QueryBook.Proofs.Counting
import QueryBook.Proofs.Courses
import QueryBook.Proofs.Cuts
import QueryBook.Proofs.Cycles
import QueryBook.Proofs.Deeds
import QueryBook.Proofs.Disconnecting
import QueryBook.Proofs.Dividing
import QueryBook.Proofs.Editing
import QueryBook.Proofs.Encodings
import QueryBook.Proofs.Ends
import QueryBook.Proofs.Escaping
import QueryBook.Proofs.Failing
import QueryBook.Proofs.FileEdits
import QueryBook.Proofs.FileNames
import QueryBook.Proofs.FirstMatch
import QueryBook.Proofs.FlatRuns
import QueryBook.Proofs.Flattening
import QueryBook.Proofs.Gaps
import QueryBook.Proofs.Histories
import QueryBook.Proofs.Includes
import QueryBook.Proofs.Joining
import QueryBook.Proofs.Labels
import QueryBook.Proofs.Lasting
import QueryBook.Proofs.Listing
import QueryBook.Proofs.Markers
import QueryBook.Proofs.Merging
import QueryBook.Proofs.Nesting
import QueryBook.Proofs.Once
import QueryBook.Proofs.Outdating
import QueryBook.Proofs.PercentReading
import QueryBook.Proofs.PlainText
import QueryBook.Proofs.Preparations
import QueryBook.Proofs.Preparing
import QueryBook.Proofs.Printing
import QueryBook.Proofs.Recorded
import QueryBook.Proofs.Remarks
import QueryBook.Proofs.Remembering
import QueryBook.Proofs.Replacing
import QueryBook.Proofs.Replay
import QueryBook.Proofs.Results
import QueryBook.Proofs.Running
import QueryBook.Proofs.Sections
import QueryBook.Proofs.Sending
import QueryBook.Proofs.Settling
import QueryBook.Proofs.Sound
import QueryBook.Proofs.Standing
import QueryBook.Proofs.Statements
import QueryBook.Proofs.TakingBack
import QueryBook.Proofs.Templates
import QueryBook.Proofs.Terminators
import QueryBook.Proofs.Transparency
import QueryBook.Proofs.Uncommenting
import QueryBook.Proofs.Validating
import QueryBook.Proofs.Wrapping
import QueryBook.Script.Basic
import QueryBook.Settings
import QueryBook.Shelf.Search
import QueryBook.Statement.Run
import QueryBook.StatementKind
import QueryBook.Template.Blocks
import QueryBook.Template.Include
import QueryBook.Text.CellWidth
