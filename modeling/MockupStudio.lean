import MockupStudio.Address.Basic
import MockupStudio.Address.Error
import MockupStudio.Address.Host
import MockupStudio.Address.Percent
import MockupStudio.Address.Punycode
import MockupStudio.Bindings
import MockupStudio.Command.Arguments
import MockupStudio.Command.Documents
import MockupStudio.Command.Error
import MockupStudio.Command.Options
import MockupStudio.Command.Run
import MockupStudio.Command.Usage
import MockupStudio.Command.Watch
import MockupStudio.Decimal.Dyadic
import MockupStudio.Decimal.Layout
import MockupStudio.Decimal.Numeral
import MockupStudio.Decimal.Power
import MockupStudio.Decimal.Shortest
import MockupStudio.Document.Basic
import MockupStudio.Document.Encoding
import MockupStudio.Document.Stage
import MockupStudio.Files.Disk
import MockupStudio.Files.Path
import MockupStudio.Inspect.Syntax
import MockupStudio.Inspect.Value
import MockupStudio.Json.Basic
import MockupStudio.Json.Reader
import MockupStudio.Json.Writer
import MockupStudio.Json.Written
import MockupStudio.Main
import MockupStudio.Preview.Archive
import MockupStudio.Preview.Basic
import MockupStudio.Preview.Bundle
import MockupStudio.Preview.Consumer
import MockupStudio.Preview.Editing
import MockupStudio.Preview.Session
import MockupStudio.Preview.Settings
import MockupStudio.Preview.Slot
import MockupStudio.Schedule.Agenda
import MockupStudio.Schedule.Debounce
import MockupStudio.Schedule.Rebounce
import MockupStudio.Script.Draws
import MockupStudio.Script.Evaluator
import MockupStudio.Script.Library
import MockupStudio.Script.Lexer
import MockupStudio.Script.Limits
import MockupStudio.Script.Operators
import MockupStudio.Script.Parser
import MockupStudio.Script.Resolver
import MockupStudio.Script.RuntimeError
import MockupStudio.Script.Sandbox
import MockupStudio.Script.Scope
import MockupStudio.Script.Syntax
import MockupStudio.Script.Token
import MockupStudio.Script.Value
import MockupStudio.Script.Value.Equality
import MockupStudio.Script.Value.Text
import MockupStudio.Store.Basic
import MockupStudio.Store.Directory
import MockupStudio.Store.Error
import MockupStudio.Store.Folder
import MockupStudio.Store.Memory
import MockupStudio.Store.Remote
import MockupStudio.Store.Steps
import MockupStudio.Text.Blank
import MockupStudio.Text.Letter
import MockupStudio.Text.Marked
import MockupStudio.Text.Quoted
import MockupStudio.Text.Ranges
import MockupStudio.Time.Calendar
import MockupStudio.Time.Notation
import MockupStudio.Time.Timestamp
import MockupStudio.Toml.Number
import MockupStudio.Toml.Reader
import MockupStudio.Toml.Table
import MockupStudio.Toml.Text
import MockupStudio.Wire.Basic
import MockupStudio.Wire.OfJson
import MockupStudio.Proofs.Bindings
import MockupStudio.Proofs.Script.Height
import MockupStudio.Proofs.Script.Reading
import MockupStudio.Proofs.Script.NestingLimit
import MockupStudio.Proofs.Script.Forcing
import MockupStudio.Proofs.Script.Nesting
import MockupStudio.Proofs.Script.Operations
import MockupStudio.Proofs.Script.Preservation
import MockupStudio.Proofs.Script.Hereditary
import MockupStudio.Proofs.Script.Expansion
import MockupStudio.Proofs.Script.ExpansionDepth
import MockupStudio.Proofs.Preview.Facets
import MockupStudio.Proofs.Preview.Windows
import MockupStudio.Proofs.Preview.Compiles
import MockupStudio.Proofs.Preview.Autosave
import MockupStudio.Proofs.Script.Keys
import MockupStudio.Proofs.Script.LargerLimits
import MockupStudio.Proofs.Script.Faults
import MockupStudio.Proofs.Script.Moments
import MockupStudio.Proofs.Script.Counters
import MockupStudio.Proofs.Script.Agreement
import MockupStudio.Proofs.Script.Termination
import MockupStudio.Proofs.Preview.Outcomes
import MockupStudio.Proofs.Preview.Consumers
import MockupStudio.Proofs.Preview.Notices
import MockupStudio.Proofs.Preview.Persistence
import MockupStudio.Proofs.Preview.Consistency
import MockupStudio.Proofs.Preview.Isolation
import MockupStudio.Proofs.Preview.Loading
import MockupStudio.Proofs.Store.Listing
import MockupStudio.Proofs.Store.Calls
import MockupStudio.Proofs.Store.Shelf
import MockupStudio.Proofs.Store.Directory
import MockupStudio.Proofs.Store.Places
import MockupStudio.Proofs.Time.Calendar
import MockupStudio.Proofs.Time.Notation
import MockupStudio.Proofs.Json.Reading
import MockupStudio.Proofs.Json.Writing
import MockupStudio.Proofs.Document.Encoding
import MockupStudio.Proofs.Store.Refinement
import MockupStudio.Proofs.Store.Renaming
import MockupStudio.Proofs.Store.Moves
import MockupStudio.Proofs.Store.Traffic
import MockupStudio.Proofs.Store.Linearization
import MockupStudio.Proofs.Store.Dates
import MockupStudio.Proofs.Store.Keeper
import MockupStudio.Proofs.Store.Mirroring
import MockupStudio.Proofs.Script.Parts
import MockupStudio.Proofs.Script.MomentCode
import MockupStudio.Proofs.Script.MomentValues
import MockupStudio.Proofs.Script.ValueDepth
import MockupStudio.Proofs.Script.Growth
import MockupStudio.Proofs.Script.Printing
import MockupStudio.Proofs.Script.PrintedExpressions
import MockupStudio.Proofs.Script.PrintedStatements
import MockupStudio.Proofs.Script.Spelling
import MockupStudio.Proofs.Script.Rendering
import MockupStudio.Proofs.Related
import MockupStudio.Proofs.Script.Alike
import MockupStudio.Proofs.Script.AlikeOperations
import MockupStudio.Proofs.Script.AlikeMoments
import MockupStudio.Proofs.Script.AlikeExpansion
import MockupStudio.Proofs.Script.MapOrder
import MockupStudio.Proofs.Script.Closures
import MockupStudio.Proofs.Script.ScopeStack
import MockupStudio.Proofs.Schedule.Pauses
import MockupStudio.Proofs.Schedule.TimerTasks
import MockupStudio.Proofs.Schedule.Spacing
import MockupStudio.Proofs.Preview.Resampling
import MockupStudio.Proofs.Preview.Bundles
import MockupStudio.Proofs.Script.PlainData
import MockupStudio.Proofs.Script.Generator
import MockupStudio.Proofs.Script.UniformDraws
import MockupStudio.Proofs.Script.Promises
import MockupStudio.Proofs.Script.Repetition
import MockupStudio.Proofs.Script.Tour
import MockupStudio.Proofs.Script.TourOfWalk
import MockupStudio.Proofs.Script.MoreLevels
import MockupStudio.Proofs.Script.Spans
import MockupStudio.Proofs.Script.SourceOrder
import MockupStudio.Proofs.Script.Tiling
import MockupStudio.Proofs.Schedule.Independence
import MockupStudio.Proofs.Json.Printable
import MockupStudio.Proofs.Command.Samples
import MockupStudio.Proofs.Script.Sequences
import MockupStudio.Proofs.Script.Arithmetic
import MockupStudio.Proofs.Script.RecordedDepth
import MockupStudio.Proofs.Script.NestingInWords
