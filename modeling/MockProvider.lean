import MockProvider.Body.Basic
import MockProvider.Body.ContentType
import MockProvider.Config
import MockProvider.Contract.Basic
import MockProvider.Contract.Error
import MockProvider.Decimal.Binary64
import MockProvider.Decimal.Shortest
import MockProvider.Dict.Assoc
import MockProvider.Dict.Basic
import MockProvider.DocPath.Basic
import MockProvider.DocPath.Parser
import MockProvider.Files.PactFile
import MockProvider.Files.Tree
import MockProvider.Handles.Session
import MockProvider.Handles.Table
import MockProvider.Json.Basic
import MockProvider.Json.Number
import MockProvider.Json.Parser
import MockProvider.Json.Printer
import MockProvider.Json.Record
import MockProvider.Matching.Body
import MockProvider.Matching.Facets
import MockProvider.Matching.Headers
import MockProvider.Matching.Query
import MockProvider.Matching.Selection
import MockProvider.Matching.Structure
import MockProvider.Matching.Values
import MockProvider.Matching.Xml
import MockProvider.Message.Basic
import MockProvider.Message.Builder
import MockProvider.Message.Codec
import MockProvider.Mismatch
import MockProvider.Pattern.Anchored
import MockProvider.Pattern.Basic
import MockProvider.Pattern.Bracket
import MockProvider.Pattern.CharSet
import MockProvider.Pattern.Escape
import MockProvider.Pattern.Flags
import MockProvider.Pattern.Parser
import MockProvider.Proofs.Contract.Additions
import MockProvider.Proofs.Contract.Merging
import MockProvider.Proofs.Contract.RoundTrip
import MockProvider.Proofs.Contract.Storing
import MockProvider.Proofs.Decimal.Rounding
import MockProvider.Proofs.Decimal.Shortest
import MockProvider.Proofs.Dict.Grouping
import MockProvider.Proofs.Dict.Lookup
import MockProvider.Proofs.DocPath.Grammar
import MockProvider.Proofs.DocPath.RoundTrip
import MockProvider.Proofs.Files.PactRuns
import MockProvider.Proofs.Files.Rewriting
import MockProvider.Proofs.Files.Trees
import MockProvider.Proofs.Handles.Calls
import MockProvider.Proofs.Handles.Edits
import MockProvider.Proofs.Handles.Histories
import MockProvider.Proofs.Handles.Interleaving
import MockProvider.Proofs.Handles.Notes
import MockProvider.Proofs.Handles.Refusals
import MockProvider.Proofs.Handles.Rereading
import MockProvider.Proofs.Json.Decimals
import MockProvider.Proofs.Json.Numbers
import MockProvider.Proofs.Json.Quotes
import MockProvider.Proofs.Json.Reading
import MockProvider.Proofs.Json.Remainders
import MockProvider.Proofs.Json.RoundTrip
import MockProvider.Proofs.Json.Scaling
import MockProvider.Proofs.Json.Shape
import MockProvider.Proofs.Json.Tokens
import MockProvider.Proofs.Lists.Choice
import MockProvider.Proofs.Matching.Bounds
import MockProvider.Proofs.Matching.Cascading
import MockProvider.Proofs.Matching.Closeness
import MockProvider.Proofs.Matching.Equality
import MockProvider.Proofs.Matching.HeaderElements
import MockProvider.Proofs.Matching.Headers
import MockProvider.Proofs.Matching.Kinds
import MockProvider.Proofs.Matching.Noninterference
import MockProvider.Proofs.Matching.Places
import MockProvider.Proofs.Matching.Queries
import MockProvider.Proofs.Matching.Reflexive
import MockProvider.Proofs.Matching.SelfMatch
import MockProvider.Proofs.Matching.Siblings
import MockProvider.Proofs.Message.Accepting
import MockProvider.Proofs.Message.Arriving
import MockProvider.Proofs.Message.Bodies
import MockProvider.Proofs.Message.Indexed
import MockProvider.Proofs.Message.RoundTrip
import MockProvider.Proofs.Message.Typing
import MockProvider.Proofs.Message.Wire
import MockProvider.Proofs.Pattern.Anchored
import MockProvider.Proofs.Pattern.Brackets
import MockProvider.Proofs.Pattern.Escapes
import MockProvider.Proofs.Pattern.Groups
import MockProvider.Proofs.Pattern.Spans
import MockProvider.Proofs.Rule.Encodings
import MockProvider.Proofs.Rule.Locations
import MockProvider.Proofs.Rule.Precedence
import MockProvider.Proofs.Rule.Rereading
import MockProvider.Proofs.Rule.Resolution
import MockProvider.Proofs.Rule.RoundTrip
import MockProvider.Proofs.Rule.Tables
import MockProvider.Proofs.Rule.WellFormed
import MockProvider.Proofs.Server.Calls
import MockProvider.Proofs.Server.Isolation
import MockProvider.Proofs.Server.Lifecycle
import MockProvider.Proofs.Server.Replay
import MockProvider.Proofs.Server.Sections
import MockProvider.Proofs.Server.Serving
import MockProvider.Proofs.Server.Verdict
import MockProvider.Proofs.Text.Ascii
import MockProvider.Proofs.Text.Leading
import MockProvider.Proofs.Text.Percent
import MockProvider.Proofs.Text.Queries
import MockProvider.Proofs.Text.Separated
import MockProvider.Proofs.Text.Utf8
import MockProvider.Query
import MockProvider.Rule.Basic
import MockProvider.Rule.Codec
import MockProvider.Rule.RuleList
import MockProvider.Rule.Table
import MockProvider.Server.Address
import MockProvider.Server.Arrival
import MockProvider.Server.Basic
import MockProvider.Server.Error
import MockProvider.Server.Listening
import MockProvider.Server.Registry
import MockProvider.Server.Reply
import MockProvider.Server.Report
import MockProvider.Text.Basic
import MockProvider.Text.Percent
import MockProvider.Text.Quoted
import MockProvider.Text.Utf8
import MockProvider.Unicode.CaseFolding
import MockProvider.Unicode.Category
import MockProvider.Unicode.Category.Letter
import MockProvider.Unicode.Category.Mark
import MockProvider.Unicode.Category.Numeral
import MockProvider.Unicode.Category.Other
import MockProvider.Unicode.Category.Punctuation
import MockProvider.Unicode.Category.Symbol
import MockProvider.Unicode.Property
import MockProvider.Unicode.Property.Contributory
import MockProvider.Unicode.Property.Tables
import MockProvider.Unicode.Script
import MockProvider.Unicode.Script.FromAToI
import MockProvider.Unicode.Script.FromIToO
import MockProvider.Unicode.Script.FromOToZ
import MockProvider.Xml.Parser
import MockProvider.Proofs.Message.Locations
import MockProvider.Proofs.Contract.FirstDefect
import MockProvider.Proofs.Rule.Grouping
