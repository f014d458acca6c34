import ChatModeration.Advertising
import ChatModeration.Binary64.Basic
import ChatModeration.Binary64.Decimal
import ChatModeration.Binary64.Shortest
import ChatModeration.Bot
import ChatModeration.Channel
import ChatModeration.Config.Basic
import ChatModeration.Config.Error
import ChatModeration.Config.File
import ChatModeration.Config.Manager
import ChatModeration.Config.Schema
import ChatModeration.Config.Snapshot
import ChatModeration.Config.Validation
import ChatModeration.Emotes
import ChatModeration.Enforcement
import ChatModeration.Escalation
import ChatModeration.Feed.Account
import ChatModeration.Feed.Event
import ChatModeration.Feed.FirstMessage
import ChatModeration.Feed.Frame
import ChatModeration.Feed.Subscription
import ChatModeration.Fingerprint
import ChatModeration.Ingestion
import ChatModeration.Json.Decode
import ChatModeration.Json.Number
import ChatModeration.Json.Outline
import ChatModeration.Json.Read
import ChatModeration.Json.Token
import ChatModeration.Json.Value
import ChatModeration.Json.Write
import ChatModeration.Message
import ChatModeration.Moderation.Check
import ChatModeration.Moderation.Desk
import ChatModeration.Moderation.Finding
import ChatModeration.Moderation.Records
import ChatModeration.Moderation.Repeats
import ChatModeration.Pattern.Bracket
import ChatModeration.Pattern.CharSet
import ChatModeration.Pattern.Escape
import ChatModeration.Pattern.Expr
import ChatModeration.Pattern.Names
import ChatModeration.Pattern.Reader
import ChatModeration.Pattern.Search
import ChatModeration.Rule.Basic
import ChatModeration.Rule.Matcher
import ChatModeration.Rule.Options
import ChatModeration.Shutdown
import ChatModeration.Stats
import ChatModeration.Store.Basic
import ChatModeration.Store.Shard
import ChatModeration.Text.Blank
import ChatModeration.Text.Case
import ChatModeration.Text.CaseTable
import ChatModeration.Text.Category
import ChatModeration.Text.Category.Contributory
import ChatModeration.Text.Category.Table
import ChatModeration.Text.CodeTable
import ChatModeration.Text.Compatibility
import ChatModeration.Text.CompositionTable
import ChatModeration.Text.Decomposition.Ideographs
import ChatModeration.Text.Decomposition.Letters
import ChatModeration.Text.Decomposition.Presentation
import ChatModeration.Text.Decomposition.Shifts
import ChatModeration.Text.Decomposition.Supplement
import ChatModeration.Text.Decomposition.SupplementaryIdeographs
import ChatModeration.Text.Decomposition.Symbols
import ChatModeration.Text.Digits
import ChatModeration.Text.MarkTable
import ChatModeration.Text.Normalize
import ChatModeration.Text.Phrase
import ChatModeration.Text.Pieces
import ChatModeration.Text.Quoted
import ChatModeration.Text.Scan
import ChatModeration.Verdict
import ChatModeration.Workers
import ChatModeration.Yaml.Cursor
import ChatModeration.Yaml.Literal
import ChatModeration.Yaml.Node
import ChatModeration.Yaml.Property
import ChatModeration.Yaml.Scalar
import ChatModeration.Yaml.Token
import ChatModeration.Yaml.Token.Lexer
import ChatModeration.Yaml.Typed
import ChatModeration.Proofs.Advertising
import ChatModeration.Proofs.Advertising.Links
import ChatModeration.Proofs.Config.Limits
import ChatModeration.Proofs.Config.Restarts
import ChatModeration.Proofs.Config.Words
import ChatModeration.Proofs.Escalation
import ChatModeration.Proofs.Feed.Commands
import ChatModeration.Proofs.Feed.Notifications
import ChatModeration.Proofs.Feed.Sightings
import ChatModeration.Proofs.Fingerprint.Parts
import ChatModeration.Proofs.Ingestion.Announcements
import ChatModeration.Proofs.Ingestion.Failures
import ChatModeration.Proofs.Ingestion.Picture
import ChatModeration.Proofs.Ingestion.Reconnecting
import ChatModeration.Proofs.Moderation.Accounting
import ChatModeration.Proofs.Moderation.Answers
import ChatModeration.Proofs.Moderation.Counters
import ChatModeration.Proofs.Moderation.Counting
import ChatModeration.Proofs.Moderation.Desks
import ChatModeration.Proofs.Moderation.Footprint
import ChatModeration.Proofs.Moderation.Gaps
import ChatModeration.Proofs.Moderation.Isolation
import ChatModeration.Proofs.Moderation.Linearization
import ChatModeration.Proofs.Moderation.Precedents
import ChatModeration.Proofs.Moderation.Pruning
import ChatModeration.Proofs.Moderation.Repetition
import ChatModeration.Proofs.Moderation.Settings
import ChatModeration.Proofs.Moderation.Timeouts
import ChatModeration.Proofs.Phrases
import ChatModeration.Proofs.Rule.PatternForms
import ChatModeration.Proofs.Rule.RawPhrases
import ChatModeration.Proofs.Rule.WholeMatch
import ChatModeration.Proofs.Rule.WordModes
import ChatModeration.Proofs.Shutdown
import ChatModeration.Proofs.Similarity
import ChatModeration.Proofs.Stats
import ChatModeration.Proofs.Store.Consistency
import ChatModeration.Proofs.Store.Interleaving
import ChatModeration.Proofs.Store.Refinement
import ChatModeration.Proofs.Store.Removal
import ChatModeration.Proofs.Store.Slots
import ChatModeration.Proofs.Text.Insertions
import ChatModeration.Proofs.Workers.Accounts
