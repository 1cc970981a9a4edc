import UrlQuery.Assoc
import UrlQuery.Decimal.Binary
import UrlQuery.Decimal.Shortest
import UrlQuery.Decimal.Text
import UrlQuery.Derive.Attribute
import UrlQuery.Derive.Generics
import UrlQuery.Derive.Item
import UrlQuery.Derive.Keyword
import UrlQuery.Derive.Rename
import UrlQuery.Derive.Token
import UrlQuery.Encoding.Basic
import UrlQuery.Encoding.Config
import UrlQuery.Encoding.Traversal
import UrlQuery.Error
import UrlQuery.Field.Basic
import UrlQuery.Field.Tag
import UrlQuery.Json.Basic
import UrlQuery.Json.Number
import UrlQuery.Json.Reader
import UrlQuery.Json.Text
import UrlQuery.Json.Token
import UrlQuery.Media.Registry
import UrlQuery.Media.Subtype
import UrlQuery.Params.Basic
import UrlQuery.Params.Form
import UrlQuery.Params.Json
import UrlQuery.Proofs.Derive.Arguments
import UrlQuery.Proofs.Derive.Lexemes
import UrlQuery.Proofs.Derive.Members
import UrlQuery.Proofs.Derive.Rename
import UrlQuery.Proofs.Derive.Settled
import UrlQuery.Proofs.Encoding.Append
import UrlQuery.Proofs.Encoding.Depth
import UrlQuery.Proofs.Encoding.Elements
import UrlQuery.Proofs.Encoding.Encoders
import UrlQuery.Proofs.Encoding.Handed
import UrlQuery.Proofs.Encoding.Idempotence
import UrlQuery.Proofs.Encoding.Injective
import UrlQuery.Proofs.Encoding.Inline
import UrlQuery.Proofs.Encoding.Interchange
import UrlQuery.Proofs.Encoding.Joined
import UrlQuery.Proofs.Encoding.Keys
import UrlQuery.Proofs.Encoding.Layout
import UrlQuery.Proofs.Encoding.Leaves
import UrlQuery.Proofs.Encoding.Open
import UrlQuery.Proofs.Encoding.Pairs
import UrlQuery.Proofs.Encoding.Reach
import UrlQuery.Proofs.Encoding.Redacted
import UrlQuery.Proofs.Encoding.Reordered
import UrlQuery.Proofs.Encoding.Retagged
import UrlQuery.Proofs.Encoding.Root
import UrlQuery.Proofs.Encoding.Scope
import UrlQuery.Proofs.Encoding.Sequence
import UrlQuery.Proofs.Encoding.Step
import UrlQuery.Proofs.Encoding.Trace
import UrlQuery.Proofs.Encoding.Vacant
import UrlQuery.Proofs.Field.Options
import UrlQuery.Proofs.Field.Tag
import UrlQuery.Proofs.Media.Registry
import UrlQuery.Proofs.Media.Subtype
import UrlQuery.Proofs.Params.Form
import UrlQuery.Proofs.Params.Laws
import UrlQuery.Proofs.Params.Operations
import UrlQuery.Proofs.Params.Parse
import UrlQuery.Proofs.Params.Valued
import UrlQuery.Proofs.Text.Case
import UrlQuery.Proofs.Text.Digits
import UrlQuery.Proofs.Text.Mark
import UrlQuery.Proofs.Text.Order
import UrlQuery.Proofs.Text.Percent
import UrlQuery.Proofs.Text.Utf8
import UrlQuery.Proofs.Time.Unix
import UrlQuery.Proofs.Url.Query
import UrlQuery.Settings
import UrlQuery.Text.Percent
import UrlQuery.Text.Quoted
import UrlQuery.Text.Utf8
import UrlQuery.Time.Basic
import UrlQuery.Time.Calendar
import UrlQuery.Time.Layout
import UrlQuery.Time.Number
import UrlQuery.Time.Offset
import UrlQuery.Time.Render
import UrlQuery.Unicode.Case
import UrlQuery.Unicode.CaseTable
import UrlQuery.Unicode.Composition
import UrlQuery.Unicode.CompositionTable
import UrlQuery.Unicode.Direction
import UrlQuery.Unicode.DirectionTable
import UrlQuery.Unicode.Joining
import UrlQuery.Unicode.JoiningTable
import UrlQuery.Unicode.Mark
import UrlQuery.Unicode.MarkTable
import UrlQuery.Unicode.PrintTable
import UrlQuery.Unicode.Run
import UrlQuery.Url.Basic
import UrlQuery.Url.Domain
import UrlQuery.Url.Domain.Direction
import UrlQuery.Url.Domain.Form
import UrlQuery.Url.Domain.FormTable
import UrlQuery.Url.Domain.Label
import UrlQuery.Url.Error
import UrlQuery.Url.Ipv4
import UrlQuery.Url.Ipv6
import UrlQuery.Url.Parser
import UrlQuery.Url.Path
import UrlQuery.Url.Punycode
import UrlQuery.Url.Query
import UrlQuery.Value.Basic
import UrlQuery.Value.Custom
import UrlQuery.Value.Diagnostic
import UrlQuery.Value.Map
import UrlQuery.Value.OfJson
import UrlQuery.Value.Render
