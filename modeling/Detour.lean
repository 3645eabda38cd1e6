import Detour.Address.Ipv4
import Detour.Address.Ipv6
import Detour.Address.Socket
import Detour.Base64
import Detour.Bits
import Detour.Domain.Bidi
import Detour.Domain.Joiner
import Detour.Domain.Mapping
import Detour.Domain.Mapping.Table
import Detour.Domain.Name
import Detour.Domain.Punycode
import Detour.Double
import Detour.Event
import Detour.Event.Filter
import Detour.Expression
import Detour.Feed
import Detour.File.Path
import Detour.File.Tree
import Detour.Main
import Detour.Metrics
import Detour.Pattern.Basic
import Detour.Pattern.Bracket
import Detour.Pattern.CharSet
import Detour.Pattern.Escape
import Detour.Pattern.Flags
import Detour.Pattern.Property
import Detour.Pattern.Read
import Detour.Payload
import Detour.Refresher
import Detour.RootDomain
import Detour.Rule
import Detour.Rule.Line
import Detour.RuleSet
import Detour.Schedule
import Detour.Service
import Detour.Session
import Detour.Settings
import Detour.Settings.Read
import Detour.Source
import Detour.Store
import Detour.Target
import Detour.Text.Blank
import Detour.Text.Line
import Detour.Text.Numeral
import Detour.Text.Quoted
import Detour.Text.Search
import Detour.Text.Split
import Detour.Text.Utf8
import Detour.Toml.Document
import Detour.Toml.Quote
import Detour.Toml.Read
import Detour.Toml.Record
import Detour.Toml.Scalar
import Detour.Toml.Value
import Detour.Unicode.BidiClass
import Detour.Unicode.CombiningClass
import Detour.Unicode.Composition
import Detour.Unicode.JoiningType
import Detour.Unicode.Letter
import Detour.Unicode.Mark
import Detour.Unicode.NormalForm
import Detour.Unicode.Printable
import Detour.Unicode.Table
import Detour.Url.Basic
import Detour.Url.Host
import Detour.Url.Path
import Detour.Url.Percent
import Detour.Url.Read
import Detour.Proofs.Feed
import Detour.Proofs.Reading
import Detour.Proofs.HostRule
import Detour.Proofs.Store.History
import Detour.Proofs.Refresher.Run
import Detour.Proofs.Reading.Reach
import Detour.Proofs.Text.Ascii
import Detour.Proofs.Text.Line
import Detour.Proofs.Text.Split
import Detour.Proofs.Text.Numeral
import Detour.Proofs.Text.Utf8
import Detour.Proofs.Url.Percent
import Detour.Proofs.Url.Path
import Detour.Proofs.Base64
import Detour.Proofs.Payload
import Detour.Proofs.Address.Ipv4
import Detour.Proofs.Address.Ipv6
import Detour.Proofs.Unicode.NormalForm
import Detour.Proofs.Domain.Punycode
import Detour.Proofs.Domain.Punycode.RoundTrip
import Detour.Proofs.Domain.Name
import Detour.Proofs.Url.Host
import Detour.Proofs.Url.Normal
import Detour.Proofs.Url.Read
import Detour.Proofs.Target
import Detour.Proofs.Feed.Tally
import Detour.Proofs.Refresher.Offline
import Detour.Proofs.Text.Blank
import Detour.Proofs.Feed.Joined
import Detour.Proofs.Refresher.ExtraRules
import Detour.Proofs.Toml.Grammar
import Detour.Proofs.Toml.Quote
import Detour.Proofs.Toml.Scalar
import Detour.Proofs.Toml.Document
import Detour.Proofs.Toml.Layout
import Detour.Proofs.Toml.Read
import Detour.Proofs.Toml.Behind
import Detour.Proofs.Toml.Taken
import Detour.Proofs.Toml.Rows
import Detour.Proofs.Toml.Added
import Detour.Proofs.Toml.Insert
import Detour.Proofs.Address.Socket
import Detour.Proofs.Settings.Written
import Detour.Proofs.Toml.Record
import Detour.Proofs.Settings.Read
import Detour.Proofs.Settings.Strict
import Detour.Proofs.Target.Scheme
import Detour.Proofs.Reading.Stray
import Detour.Proofs.Refresher.Account
import Detour.Proofs.Session.Answers
import Detour.Proofs.RootDomain.Labels
import Detour.Proofs.Reading.Appended
import Detour.Proofs.Feed.Parts
import Detour.Proofs.Feed.Layout
import Detour.Proofs.Rule.Spelling
import Detour.Proofs.RuleSet
import Detour.Proofs.RuleSet.Deciding
import Detour.Proofs.Reading.Shadowed
import Detour.Proofs.Reading.Turned
import Detour.Proofs.Feed.Order
import Detour.Proofs.Pattern.Literal
import Detour.Proofs.Rule.Literal
import Detour.Proofs.Reading.FromTarget
import Detour.Proofs.Text.Case
import Detour.Proofs.Url.Case
import Detour.Proofs.Target.Case
import Detour.Proofs.Target.Breaks
import Detour.Proofs.Text.Utf8.Fault
import Detour.Proofs.Payload.Fault
import Detour.Proofs.Reading.Spelling
import Detour.Proofs.File.Place
import Detour.Proofs.Source.CachedCopy
