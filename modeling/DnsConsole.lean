import DnsConsole.Api.Auth
import DnsConsole.Api.Call
import DnsConsole.Discovery.Lookup
import DnsConsole.Domain.Ascii
import DnsConsole.Domain.Punycode
import DnsConsole.Environment
import DnsConsole.Http.Coding
import DnsConsole.Http.ContentType
import DnsConsole.Http.Date
import DnsConsole.Http.Message
import DnsConsole.Http.Range
import DnsConsole.Http.Router
import DnsConsole.Json.Fault
import DnsConsole.Json.Number
import DnsConsole.Json.Record
import DnsConsole.Json.Skip
import DnsConsole.Json.Text
import DnsConsole.Login.Form
import DnsConsole.Main
import DnsConsole.Number.Binary64
import DnsConsole.Number.Shortest
import DnsConsole.Page.Markup
import DnsConsole.Page.Screen
import DnsConsole.Proofs.Api.Disclosure
import DnsConsole.Proofs.Api.Replies
import DnsConsole.Proofs.Discovery.Advertised
import DnsConsole.Proofs.Discovery.Lookup
import DnsConsole.Proofs.Discovery.Proposal
import DnsConsole.Proofs.Domain.Ascii
import DnsConsole.Proofs.Domain.Refused
import DnsConsole.Proofs.Environment
import DnsConsole.Proofs.Http.Responses
import DnsConsole.Proofs.Http.Target
import DnsConsole.Proofs.Json.Digits
import DnsConsole.Proofs.Json.Fields
import DnsConsole.Proofs.Json.Grammar
import DnsConsole.Proofs.Json.Passing
import DnsConsole.Proofs.Json.Records
import DnsConsole.Proofs.Json.Strings
import DnsConsole.Proofs.Json.Unreadable
import DnsConsole.Proofs.Json.Values
import DnsConsole.Proofs.Login.Ambiguity
import DnsConsole.Proofs.Login.Form
import DnsConsole.Proofs.Login.Padding
import DnsConsole.Proofs.Server.Config
import DnsConsole.Proofs.Server.Loading
import DnsConsole.Proofs.Server.Ports
import DnsConsole.Proofs.Session.Checks
import DnsConsole.Proofs.Session.Custody
import DnsConsole.Proofs.Session.Effect
import DnsConsole.Proofs.Session.Entries
import DnsConsole.Proofs.Session.History
import DnsConsole.Proofs.Session.Interleaving
import DnsConsole.Proofs.Session.Liveness
import DnsConsole.Proofs.Session.Secrecy
import DnsConsole.Proofs.Session.Slashes
import DnsConsole.Proofs.Site.Containment
import DnsConsole.Proofs.Site.CrossOrigin
import DnsConsole.Proofs.Site.Methods
import DnsConsole.Proofs.Site.Redirect
import DnsConsole.Proofs.Site.Rendering
import DnsConsole.Proofs.Site.Routes
import DnsConsole.Proofs.Text.Base64
import DnsConsole.Proofs.Text.Blank
import DnsConsole.Proofs.Text.Numerals
import DnsConsole.Proofs.Text.Percent
import DnsConsole.Proofs.Text.Pieces
import DnsConsole.Proofs.Text.Utf8
import DnsConsole.Proofs.Unicode.Normalization
import DnsConsole.Proofs.Url.Address
import DnsConsole.Proofs.Url.Host
import DnsConsole.Proofs.Url.Ipv4
import DnsConsole.Proofs.Url.Ipv6
import DnsConsole.Proofs.Url.Origin
import DnsConsole.Server.Options
import DnsConsole.Server.Startup
import DnsConsole.Session.Basic
import DnsConsole.Session.Step
import DnsConsole.Session.Storage
import DnsConsole.Site.Document
import DnsConsole.Site.Files
import DnsConsole.Site.Routes
import DnsConsole.Site.Tree
import DnsConsole.Text.Base64
import DnsConsole.Text.Bytes
import DnsConsole.Text.Numerals
import DnsConsole.Text.Pieces
import DnsConsole.Text.Quoted
import DnsConsole.Trace
import DnsConsole.Unicode.Alphanumeric
import DnsConsole.Unicode.BidiClass
import DnsConsole.Unicode.CombiningClass
import DnsConsole.Unicode.Composition
import DnsConsole.Unicode.Decomposition
import DnsConsole.Unicode.JoiningType
import DnsConsole.Unicode.NameMapping
import DnsConsole.Unicode.Normalization
import DnsConsole.Unicode.RangeMap
import DnsConsole.Unicode.Unprintable
import DnsConsole.Url.Basic
import DnsConsole.Url.Host
import DnsConsole.Url.Ipv4
import DnsConsole.Url.Ipv6
import DnsConsole.Url.Reference
