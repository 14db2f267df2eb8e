import DeviceAccess.Asn1.Element
import DeviceAccess.Asn1.Primitive
import DeviceAccess.Certificate.Base64
import DeviceAccess.Certificate.Basic
import DeviceAccess.Certificate.Sha1
import DeviceAccess.Certificate.X509
import DeviceAccess.CommandLine.Arguments
import DeviceAccess.CommandLine.Invocation
import DeviceAccess.CommandLine.Report
import DeviceAccess.CommandLine.Run
import DeviceAccess.Directions
import DeviceAccess.DistinguishedName
import DeviceAccess.Document.Record
import DeviceAccess.Document.Tree
import DeviceAccess.Endpoint
import DeviceAccess.Enrollment
import DeviceAccess.Fault
import DeviceAccess.Files
import DeviceAccess.Helper.Advice
import DeviceAccess.Helper.Callers
import DeviceAccess.Helper.Client
import DeviceAccess.Helper.Frame
import DeviceAccess.Helper.Manifest
import DeviceAccess.Helper.Message
import DeviceAccess.Helper.Program
import DeviceAccess.Helper.Version
import DeviceAccess.HostName.AsciiForm
import DeviceAccess.HostName.Label
import DeviceAccess.HostName.MappingTable
import DeviceAccess.HostName.Punycode
import DeviceAccess.Json.Lenient
import DeviceAccess.Json.Printer
import DeviceAccess.Json.Strict
import DeviceAccess.Json.Token
import DeviceAccess.Json.Value
import DeviceAccess.KeyMap
import DeviceAccess.LogLevel
import DeviceAccess.Main
import DeviceAccess.NameFilter
import DeviceAccess.Pattern
import DeviceAccess.Policy
import DeviceAccess.Probe
import DeviceAccess.Proofs.Certificate.Armour
import DeviceAccess.Proofs.Certificate.Base64
import DeviceAccess.Proofs.Certificate.Name
import DeviceAccess.Proofs.DistinguishedName.Parts
import DeviceAccess.Proofs.DistinguishedName.Reading
import DeviceAccess.Proofs.DistinguishedName.RoundTrip
import DeviceAccess.Proofs.DistinguishedName.Shown
import DeviceAccess.Proofs.Document.Record
import DeviceAccess.Proofs.Document.Tree
import DeviceAccess.Proofs.Endpoint
import DeviceAccess.Proofs.Enrollment.Decision
import DeviceAccess.Proofs.Fault
import DeviceAccess.Proofs.Files
import DeviceAccess.Proofs.Helper.Callers
import DeviceAccess.Proofs.Helper.Consultation
import DeviceAccess.Proofs.Helper.Frame
import DeviceAccess.Proofs.Helper.Manifest
import DeviceAccess.Proofs.Helper.Program
import DeviceAccess.Proofs.Helper.Request
import DeviceAccess.Proofs.Helper.Version
import DeviceAccess.Proofs.HostName.AsciiForm
import DeviceAccess.Proofs.Json.Building
import DeviceAccess.Proofs.Json.Characters
import DeviceAccess.Proofs.Json.Lenient
import DeviceAccess.Proofs.Json.Strict
import DeviceAccess.Proofs.KeyMap
import DeviceAccess.Proofs.NameFilter
import DeviceAccess.Proofs.NameFilter.RoundTrip
import DeviceAccess.Proofs.Pattern.Acceptance
import DeviceAccess.Proofs.Pattern.Grammar
import DeviceAccess.Proofs.Pattern.LetterCase
import DeviceAccess.Proofs.Pattern.Origin
import DeviceAccess.Proofs.Pattern.Path
import DeviceAccess.Proofs.Policy.Entries
import DeviceAccess.Proofs.Routing.History
import DeviceAccess.Proofs.Routing.LetterCase
import DeviceAccess.Proofs.Routing.Registrations
import DeviceAccess.Proofs.Routing.Resolution
import DeviceAccess.Proofs.Routing.Spelling
import DeviceAccess.Proofs.Selector
import DeviceAccess.Proofs.Session
import DeviceAccess.Proofs.Settings.Check
import DeviceAccess.Proofs.Settings.Connection
import DeviceAccess.Proofs.Settings.Consistency
import DeviceAccess.Proofs.Settings.Effective
import DeviceAccess.Proofs.Settings.Precedence
import DeviceAccess.Proofs.Settings.Registry
import DeviceAccess.Proofs.Settings.RoundTrip
import DeviceAccess.Proofs.Settings.Search
import DeviceAccess.Proofs.Settings.Warnings
import DeviceAccess.Proofs.Text.Blank
import DeviceAccess.Proofs.Text.Case
import DeviceAccess.Proofs.Text.CaseMap
import DeviceAccess.Proofs.Text.Cut
import DeviceAccess.Proofs.Text.Digits
import DeviceAccess.Proofs.Text.Utf8
import DeviceAccess.Proofs.Toml.Building
import DeviceAccess.Proofs.Toml.Lines
import DeviceAccess.Proofs.Toml.Quoted
import DeviceAccess.Proofs.Url.Authority
import DeviceAccess.Proofs.Url.BareHost
import DeviceAccess.Proofs.Url.HostCase
import DeviceAccess.Proofs.Url.Ip
import DeviceAccess.Proofs.Url.Reader
import DeviceAccess.Proofs.Url.Substitution
import DeviceAccess.Routing
import DeviceAccess.Script.BuiltIn
import DeviceAccess.Script.Command
import DeviceAccess.Script.Pattern
import DeviceAccess.Script.Program
import DeviceAccess.Script.Reader
import DeviceAccess.Script.Run
import DeviceAccess.Selector
import DeviceAccess.Session
import DeviceAccess.Settings.Basic
import DeviceAccess.Settings.Check
import DeviceAccess.Settings.Connection
import DeviceAccess.Settings.Document
import DeviceAccess.Settings.Effective
import DeviceAccess.Settings.Helper
import DeviceAccess.Settings.Json
import DeviceAccess.Settings.Search
import DeviceAccess.Store
import DeviceAccess.Text.Ascii
import DeviceAccess.Text.Blank
import DeviceAccess.Text.Cut
import DeviceAccess.Text.Decimal
import DeviceAccess.Text.Hex
import DeviceAccess.Text.Magnitude
import DeviceAccess.Text.Utf8
import DeviceAccess.Toml.Printer
import DeviceAccess.Toml.Quoted
import DeviceAccess.Toml.Reader
import DeviceAccess.Toml.Scalar
import DeviceAccess.Toml.Table
import DeviceAccess.Toml.Value
import DeviceAccess.Unicode.Category
import DeviceAccess.Unicode.Combining
import DeviceAccess.Unicode.Composition
import DeviceAccess.Unicode.Direction
import DeviceAccess.Unicode.Joining
import DeviceAccess.Unicode.Ranges
import DeviceAccess.Url.Basic
import DeviceAccess.Url.Fault
import DeviceAccess.Url.Host
import DeviceAccess.Url.Ip
import DeviceAccess.Url.Path
import DeviceAccess.Url.Percent
import DeviceAccess.Url.Reader
import DeviceAccess.Url.Substitution
