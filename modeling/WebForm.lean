import WebForm.Catalog
import WebForm.CommandLine
import WebForm.CommandLine.Command
import WebForm.Csv
import WebForm.Definition
import WebForm.DomainName
import WebForm.DomainName.Label
import WebForm.DomainName.Normal
import WebForm.DomainName.Punycode
import WebForm.Email
import WebForm.Export.CsvFile
import WebForm.Export.Record
import WebForm.Export.Insert
import WebForm.Field
import WebForm.Field.Json
import WebForm.Files
import WebForm.Form
import WebForm.Html
import WebForm.Json
import WebForm.Json.Document
import WebForm.Json.Number
import WebForm.Json.Quoted
import WebForm.Json.Token
import WebForm.Main
import WebForm.Numeral
import WebForm.Numeral.Binary64
import WebForm.Numeral.Shortest
import WebForm.OrderedMap
import WebForm.Registry
import WebForm.Rule
import WebForm.Rule.Builtin
import WebForm.Submission
import WebForm.Text.Character
import WebForm.Text.Quoted
import WebForm.Text.Replace
import WebForm.Text.Split
import WebForm.Text.Utf8
import WebForm.Toml.Document
import WebForm.Toml.Literal
import WebForm.Toml.Scalar
import WebForm.Toml.Value
import WebForm.Toml.Table
import WebForm.Unicode.Alphanumeric
import WebForm.Unicode.Bidi
import WebForm.Unicode.Composition
import WebForm.Unicode.Joining
import WebForm.Unicode.NameMapping
import WebForm.Unicode.RangeTable
import WebForm.Validation
import WebForm.Proofs.Rule.RoundTrip
import WebForm.Proofs.Validation.Meaning
import WebForm.Proofs.Html.ReadBack
import WebForm.Proofs.Csv.ReadBack
import WebForm.Proofs.Files
import WebForm.Proofs.Export.Append
import WebForm.Proofs.Export.Run
import WebForm.Proofs.Export.Placement
import WebForm.Proofs.Submission.Urlencoded
import WebForm.Proofs.Validation.Composition
import WebForm.Proofs.Validation.Fault
import WebForm.Proofs.CommandLine.Export
import WebForm.Proofs.CommandLine.Secrecy
import WebForm.Proofs.Export.Statement
import WebForm.Proofs.Validation.Calls
import WebForm.Proofs.Html.NativeConstraint
import WebForm.Proofs.Json.ReadBack
import WebForm.Proofs.Numeral.Order
import WebForm.Proofs.Catalog
import WebForm.Proofs.Rule.Limits
import WebForm.Proofs.Submission.Json
import WebForm.Proofs.Submission.Refusal
import WebForm.Proofs.Validation.Messages
import WebForm.Proofs.Rule.Options
import WebForm.Proofs.Html.InputAttributes
import WebForm.Proofs.Registry.Registrations
import WebForm.Proofs.Form
import WebForm.Proofs.DomainName.AsciiForm
import WebForm.Proofs.Email
