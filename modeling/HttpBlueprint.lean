import HttpBlueprint.Text.Percent
import HttpBlueprint.Decimal.Binary64
import HttpBlueprint.Decimal.Shortest
import HttpBlueprint.Decimal.Layout
import HttpBlueprint.Decimal.Read
import HttpBlueprint.Value.Basic
import HttpBlueprint.Value.Display
import HttpBlueprint.Text.JsonString
import HttpBlueprint.Value.Json
import HttpBlueprint.Value.Document
import HttpBlueprint.Url.Error
import HttpBlueprint.Error
import HttpBlueprint.Http.Method
import HttpBlueprint.Multimap
import HttpBlueprint.Variables
import HttpBlueprint.Text.Blank
import HttpBlueprint.Text.Split
import HttpBlueprint.Template.Basic
import HttpBlueprint.Template.Placeholder
import HttpBlueprint.Template.Resolve
import HttpBlueprint.Text.CaseMap
import HttpBlueprint.Url.Punycode
import HttpBlueprint.Url.Host
import HttpBlueprint.Url.Basic
import HttpBlueprint.Url.Parse
import HttpBlueprint.Http.Request
import HttpBlueprint.Body.Form
import HttpBlueprint.Body.Encoder
import HttpBlueprint.Call.Expander
import HttpBlueprint.Call.Metadata
import HttpBlueprint.Call.Arguments
import HttpBlueprint.Call.QueryMap
import HttpBlueprint.Call.Factory
import HttpBlueprint.Derive.Attribute
import HttpBlueprint.Derive.Rename
import HttpBlueprint.Derive.Aggregate
import HttpBlueprint.Proofs.Basic
import HttpBlueprint.Proofs.Arguments
import HttpBlueprint.Proofs.Placeholder
import HttpBlueprint.Proofs.Resolve
import HttpBlueprint.Proofs.Factory
import HttpBlueprint.Proofs.Injection
import HttpBlueprint.Proofs.Multimap
import HttpBlueprint.Proofs.Merge
import HttpBlueprint.Proofs.RequestLine
import HttpBlueprint.Proofs.Keys
import HttpBlueprint.Proofs.Binding
import HttpBlueprint.Proofs.Missing
import HttpBlueprint.Proofs.Transport
import HttpBlueprint.Proofs.Escaping
import HttpBlueprint.Proofs.Expansion
import HttpBlueprint.Proofs.JsonRoundTrip
import HttpBlueprint.Proofs.DeriveOptions
import HttpBlueprint.Proofs.Derive
import HttpBlueprint.Proofs.Rendering
import HttpBlueprint.Proofs.CamelCase
