import MetricProbe.Attempt
import MetricProbe.CloudWatch.Address
import MetricProbe.CloudWatch.Client
import MetricProbe.CloudWatch.Form
import MetricProbe.CloudWatch.Query
import MetricProbe.CloudWatch.Reply
import MetricProbe.CloudWatch.Shape
import MetricProbe.Config.Basic
import MetricProbe.Config.Document
import MetricProbe.Config.Load
import MetricProbe.Config.SecretVariables
import MetricProbe.Config.Secrets
import MetricProbe.Config.Shape
import MetricProbe.Config.Validity
import MetricProbe.Datadog.Client
import MetricProbe.Datadog.Response
import MetricProbe.Decimal.Binary64
import MetricProbe.Decimal.Layout
import MetricProbe.Decimal.Literal
import MetricProbe.Decimal.Power
import MetricProbe.Decimal.Shortest
import MetricProbe.Failure
import MetricProbe.Http.Base64
import MetricProbe.Http.Exchange
import MetricProbe.Http.Wire
import MetricProbe.Interval
import MetricProbe.Json.Complaint
import MetricProbe.Json.Document
import MetricProbe.Json.Number
import MetricProbe.Json.Reader
import MetricProbe.Json.Record
import MetricProbe.Json.Skip
import MetricProbe.Json.Text
import MetricProbe.Json.Tree
import MetricProbe.Log.Event
import MetricProbe.Log.Filter
import MetricProbe.Log.Line
import MetricProbe.Main
import MetricProbe.Probe.Basic
import MetricProbe.Probe.Pass
import MetricProbe.Probe.Source
import MetricProbe.Prometheus.Client
import MetricProbe.Prometheus.Query
import MetricProbe.Prometheus.Response
import MetricProbe.Proofs.Association
import MetricProbe.Proofs.CloudWatch.Decoding
import MetricProbe.Proofs.CloudWatch.Endpoint
import MetricProbe.Proofs.CloudWatch.Entries
import MetricProbe.Proofs.CloudWatch.FormReading
import MetricProbe.Proofs.CloudWatch.Outcomes
import MetricProbe.Proofs.CloudWatch.Region
import MetricProbe.Proofs.CloudWatch.Requests
import MetricProbe.Proofs.CloudWatch.Respelling
import MetricProbe.Proofs.Config.Validity
import MetricProbe.Proofs.Datadog.Keys
import MetricProbe.Proofs.Datadog.Response
import MetricProbe.Proofs.Datadog.Window
import MetricProbe.Proofs.Decimal.Literal
import MetricProbe.Proofs.Decimal.Range
import MetricProbe.Proofs.Http.Base64
import MetricProbe.Proofs.Http.Clients
import MetricProbe.Proofs.Http.Destination
import MetricProbe.Proofs.Http.Exchange
import MetricProbe.Proofs.Http.Head
import MetricProbe.Proofs.Http.Outcomes
import MetricProbe.Proofs.Http.Parameters
import MetricProbe.Proofs.Interval.Bounds
import MetricProbe.Proofs.Interval.Component
import MetricProbe.Proofs.Interval.Fractions
import MetricProbe.Proofs.Interval.Grammar
import MetricProbe.Proofs.Interval.Reading
import MetricProbe.Proofs.Json.Grammar
import MetricProbe.Proofs.Json.Numbers
import MetricProbe.Proofs.Json.Punctuation
import MetricProbe.Proofs.Json.Range
import MetricProbe.Proofs.Json.Records
import MetricProbe.Proofs.Json.Skipping
import MetricProbe.Proofs.Json.Slots
import MetricProbe.Proofs.Json.Texts
import MetricProbe.Proofs.Json.Trees
import MetricProbe.Proofs.Json.Values
import MetricProbe.Proofs.Probe.Accounts
import MetricProbe.Proofs.Probe.Calls
import MetricProbe.Proofs.Probe.Reports
import MetricProbe.Proofs.Probe.Steps
import MetricProbe.Proofs.Prometheus.Login
import MetricProbe.Proofs.Prometheus.Query
import MetricProbe.Proofs.Prometheus.Response
import MetricProbe.Proofs.Provider.Answers
import MetricProbe.Proofs.Provider.Construction
import MetricProbe.Proofs.Provider.Shapes
import MetricProbe.Proofs.Session.Configured
import MetricProbe.Proofs.Session.RunOnce
import MetricProbe.Proofs.Session.Start
import MetricProbe.Proofs.Telemetry.Instrumented
import MetricProbe.Proofs.Text.Bytes
import MetricProbe.Proofs.Text.Ends
import MetricProbe.Proofs.Text.Runs
import MetricProbe.Proofs.Text.Split
import MetricProbe.Proofs.Text.Utf8
import MetricProbe.Proofs.Url.Address
import MetricProbe.Proofs.Url.Characters
import MetricProbe.Proofs.Url.Form
import MetricProbe.Proofs.Url.Host
import MetricProbe.Provider.Document
import MetricProbe.Provider.Factory
import MetricProbe.Provider.Settings
import MetricProbe.Session.Environment
import MetricProbe.Session.Output
import MetricProbe.Session.Passes
import MetricProbe.Session.Start
import MetricProbe.Telemetry.Exposition
import MetricProbe.Telemetry.Registry
import MetricProbe.Text.Blank
import MetricProbe.Text.Hex
import MetricProbe.Text.Printable
import MetricProbe.Text.Quoted
import MetricProbe.Text.Split
import MetricProbe.Text.Utf8
import MetricProbe.Toml.Assembly
import MetricProbe.Toml.Document
import MetricProbe.Toml.Moment
import MetricProbe.Toml.Quotation
import MetricProbe.Toml.Scalar
import MetricProbe.Toml.Value
import MetricProbe.Url.Basic
import MetricProbe.Url.Form
import MetricProbe.Url.Host
import MetricProbe.Url.Percent
import MetricProbe.Url.Punycode
import MetricProbe.Xml.Basic
