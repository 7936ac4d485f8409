import DashboardTools.Api.Request
import DashboardTools.Calendar
import DashboardTools.Command.Auth
import DashboardTools.Command.Line
import DashboardTools.Command.Run
import DashboardTools.Configuration.Basic
import DashboardTools.Configuration.EnvFile
import DashboardTools.Credential
import DashboardTools.Credential.Store
import DashboardTools.Decimal.Base
import DashboardTools.Decimal.Integer
import DashboardTools.Decimal.Layout
import DashboardTools.Decimal.Numeral
import DashboardTools.Decimal.Shortest
import DashboardTools.Disk.Basic
import DashboardTools.Disk.Edit
import DashboardTools.Disk.Operation
import DashboardTools.Disk.Path
import DashboardTools.Docs.Category
import DashboardTools.Docs.Client
import DashboardTools.Docs.Search
import DashboardTools.Docs.Section
import DashboardTools.Docs.Slug
import DashboardTools.Docs.Value
import DashboardTools.Error
import DashboardTools.Http.Request
import DashboardTools.Json.Printer
import DashboardTools.Json.Raw
import DashboardTools.Json.Record
import DashboardTools.Json.Value
import DashboardTools.Main
import DashboardTools.Program
import DashboardTools.Proofs.Command.Login
import DashboardTools.Proofs.Command.Overflow
import DashboardTools.Proofs.Command.Pacing
import DashboardTools.Proofs.Credential.Alike
import DashboardTools.Proofs.Credential.Atomicity
import DashboardTools.Proofs.Credential.Beside
import DashboardTools.Proofs.Credential.Cell
import DashboardTools.Proofs.Credential.Preparing
import DashboardTools.Proofs.Credential.Reading
import DashboardTools.Proofs.Credential.SaveOutcome
import DashboardTools.Proofs.Credential.SaveRun
import DashboardTools.Proofs.Credential.Saving
import DashboardTools.Proofs.Credential.Stages
import DashboardTools.Proofs.Credential.Text
import DashboardTools.Proofs.Decimal.Digits
import DashboardTools.Proofs.Disk.Alike
import DashboardTools.Proofs.Disk.Changes
import DashboardTools.Proofs.Disk.Following
import DashboardTools.Proofs.Disk.Locations
import DashboardTools.Proofs.Disk.Parents
import DashboardTools.Proofs.Disk.Systems
import DashboardTools.Proofs.Docs.Arrangement
import DashboardTools.Proofs.Docs.Excerpts
import DashboardTools.Proofs.Docs.Freshness
import DashboardTools.Proofs.Docs.Headers
import DashboardTools.Proofs.Docs.HiddenWords
import DashboardTools.Proofs.Docs.Lookup
import DashboardTools.Proofs.Docs.Ranking
import DashboardTools.Proofs.Docs.Sections
import DashboardTools.Proofs.Docs.ShownWords
import DashboardTools.Proofs.Docs.Slugs
import DashboardTools.Proofs.Http.Building
import DashboardTools.Proofs.Http.Queries
import DashboardTools.Proofs.Json.Beginnings
import DashboardTools.Proofs.Json.Grammar
import DashboardTools.Proofs.Json.Meaning
import DashboardTools.Proofs.Json.Numerals
import DashboardTools.Proofs.Json.Objects
import DashboardTools.Proofs.Json.Reading
import DashboardTools.Proofs.Json.Records
import DashboardTools.Proofs.Json.RoundTrip
import DashboardTools.Proofs.Json.Strings
import DashboardTools.Proofs.Program.Coupling
import DashboardTools.Proofs.Program.Effects
import DashboardTools.Proofs.Program.Marks
import DashboardTools.Proofs.Program.Points
import DashboardTools.Proofs.Program.Running
import DashboardTools.Proofs.Program.Sharing
import DashboardTools.Proofs.Service.Authorizing
import DashboardTools.Proofs.Service.Bodies
import DashboardTools.Proofs.Service.Calling
import DashboardTools.Proofs.Service.Polling
import DashboardTools.Proofs.Service.Renewal
import DashboardTools.Proofs.Service.Replies
import DashboardTools.Proofs.Service.Secrecy
import DashboardTools.Proofs.Service.Sharing
import DashboardTools.Proofs.Service.Torn
import DashboardTools.Proofs.Session.Abreast
import DashboardTools.Proofs.Session.Chronicle
import DashboardTools.Proofs.Session.Custody
import DashboardTools.Proofs.Session.Runs
import DashboardTools.Proofs.Session.Secrecy
import DashboardTools.Proofs.Session.Tokens
import DashboardTools.Proofs.Text.Beginnings
import DashboardTools.Proofs.Text.Casing
import DashboardTools.Proofs.Text.Fields
import DashboardTools.Proofs.Text.LetterByLetter
import DashboardTools.Proofs.Text.Lines
import DashboardTools.Proofs.Text.Lowercase
import DashboardTools.Proofs.Text.Occurrence
import DashboardTools.Proofs.Text.Packed
import DashboardTools.Proofs.Text.Runs
import DashboardTools.Proofs.Text.Trimming
import DashboardTools.Proofs.Text.Words
import DashboardTools.Proofs.Tool.Analytics
import DashboardTools.Proofs.Tool.Arguments
import DashboardTools.Proofs.Tool.Calls
import DashboardTools.Proofs.Tool.Endpoints
import DashboardTools.Proofs.Tool.Identifiers
import DashboardTools.Proofs.Tool.Passing
import DashboardTools.Proofs.Tool.Projection
import DashboardTools.Proofs.Tool.Results
import DashboardTools.Proofs.Url.Extending
import DashboardTools.Proofs.Url.Forms
import DashboardTools.Proofs.Url.Ordering
import DashboardTools.Service.Basic
import DashboardTools.Service.Call
import DashboardTools.Service.Device
import DashboardTools.Service.Refresh
import DashboardTools.Session
import DashboardTools.Text.Base64
import DashboardTools.Text.Blank
import DashboardTools.Text.CaseTable
import DashboardTools.Text.Lines
import DashboardTools.Text.Lowercase
import DashboardTools.Text.MarkTable
import DashboardTools.Text.Normal
import DashboardTools.Text.NormalTable
import DashboardTools.Text.Occurrence
import DashboardTools.Text.PrintableTable
import DashboardTools.Text.Quoted
import DashboardTools.Text.Ranges
import DashboardTools.Text.Utf8
import DashboardTools.Text.WordTable
import DashboardTools.Tool.Catalogue
import DashboardTools.Tool.Endpoint
import DashboardTools.Tool.Parameter
import DashboardTools.Tool.Result
import DashboardTools.Tool.Server
import DashboardTools.Url.Authority
import DashboardTools.Url.Basic
import DashboardTools.Url.Direction
import DashboardTools.Url.DirectionTable
import DashboardTools.Url.Form
import DashboardTools.Url.Host
import DashboardTools.Url.Joining
import DashboardTools.Url.JoiningTable
import DashboardTools.Url.Name
import DashboardTools.Url.NameTable
import DashboardTools.Url.Parse
import DashboardTools.Url.Path
import DashboardTools.Url.Percent
import DashboardTools.Url.Punycode
import DashboardTools.World
