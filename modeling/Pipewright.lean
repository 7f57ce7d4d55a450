import Pipewright.Block.Basic
import Pipewright.Block.Read
import Pipewright.Block.Write
import Pipewright.Command.Arguments
import Pipewright.Command.Attend
import Pipewright.Command.Basic
import Pipewright.Command.Deploy
import Pipewright.Command.Run
import Pipewright.Command.Settle
import Pipewright.Command.Source
import Pipewright.Command.Style
import Pipewright.Command.Work
import Pipewright.Credentials
import Pipewright.Decimal.Binary64
import Pipewright.Decimal.Shortest
import Pipewright.Deployment.Act
import Pipewright.Deployment.CancelToken
import Pipewright.Deployment.Fault
import Pipewright.Deployment.Session
import Pipewright.Deployment.Settings
import Pipewright.Deployment.Simulation
import Pipewright.Dialogue
import Pipewright.Http.Base64
import Pipewright.Http.Charset
import Pipewright.Http.Charset.Chinese
import Pipewright.Http.Charset.Front
import Pipewright.Http.Charset.Hangul
import Pipewright.Http.Charset.Hanzi
import Pipewright.Http.Charset.HanziTraditional
import Pipewright.Http.Charset.Index
import Pipewright.Http.Charset.Japanese
import Pipewright.Http.Charset.Kanji
import Pipewright.Http.Charset.KanjiSupplement
import Pipewright.Http.Charset.Korean
import Pipewright.Http.Charset.SingleByte
import Pipewright.Http.Exchange
import Pipewright.Http.Host
import Pipewright.Http.HostName
import Pipewright.Http.HostName.Label
import Pipewright.Http.HostName.Meaning
import Pipewright.Http.Percent
import Pipewright.Http.Punycode
import Pipewright.Http.Url
import Pipewright.Http.Url.Path
import Pipewright.Http.Url.Place
import Pipewright.Http.Url.Read
import Pipewright.Json.Basic
import Pipewright.Json.Fault
import Pipewright.Json.Numeral
import Pipewright.Json.Outline
import Pipewright.Json.Record
import Pipewright.Json.Strict
import Pipewright.Json.Value
import Pipewright.Json.Write
import Pipewright.Lint.Basic
import Pipewright.Lint.Cycle
import Pipewright.Main
import Pipewright.Proofs.Alike
import Pipewright.Proofs.Block.Added
import Pipewright.Proofs.Block.Insertion
import Pipewright.Proofs.Block.Reading
import Pipewright.Proofs.Block.RoundTrip
import Pipewright.Proofs.Block.Trimmed
import Pipewright.Proofs.Command.Bursts
import Pipewright.Proofs.Command.Deployment
import Pipewright.Proofs.Command.Likeness
import Pipewright.Proofs.Command.Override
import Pipewright.Proofs.Command.Preparation
import Pipewright.Proofs.Command.Printing
import Pipewright.Proofs.Command.Streams
import Pipewright.Proofs.Command.Watch
import Pipewright.Proofs.Credentials.Slug
import Pipewright.Proofs.Credentials.Token
import Pipewright.Proofs.Deployment.Attended
import Pipewright.Proofs.Deployment.CallOrder
import Pipewright.Proofs.Deployment.Calls
import Pipewright.Proofs.Deployment.Cancellation
import Pipewright.Proofs.Deployment.Closing
import Pipewright.Proofs.Deployment.Collection
import Pipewright.Proofs.Deployment.Course
import Pipewright.Proofs.Deployment.ErrorEntry
import Pipewright.Proofs.Deployment.Exclusion
import Pipewright.Proofs.Deployment.FaultLine
import Pipewright.Proofs.Deployment.History
import Pipewright.Proofs.Deployment.Likeness
import Pipewright.Proofs.Deployment.LineEnds
import Pipewright.Proofs.Deployment.Listings
import Pipewright.Proofs.Deployment.Opening
import Pipewright.Proofs.Deployment.Outcome
import Pipewright.Proofs.Deployment.Polling
import Pipewright.Proofs.Deployment.Procedure
import Pipewright.Proofs.Deployment.Publication
import Pipewright.Proofs.Deployment.Responses
import Pipewright.Proofs.Deployment.RunIdentity
import Pipewright.Proofs.Deployment.Secrecy
import Pipewright.Proofs.Deployment.SharedSignal
import Pipewright.Proofs.Deployment.Stages
import Pipewright.Proofs.Deployment.Truncation
import Pipewright.Proofs.Deployment.Underway
import Pipewright.Proofs.Deployment.Wordings
import Pipewright.Proofs.Dialogue
import Pipewright.Proofs.Http.Address
import Pipewright.Proofs.Http.Base64
import Pipewright.Proofs.Http.Path
import Pipewright.Proofs.Http.Percent
import Pipewright.Proofs.Json.Grammar
import Pipewright.Proofs.Json.Parts
import Pipewright.Proofs.Json.Reading
import Pipewright.Proofs.Json.Record
import Pipewright.Proofs.Json.Recovery
import Pipewright.Proofs.Json.Settled
import Pipewright.Proofs.Json.Spelling
import Pipewright.Proofs.Json.Writing
import Pipewright.Proofs.Lint.Cycle
import Pipewright.Proofs.Lint.Issues
import Pipewright.Proofs.Lint.Search
import Pipewright.Proofs.Lint.WellFormed
import Pipewright.Proofs.Rehearsal.Alone
import Pipewright.Proofs.Rehearsal.Interleaving
import Pipewright.Proofs.Rehearsal.Listeners
import Pipewright.Proofs.Rehearsal.Simulation
import Pipewright.Proofs.Remote.Bodies
import Pipewright.Proofs.Remote.Branch
import Pipewright.Proofs.Remote.Names
import Pipewright.Proofs.Remote.Record
import Pipewright.Proofs.Remote.Request
import Pipewright.Proofs.Remote.Response
import Pipewright.Proofs.Remote.RoundTrip
import Pipewright.Proofs.Remote.Scope
import Pipewright.Proofs.Report.Log
import Pipewright.Proofs.Report.RoundTrip
import Pipewright.Proofs.Report.SessionId
import Pipewright.Proofs.Report.Timestamp
import Pipewright.Proofs.Repository.Service
import Pipewright.Proofs.Repository.Sessions
import Pipewright.Proofs.Repository.Store
import Pipewright.Proofs.Workflow.Document
import Pipewright.Proofs.Workflow.Firing
import Pipewright.Proofs.Workflow.Groups
import Pipewright.Proofs.Workflow.Keys
import Pipewright.Proofs.Workflow.Layout
import Pipewright.Proofs.Workflow.Lines
import Pipewright.Proofs.Workflow.Literal
import Pipewright.Proofs.Workflow.Names
import Pipewright.Proofs.Workflow.NormalForm
import Pipewright.Proofs.Workflow.Printable
import Pipewright.Proofs.Workflow.Reading
import Pipewright.Proofs.Workflow.Scalar
import Pipewright.Proofs.Workflow.Written
import Pipewright.Proofs.Yaml.Block
import Pipewright.Proofs.Yaml.Scalar
import Pipewright.Rehearsal.Clock
import Pipewright.Rehearsal.Desk
import Pipewright.Rehearsal.Folder
import Pipewright.Rehearsal.Script
import Pipewright.Rehearsal.Server
import Pipewright.Remote.Call
import Pipewright.Remote.Client
import Pipewright.Remote.Record
import Pipewright.Report.Basic
import Pipewright.Report.Log
import Pipewright.Report.SessionId
import Pipewright.Report.Timestamp
import Pipewright.Text.Blank
import Pipewright.Text.CharTable
import Pipewright.Text.Composed
import Pipewright.Text.Debug
import Pipewright.Text.Digits
import Pipewright.Text.Direction
import Pipewright.Text.Joining
import Pipewright.Text.Letter
import Pipewright.Text.Mark
import Pipewright.Text.Split
import Pipewright.Text.Unprintable
import Pipewright.Workflow.Basic
import Pipewright.Workflow.Document
import Pipewright.Workflow.Scalar
