import Parley.Answer.Contact
import Parley.Answer.Document
import Parley.Answer.Format
import Parley.Calendar.ClockTime
import Parley.Calendar.Date
import Parley.Calendar.Hours
import Parley.Calendar.Moment
import Parley.Calendar.Opening
import Parley.Calendar.Reader
import Parley.Calendar.Tables
import Parley.Condition.Evaluate
import Parley.Condition.Operator
import Parley.Condition.Rule
import Parley.Conversation.Basic
import Parley.Conversation.Reader
import Parley.Conversation.Row
import Parley.Conversation.Writer
import Parley.Desk.Interface
import Parley.Desk.Operations
import Parley.Desk.Turns
import Parley.Dictionary
import Parley.Failure
import Parley.Flow.Basic
import Parley.Flow.Check
import Parley.Flow.Node
import Parley.Flow.Problem
import Parley.Flow.Reader
import Parley.Flow.Report
import Parley.Flow.Row
import Parley.Http.Address
import Parley.Http.Exchange
import Parley.Http.HostName
import Parley.Http.Status
import Parley.Json.Listing
import Parley.Json.Reader
import Parley.Json.Value
import Parley.Json.Writer
import Parley.Lock.Basic
import Parley.Media.Reference
import Parley.Number.Binary64
import Parley.Number.Leading
import Parley.Number.Shortest
import Parley.Number.Whole
import Parley.Pattern.Basic
import Parley.Pattern.Letters
import Parley.Pattern.Match
import Parley.Pattern.Reader
import Parley.Pattern.Width
import Parley.Program
import Parley.Proofs.Answer.CheckDigits
import Parley.Proofs.Answer.Cleaned
import Parley.Proofs.Answer.Scripts
import Parley.Proofs.Calendar.Clock
import Parley.Proofs.Calendar.Counted
import Parley.Proofs.Calendar.NextOpening
import Parley.Proofs.Calendar.Openings
import Parley.Proofs.Calendar.Timetable
import Parley.Proofs.Calendar.Window
import Parley.Proofs.Calendar.Written
import Parley.Proofs.Condition.Caseless
import Parley.Proofs.Condition.Unanswered
import Parley.Proofs.Conversation.Row
import Parley.Proofs.Desk.Attended
import Parley.Proofs.Desk.Calls
import Parley.Proofs.Desk.Chronicle
import Parley.Proofs.Desk.Conduct
import Parley.Proofs.Desk.Confinement
import Parley.Proofs.Desk.Custody
import Parley.Proofs.Desk.Failures
import Parley.Proofs.Desk.Keywords
import Parley.Proofs.Desk.Message
import Parley.Proofs.Desk.Questions
import Parley.Proofs.Desk.Reports
import Parley.Proofs.Desk.Restraint
import Parley.Proofs.Desk.Rules
import Parley.Proofs.Desk.Sessions
import Parley.Proofs.Desk.Tabled
import Parley.Proofs.Dictionary
import Parley.Proofs.Floor.Basic
import Parley.Proofs.Floor.Custody
import Parley.Proofs.Floor.Doings
import Parley.Proofs.Floor.Failing
import Parley.Proofs.Floor.Moves
import Parley.Proofs.Floor.Opening
import Parley.Proofs.Floor.Records
import Parley.Proofs.Floor.Reports
import Parley.Proofs.Floor.Separation
import Parley.Proofs.Floor.Serial
import Parley.Proofs.Floor.Standing
import Parley.Proofs.Floor.Timely
import Parley.Proofs.Floor.Timers
import Parley.Proofs.Floor.Trails
import Parley.Proofs.Floor.Variables
import Parley.Proofs.Floor.Waking
import Parley.Proofs.Flow.Cycles
import Parley.Proofs.Flow.Findings
import Parley.Proofs.Flow.Labels
import Parley.Proofs.Flow.Listed
import Parley.Proofs.Flow.Loops
import Parley.Proofs.Flow.Orphans
import Parley.Proofs.Flow.Paths
import Parley.Proofs.Flow.Rows
import Parley.Proofs.Flow.Targets
import Parley.Proofs.Flow.Unreported
import Parley.Proofs.Flow.Verdict
import Parley.Proofs.Http.Outcomes
import Parley.Proofs.Json.Digits
import Parley.Proofs.Lock.Line
import Parley.Proofs.Lock.Visits
import Parley.Proofs.Pattern.Faults
import Parley.Proofs.Program.Exchanges
import Parley.Proofs.Program.Protocol
import Parley.Proofs.Program.Runs
import Parley.Proofs.Store.Agreement
import Parley.Proofs.Store.Clients
import Parley.Proofs.Store.Flows
import Parley.Proofs.Store.Ledger
import Parley.Proofs.Store.Requests
import Parley.Proofs.Store.Resaved
import Parley.Proofs.Store.Versions
import Parley.Proofs.Template.Skeleton
import Parley.Proofs.Template.Slots
import Parley.Proofs.Text.Marks
import Parley.Proofs.Text.Spelling
import Parley.Proofs.Text.Words
import Parley.Proofs.Timer.Ringing
import Parley.Proofs.Timer.Settings
import Parley.Proofs.Turn.Advance
import Parley.Proofs.Turn.Branching
import Parley.Proofs.Turn.Breaking
import Parley.Proofs.Turn.Ending
import Parley.Proofs.Turn.Parking
import Parley.Proofs.Turn.Stops
import Parley.Proofs.Turn.Telling
import Parley.Proofs.Turn.Trail
import Parley.Proofs.Turn.Twins
import Parley.Proofs.Turn.Variables
import Parley.Proofs.Turn.Visit
import Parley.Proofs.Turn.Ways
import Parley.Rehearsal.Alarm
import Parley.Rehearsal.Clock
import Parley.Rehearsal.Peer
import Parley.Rehearsal.Scene
import Parley.Rehearsal.Script
import Parley.Rehearsal.Shelf
import Parley.Rehearsal.Stage
import Parley.Rehearsal.Timed
import Parley.Rehearsal.Visitors
import Parley.Schema.Issue
import Parley.Schema.Reading
import Parley.Schema.Scalar
import Parley.Service.Inbound
import Parley.Service.Routes
import Parley.Store.Backing
import Parley.Store.Interface
import Parley.Store.Ledger
import Parley.Store.Tabular
import Parley.Table.Database
import Parley.Template.Payload
import Parley.Template.Text
import Parley.Text.Base64
import Parley.Text.Blank
import Parley.Text.Case
import Parley.Text.Digit
import Parley.Text.Letter
import Parley.Text.Printable
import Parley.Text.Quoted
import Parley.Text.Range
import Parley.Text.Search
import Parley.Timer.Basic
import Parley.Turn.Advance
import Parley.Turn.Basic
import Parley.Turn.Call
import Parley.Turn.Outside
import Parley.Turn.Result
import Parley.Turn.Visit
