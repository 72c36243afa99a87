import Interprocess.Address
import Interprocess.Delivery.Ledger
import Interprocess.Delivery.Record
import Interprocess.Delivery.State
import Interprocess.Endpoint.Call
import Interprocess.Endpoint.Config
import Interprocess.Endpoint.Process
import Interprocess.Endpoint.Receiving
import Interprocess.Endpoint.Sending
import Interprocess.Endpoint.Session
import Interprocess.Endpoint.Tracking
import Interprocess.Error
import Interprocess.Grant.Holder
import Interprocess.Grant.Json
import Interprocess.Grant.Token
import Interprocess.Json.Lexeme
import Interprocess.Json.Literal
import Interprocess.Json.Record
import Interprocess.Json.Value
import Interprocess.Kernel.Fault
import Interprocess.Kernel.Interface
import Interprocess.Message.Envelope
import Interprocess.Message.Json
import Interprocess.Message.Kind
import Interprocess.Naming.Client
import Interprocess.Naming.Message
import Interprocess.Operation
import Interprocess.Power.Callback
import Interprocess.Power.Control
import Interprocess.Power.Exemption
import Interprocess.Power.Json
import Interprocess.Power.Notice
import Interprocess.Power.Reason
import Interprocess.Power.SaveWindow
import Interprocess.Simulation.KernelCall
import Interprocess.Simulation.NameServer
import Interprocess.Simulation.Scenario
import Interprocess.Simulation.Station
import Interprocess.Simulation.System
import Interprocess.Simulation.World
import Interprocess.Simulation.WorldStep
import Interprocess.Table
import Interprocess.Text.Cut
import Interprocess.Text.Field
import Interprocess.Text.Numeral
import Interprocess.Text.Utf8
import Interprocess.Proofs.Delivery.RecordGrowth
import Interprocess.Proofs.Delivery.SoundLedger
import Interprocess.Proofs.Delivery.Entry
import Interprocess.Proofs.Delivery.Expiry
import Interprocess.Proofs.Endpoint.Running
import Interprocess.Proofs.Endpoint.Move
import Interprocess.Proofs.Endpoint.Course
import Interprocess.Proofs.Endpoint.OperationWalk
import Interprocess.Proofs.Endpoint.LedgerEffect
import Interprocess.Proofs.Endpoint.Reachable
import Interprocess.Proofs.Endpoint.RecordLife
import Interprocess.Proofs.Kernel.Clock
import Interprocess.Proofs.Endpoint.Polling
import Interprocess.Proofs.Endpoint.QueryOrder
import Interprocess.Proofs.Endpoint.Silence
import Interprocess.Proofs.Kernel.Journal
import Interprocess.Proofs.Endpoint.Numbering
import Interprocess.Proofs.Simulation.WorldEffect
import Interprocess.Proofs.Simulation.Run
import Interprocess.Proofs.Simulation.Provenance
import Interprocess.Proofs.Simulation.Correlation
import Interprocess.Proofs.Simulation.Custody
import Interprocess.Proofs.Grant.Checks
import Interprocess.Proofs.Grant.Rights
import Interprocess.Proofs.Simulation.PowerGate
import Interprocess.Proofs.Json.Scanning
import Interprocess.Proofs.Json.Parsing
import Interprocess.Proofs.Json.Records
import Interprocess.Proofs.Json.Vocabulary
import Interprocess.Proofs.Text.Boundary
import Interprocess.Proofs.Grant.Description
import Interprocess.Proofs.Simulation.TokenTrade
import Interprocess.Proofs.Simulation.Circulation
import Interprocess.Proofs.Power.Announcement
import Interprocess.Proofs.Json.Length
import Interprocess.Proofs.Naming.Directory
import Interprocess.Proofs.Naming.Asking
import Interprocess.Proofs.Simulation.AnsweredCall
import Interprocess.Proofs.Naming.Refinement
import Interprocess.Proofs.Kernel.Mirror
import Interprocess.Proofs.Endpoint.Following
import Interprocess.Proofs.Endpoint.Transcript
import Interprocess.Proofs.Simulation.Mail
import Interprocess.Proofs.Endpoint.History
import Interprocess.Proofs.Endpoint.Posting
import Interprocess.Proofs.Endpoint.Notices
import Interprocess.Proofs.Power.SaveWindow
import Interprocess.Proofs.Power.ExemptionBudget
import Interprocess.Proofs.Power.Dispatch
import Interprocess.Proofs.Delivery.Overflow
import Interprocess.Proofs.Kernel.Feedback
import Interprocess.Proofs.Simulation.Queue
import Interprocess.Proofs.Endpoint.Query
import Interprocess.Proofs.Simulation.PortTrade
import Interprocess.Proofs.Simulation.Port
import Interprocess.Proofs.Grant.AllOrNothing
import Interprocess.Proofs.Endpoint.Footprint
import Interprocess.Proofs.Endpoint.Leftover
import Interprocess.Proofs.Power.NoticeGrammar
import Interprocess.Proofs.Naming.AnyPeer
import Interprocess.Proofs.Endpoint.LastPoll
import Interprocess.Proofs.Naming.Unreachable
import Interprocess.Proofs.Endpoint.Stamping
import Interprocess.Proofs.Endpoint.Fitting
import Interprocess.Proofs.Endpoint.OwnPayloads
