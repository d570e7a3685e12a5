import SwitchSession.Admission.Limiter
import SwitchSession.Handshake.Rehearsal
import SwitchSession.Transport.Watch
import SwitchSession.HandOver.Reception
import SwitchSession.Engine.Observed
import SwitchSession.Acceptor
import SwitchSession.Config.Source
import SwitchSession.Logging.Subscriber
import SwitchSession.External.ConfigFormat
import SwitchSession.External.Filter
import SwitchSession.Proofs.Handshake.Run
import SwitchSession.Proofs.Handshake.Outcome
import SwitchSession.Proofs.Handshake.Negotiation
import SwitchSession.Proofs.Version.Choice
import SwitchSession.Proofs.Handshake.StepByStep
import SwitchSession.Proofs.Handshake.Settlement
import SwitchSession.Proofs.Admission.Bucket
import SwitchSession.Proofs.Admission.Rate
import SwitchSession.Proofs.Handshake.Messages
import SwitchSession.Proofs.Handshake.Convergence
import SwitchSession.Proofs.Handshake.Success
import SwitchSession.Proofs.Handshake.Xids
import SwitchSession.Proofs.Handshake.DeadEnds
import SwitchSession.Proofs.Handshake.Encounter
import SwitchSession.Proofs.Transport.Traffic
import SwitchSession.Proofs.Engine.Notices
import SwitchSession.Proofs.Engine.Turn
import SwitchSession.Proofs.Engine.Schedule
import SwitchSession.Proofs.HandOver.Closing
import SwitchSession.Proofs.HandOver.Custody
import SwitchSession.Proofs.HandOver.Lifetime
import SwitchSession.Proofs.Engine.Advance
import SwitchSession.Proofs.Session.History
import SwitchSession.Proofs.Session.Failure
import SwitchSession.Proofs.Session.Service
import SwitchSession.Proofs.Handshake.Phases
import SwitchSession.Proofs.Handshake.Causes
import SwitchSession.Proofs.Admission.Permits
import SwitchSession.Proofs.Engine.Provenance
import SwitchSession.Proofs.Session.Trail
import SwitchSession.Proofs.Session.Deeds
import SwitchSession.Proofs.Session.Course
import SwitchSession.Proofs.Session.Connected
import SwitchSession.Proofs.Session.Reports
import SwitchSession.Proofs.Handshake.Lateness
import SwitchSession.Proofs.Handshake.Refusal
import SwitchSession.Proofs.Handshake.Timing
import SwitchSession.Proofs.Admission.Overflow
import SwitchSession.Proofs.Admission.Polling
import SwitchSession.Proofs.Engine.Tracking
import SwitchSession.Proofs.Engine.Orphans
import SwitchSession.Proofs.Statistics.Ledger
import SwitchSession.Proofs.Session.Entries
import SwitchSession.Proofs.Session.Accounts
import SwitchSession.Proofs.Version.Bitmaps
import SwitchSession.Proofs.Version.Preference
import SwitchSession.Proofs.Config.Validation
import SwitchSession.Proofs.Config.RoundTrip
import SwitchSession.Proofs.Config.Documented
import SwitchSession.Proofs.Toml.Grammar
import SwitchSession.Proofs.Logging.Installation
import SwitchSession.Proofs.Toml.Numeral
import SwitchSession.Proofs.Toml.Layout
import SwitchSession.Proofs.Transport.Queue
import SwitchSession.Proofs.Transport.Replies
