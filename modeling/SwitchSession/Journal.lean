import SwitchSession.Context
import SwitchSession.Statistics

namespace SwitchSession

structure Visit where
  remote : String
  state : ConnectionState
  features : Option FeatureSet
  node : Option NodeId
deriving DecidableEq

/-- Everything written by connections, each list in the order of writing. -/
structure Journal where
  statistics : Statistics := {}
  visits : List Visit := []
  errors : List HandshakeError := []
  log : List LogRecord := []

inductive ErrorSink
  | errors
  | log (remote : Option String)

namespace Journal

def report (j : Journal) (error : HandshakeError) : ErrorSink → Journal
  | .errors => { j with errors := j.errors ++ [error] }
  | .log remote => { j with log := j.log ++ [.handshakeError remote error] }

def record (j : Journal) (device : String) (event : SessionEvent) : Journal :=
  { j with statistics := j.statistics.record device event }

def write (j : Journal) (records : List LogRecord) : Journal := { j with log := j.log ++ records }

end Journal

structure Site where
  context : Context := {}
  transport : Transport
  journal : Journal := {}

namespace Site

def close (s : Site) (propagate : Bool) : Site :=
  let (context, transport, records) := s.context.close s.transport propagate
  { context, transport, journal := s.journal.write records }

def visit (s : Site) : Visit :=
  { remote := s.transport.remote
    state := s.context.state
    features := s.context.features
    node := s.context.node }

end Site

end SwitchSession
