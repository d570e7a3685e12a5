import SwitchSession.Journal

namespace SwitchSession

inductive Verdict
  | mayContinue
  | alreadyConnected
  | closing
deriving DecidableEq

def Verdict.text : Verdict → String
  | .mayContinue => "MayContinue"
  | .alreadyConnected => "AlreadyConnected"
  | .closing => "Closing"

abbrev HandlerAnswer := Except String Verdict

def refusal? : HandlerAnswer → Option String
  | .ok .mayContinue => none
  | .ok verdict => some ("handler returned " ++ verdict.text)
  | .error reason => some (handlerFailure reason)

structure Handler where
  closes : Option Bool := none
  answer : HandlerAnswer := .ok .mayContinue

inductive HandOver
  | awaitingBarrier (index : Nat) (node : NodeId)
  | awaitingHandler (node : NodeId)
  | finished
deriving DecidableEq

namespace HandOver

def isFinished : HandOver → Bool
  | .finished => true
  | _ => false

def start (features : FeatureSet) (version : Version) (s : Site) : HandOver × Site :=
  let node := NodeId.ofDatapath features.datapath
  let greeting : LogRecord :=
    .device (.handshakeSuccessful node s.transport.remote version features.auxiliary)
  (.awaitingBarrier s.transport.barriers.length node,
    { context := (s.context.toWorking.setFeatures features).setNode node
      transport := s.transport.requestBarrier ⟨version, 0⟩ true
      journal := s.journal.write [greeting] })

/-- Goes on once the barrier is answered; a failed one closes the connection. -/
def resume? : HandOver → Site → Option (HandOver × Site)
  | .awaitingBarrier index node, s =>
    match s.transport.barrierReply? index with
    | none => none
    | some (.error _) => some (.finished, s.close false)
    | some (.ok ()) =>
      if s.context.state = .working then
        some (.awaitingHandler node,
          { s with journal := { s.journal with visits := s.journal.visits ++ [s.visit] } })
      else some (.finished, s)
  | _, _ => none

def judge (node : NodeId) (answer : HandlerAnswer) (sink : ErrorSink) (s : Site) : Site :=
  match refusal? answer with
  | none =>
    { s with journal := (s.journal.record node.text .created).write [.device (.connect node)] }
  | some reason =>
    let s := { s with journal := s.journal.report (.deviceRefused node.text reason) sink }
    let s := s.close true
    { s with journal := s.journal.record node.text .disconnectedByController }

def answer? (answer : HandlerAnswer) (sink : ErrorSink) :
    HandOver → Site → Option (HandOver × Site)
  | .awaitingHandler node, s => some (.finished, judge node answer sink s)
  | _, _ => none

/-- After a failed handshake the connection is counted and closed. -/
def abandon (s : Site) : Site :=
  { s with journal := s.journal.record s.transport.remote .handshakeFailed }.close false

def consult (handler : Handler) (sink : ErrorSink) : HandOver → Site → HandOver × Site
  | .awaitingHandler node, s =>
    let s := match handler.closes with
      | some propagate => s.close propagate
      | none => s
    (.finished, judge node handler.answer sink s)
  | stage, s => (stage, s)

def advance (handler : Handler) (sink : ErrorSink) (stage : HandOver) (s : Site) :
    HandOver × Site :=
  match resume? stage s with
  | some (stage, s) => consult handler sink stage s
  | none => consult handler sink stage s

end HandOver

end SwitchSession
