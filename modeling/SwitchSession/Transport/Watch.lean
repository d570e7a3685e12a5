import SwitchSession.Transport

namespace SwitchSession

inductive Ticket
  | hello (index : Nat)
  | features (index : Nat)
  | barrier (index : Nat)

/-- A reply of any kind; only features replies carry a payload. -/
abbrev Reply := Except TransportError (Option FeatureSet)

def Transport.reply? (t : Transport) : Ticket → Option Reply
  | .hello index => (t.helloReply? index).map (·.map fun _ => none)
  | .features index => (t.featuresReply? index).map (·.map some)
  | .barrier index => (t.barrierReply? index).map (·.map fun _ => none)

inductive Milestone
  | hellos (count : Nat)
  | featuresRequests (count : Nat)
  | barriers (count : Nat)
  | disconnect

def Milestone.isReached (t : Transport) : Milestone → Bool
  | .hellos count => decide (count ≤ t.hellos.length)
  | .featuresRequests count => decide (count ≤ t.features.length)
  | .barriers count => decide (count ≤ t.barriers.length)
  | .disconnect => t.isDisconnected

/-- A transport with those who watch it. They look only when they are given a turn. -/
structure Watch where
  transport : Transport
  requests : List (Ticket × Option Reply) := []
  waits : List (Milestone × Bool) := []

namespace Watch

def hello (w : Watch) (message : Hello) : Watch :=
  { w with
    transport := w.transport.sendHello message true
    requests := w.requests ++ [(.hello w.transport.hellos.length, none)] }

def features (w : Watch) (request : Request) : Watch :=
  { w with
    transport := w.transport.requestFeatures request true
    requests := w.requests ++ [(.features w.transport.features.length, none)] }

def barrier (w : Watch) (request : Request) : Watch :=
  { w with
    transport := w.transport.requestBarrier request true
    requests := w.requests ++ [(.barrier w.transport.barriers.length, none)] }

def await (w : Watch) (milestone : Milestone) : Watch :=
  { w with waits := w.waits ++ [(milestone, false)] }

def look (w : Watch) : Watch :=
  { w with
    requests := w.requests.map fun (ticket, _) => (ticket, w.transport.reply? ticket)
    waits := w.waits.map fun (milestone, ended) =>
      (milestone, ended || milestone.isReached w.transport) }

end Watch

end SwitchSession
