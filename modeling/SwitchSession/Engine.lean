import SwitchSession.Handshake.Machine
import SwitchSession.Transport

/-!
The engine runs a handshake machine over a transport. Events queue up until the engine reads them;
messages go out at once, and what becomes of them is delivered to the queue later. The queue stays
open as long as somebody can still post to it: the holder of a handle, or a message in flight.
-/

namespace SwitchSession

/-- A message whose reply is still to be delivered, as the `index`-th of its kind. -/
inductive InFlight
  | hello (index : Nat) (xid : Xid) (next : Continuation)
  | features (index : Nat) (xid : Xid)
deriving DecidableEq

inductive Notice
  | error (error : HandshakeError)
  | success (features : FeatureSet) (version : Version)
  | failure
deriving DecidableEq

inductive Progress
  | running
  /-- The outcome is known, and the listener is busy with it. -/
  | notifying
  | finished
deriving DecidableEq

inductive Signal
  | initiate
  | hello (received : Hello)
  | connectionLost
deriving DecidableEq

def Signal.event : Signal → Event
  | .initiate => .initiate
  | .hello received => .hello received
  | .connectionLost => .connectionLost

structure Engine where
  machine : Machine
  queue : List Event := []
  inFlight : List InFlight := []
  handles : Nat := 1
  version : Option Version := none
  progress : Progress := .running

namespace Engine

def isOpen (e : Engine) : Bool := Nat.blt 0 e.handles || !e.inFlight.isEmpty

/-- Nobody reads the queue of a finished engine. -/
def post (e : Engine) (events : List Event) : Engine :=
  match e.progress with
  | .finished => e
  | _ => { e with queue := e.queue ++ events }

def tell (e : Engine) (signal : Signal) : Engine :=
  if e.handles = 0 then e else e.post [signal.event]

def cloneHandle (e : Engine) : Engine :=
  if e.handles = 0 then e else { e with handles := e.handles + 1 }

def dropHandle (e : Engine) : Engine := { e with handles := e.handles - 1 }

def track (e : Engine) (message : InFlight) : Engine :=
  if e.isOpen then { e with inFlight := e.inFlight ++ [message] } else e

def outcome? (e : Engine) : Option Outcome :=
  match e.progress with
  | .finished => e.machine.outcome
  | _ => none

def acknowledge (e : Engine) : Engine :=
  match e.progress with
  | .notifying => { e with progress := .finished }
  | _ => e

end Engine

structure Handshake (σ : Type) where
  engine : Engine
  transport : Transport
  limiter : σ

namespace Handshake

def fresh (capabilities : CapabilitySet) (bitmapMode : Bool) (transport : Transport)
    (limiter : σ) : Handshake σ :=
  { engine := { machine := .fresh capabilities bitmapMode }, transport, limiter }

def withEngine (h : Handshake σ) (engine : Engine) : Handshake σ := { h with engine }

def perform (h : Handshake σ) : Action → Handshake σ × List Notice
  | .sendHello hello next =>
    ({ h with
        engine := h.engine.track (.hello h.transport.hellos.length hello.xid next)
        transport := h.transport.sendHello hello h.engine.isOpen }, [])
  | .requestFeatures request =>
    ({ h with
        engine := h.engine.track (.features h.transport.features.length request.xid)
        transport := h.transport.requestFeatures request h.engine.isOpen }, [])
  | .report error => (h, [.error error])
  | .notifySuccess features version => (h, [.success features version])
  | .notifyFailure => (h, [.failure])

def performAll : List Action → Handshake σ → Handshake σ × List Notice
  | [], h => (h, [])
  | action :: rest, h =>
    let (h, notices) := h.perform action
    let (h, more) := performAll rest h
    (h, notices ++ more)

def handle [Admission σ] (h : Handshake σ) (event : Event) : Handshake σ × List Notice :=
  let reaction := h.engine.machine.handle h.limiter event
  let h := { h with
    engine := { h.engine with machine := reaction.machine }
    limiter := reaction.limiter }
  let (h, notices) := performAll reaction.actions h
  let engine := { h.engine with
    version := reaction.machine.negotiation.settled <|> h.engine.version
    progress := if reaction.machine.outcome.isSome then .notifying else .running }
  (h.withEngine engine, notices)

/-- Reads the next event; a queue that is empty and closed means that the connection is lost. -/
def read? [Admission σ] (h : Handshake σ) : Option (Handshake σ × List Notice) :=
  match h.engine.progress with
  | .running =>
    match h.engine.queue with
    | event :: queue => some ((h.withEngine { h.engine with queue }).handle event)
    | [] => if h.engine.isOpen then none else some (h.handle .connectionLost)
  | _ => none

def replyEvent? (t : Transport) : InFlight → Option Event
  | .hello index xid next => (t.helloReply? index).map fun result => .helloSent xid result next
  | .features index xid => (t.featuresReply? index).map fun result => .features xid result

def deliver? (h : Handshake σ) (i : Nat) : Option (Handshake σ) :=
  match h.engine.inFlight[i]?.bind (replyEvent? h.transport) with
  | none => none
  | some event =>
    some (h.withEngine
      ({ h.engine with inFlight := h.engine.inFlight.eraseIdx i }.post [event]))

def deliverAll (h : Handshake σ) : Handshake σ :=
  let events := h.engine.inFlight.filterMap (replyEvent? h.transport)
  let waiting := h.engine.inFlight.filter fun message =>
    (replyEvent? h.transport message).isNone
  h.withEngine ({ h.engine with inFlight := waiting }.post events)

def hasReply (h : Handshake σ) : Bool :=
  h.engine.inFlight.any fun message => (replyEvent? h.transport message).isSome

def advance? [Admission σ] (h : Handshake σ) : Option (Handshake σ × List Notice) :=
  if h.engine.queue.isEmpty && h.hasReply then some (h.deliverAll, []) else h.read?

def runFor [Admission σ] : Nat → Handshake σ → Handshake σ × List Notice
  | 0, h => (h, [])
  | steps + 1, h =>
    match h.advance? with
    | none => (h, [])
    | some (h, notices) =>
      let (h, more) := runFor steps h
      (h, notices ++ more)

/-- Runs until nothing is ready. Every event is read once, every reply delivered once, and a machine
sends at most one HELLO for each of its versions and one features request. -/
def run [Admission σ] (h : Handshake σ) : Handshake σ × List Notice :=
  h.runFor (h.engine.queue.length + 2 * h.engine.inFlight.length +
    2 * h.engine.machine.capabilities.versions.length + 4)

/-- What can happen to a running handshake: the handle's holders and the peer act at any time, the
engine reads and replies arrive in any order. -/
inductive Move
  | tell (signal : Signal)
  | cloneHandle
  | dropHandle
  | disconnect
  | completeFeatures (result : Except TransportError FeatureSet)
  | completeBarrier (result : Except TransportError Unit)
  | read
  | deliver (i : Nat)
  | acknowledge

def move? [Admission σ] (h : Handshake σ) : Move → Option (Handshake σ × List Notice)
  | .tell signal => some (h.withEngine (h.engine.tell signal), [])
  | .cloneHandle => some (h.withEngine h.engine.cloneHandle, [])
  | .dropHandle => some (h.withEngine h.engine.dropHandle, [])
  | .disconnect => some ({ h with transport := h.transport.disconnect }, [])
  | .completeFeatures result =>
    some ({ h with transport := (h.transport.completeFeatures result).2 }, [])
  | .completeBarrier result =>
    some ({ h with transport := (h.transport.completeBarrier result).2 }, [])
  | .read => h.read?
  | .deliver i => (h.deliver? i).map (·, [])
  | .acknowledge => some (h.withEngine h.engine.acknowledge, [])

end Handshake

end SwitchSession
