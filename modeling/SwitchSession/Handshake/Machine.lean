import SwitchSession.Admission
import SwitchSession.Handshake.Negotiation
import SwitchSession.Version.Proposal

namespace SwitchSession

inductive Phase
  | awaitingFirstHello
  | negotiating
  | versionSettled
  | featuresRequested
  | success
  | failed
deriving DecidableEq

def Phase.isTerminal : Phase → Bool
  | .success | .failed => true
  | _ => false

inductive Continuation
  | wait
  | compare (remote : Version)
  | settle (version : Version)
deriving DecidableEq

inductive Event
  | initiate
  | hello (received : Hello)
  | helloSent (xid : Xid) (result : Except TransportError Unit) (next : Continuation)
  | features (xid : Xid) (result : Except TransportError FeatureSet)
  | connectionLost

inductive Action
  | sendHello (hello : Hello) (next : Continuation)
  | requestFeatures (request : Request)
  | report (error : HandshakeError)
  | notifySuccess (features : FeatureSet) (version : Version)
  | notifyFailure
deriving DecidableEq

inductive Outcome
  | success (version : Version) (features : FeatureSet)
  | failure (error : HandshakeError)
deriving DecidableEq

structure Machine where
  capabilities : CapabilitySet
  negotiation : Negotiation
  phase : Phase := .awaitingFirstHello
  pendingXid : Option Xid := none
  outcome : Option Outcome := none

/-- How far the handling of one event has come; after a failure nothing more is added. -/
structure Turn where
  machine : Machine
  actions : List Action := []
  failure : Option HandshakeError := none

def Turn.andThen (t : Turn) (next : Machine → Turn) : Turn :=
  match t.failure with
  | some _ => t
  | none =>
    let u := next t.machine
    { u with actions := t.actions ++ u.actions }

namespace Machine

def fresh (capabilities : CapabilitySet) (bitmapMode : Bool) : Machine :=
  { capabilities, negotiation := { bitmapMode } }

def attempt (m : Machine) (result : Except HandshakeError α) (next : α → Turn) : Turn :=
  match result with
  | .ok a => next a
  | .error e => { machine := m, failure := some e }

def nextXid (m : Machine) : Except HandshakeError Xid :=
  match m.negotiation.xid.next? with
  | some x => .ok x
  | none => .error .xidExhausted

def sendHello (m : Machine) (v : Version) (next : Continuation) : Turn :=
  m.attempt m.nextXid fun xid =>
    { machine := { m with negotiation := { m.negotiation with xid, proposed := some v } }
      actions := [.sendHello ⟨v, xid, [.versionBitmap m.capabilities.bitmap]⟩ next] }

def settle (m : Machine) (v : Version) : Turn :=
  let m := { m with
    negotiation := { m.negotiation with settled := some v }
    phase := .versionSettled }
  m.attempt m.nextXid fun xid =>
    { machine := { m with
        negotiation := { m.negotiation with xid }
        pendingXid := some xid
        phase := .featuresRequested }
      actions := [.requestFeatures ⟨v, xid⟩] }

/-- Weighs a peer version against our last proposal. A peer at or above it takes it; to a lower one
we answer with the best version it can speak, which is settled at once if the peer named it. -/
def compareWithProposal (m : Machine) (remote : Version) : Turn :=
  let ceiling := m.negotiation.proposed.getD m.capabilities.highest
  if ceiling ≤ remote then m.settle ceiling
  else if stalls remote m.negotiation.received then
    { machine := m, failure := some (.negotiationStalled remote) }
  else
    let m := { m with negotiation := { m.negotiation with received := some remote } }
    m.attempt (m.capabilities.proposeAtMost remote) fun v =>
      (m.sendHello v .wait).andThen fun m => if v = remote then m.settle v else { machine := m }

def stepByStep (m : Machine) (remote : Version) : Turn :=
  if m.negotiation.proposed.isSome then m.compareWithProposal remote
  else
    m.attempt (m.capabilities.proposeAtMost remote) fun v => m.sendHello v (.compare remote)

def negotiateByBitmap (m : Machine) (bitmaps : List VersionBitmap) : Turn :=
  m.attempt (m.capabilities.proposeShared bitmaps) fun v =>
    if m.negotiation.proposed.isSome then m.settle v else m.sendHello v (.settle v)

def onInitiate (m : Machine) : Turn :=
  if m.negotiation.settled.isSome || m.negotiation.proposed.isSome then { machine := m }
  else m.sendHello m.capabilities.highest .wait

/-- A peer that sends no bitmap leaves bitmap mode for good. -/
def onHello (m : Machine) (h : Hello) : Turn :=
  if m.negotiation.settled.isSome then { machine := m }
  else
    let m := { m with negotiation := m.negotiation.reseed h.xid, phase := .negotiating }
    match h.bitmaps? with
    | some bitmaps =>
      if m.negotiation.bitmapMode then m.negotiateByBitmap bitmaps else m.stepByStep h.version
    | none =>
      { m with negotiation := { m.negotiation with bitmapMode := false } }.stepByStep h.version

def onHelloSent (m : Machine) (xid : Xid) (result : Except TransportError Unit)
    (next : Continuation) : Turn :=
  match result with
  | .error cause => { machine := m, failure := some (.sendFailed .hello xid cause) }
  | .ok () =>
    if m.negotiation.settled.isSome then { machine := m }
    else
      match next with
      | .wait => { machine := m }
      | .compare remote => m.compareWithProposal remote
      | .settle v => m.settle v

/-- Only the reply to the open request counts; `granted` is the answer of admission control. -/
def onFeatures (m : Machine) (granted : Bool) (xid : Xid)
    (result : Except TransportError FeatureSet) : Turn :=
  if m.pendingXid = some xid then
    let m := { m with pendingXid := none }
    match result, m.negotiation.settled with
    | .error cause, _ => { machine := m, failure := some (.sendFailed .featuresRequest xid cause) }
    | .ok _, none => { machine := m }
    | .ok features, some version =>
      if granted then
        { machine := { m with phase := .success, outcome := some (.success version features) }
          actions := [.notifySuccess features version] }
      else { machine := m, failure := some (.admissionDenied features.datapath) }
  else { machine := m }

def turn (m : Machine) (granted : Bool) : Event → Turn
  | .initiate => m.onInitiate
  | .hello received => m.onHello received
  | .helloSent xid result next => m.onHelloSent xid result next
  | .features xid result => m.onFeatures granted xid result
  | .connectionLost => { machine := m, failure := some .connectionClosed }

/-- A failure takes back everything that the same event had prepared. -/
def conclude (t : Turn) : Machine × List Action :=
  match t.failure with
  | none => (t.machine, t.actions)
  | some error =>
    ({ t.machine with
        phase := .failed
        pendingXid := none
        outcome := some (.failure error) },
      [.report error, .notifyFailure])

def react (m : Machine) (granted : Bool) (e : Event) : Machine × List Action :=
  if m.phase.isTerminal then (m, []) else conclude (m.turn granted e)

def asksAdmission (m : Machine) : Event → Bool
  | .features xid (.ok _) =>
    !m.phase.isTerminal && decide (m.pendingXid = some xid) && m.negotiation.settled.isSome
  | _ => false

end Machine

structure Reaction (σ : Type) where
  machine : Machine
  limiter : σ
  actions : List Action

/-- Applies one event, asking for admission only if the event calls for it. -/
def Machine.handle [Admission σ] (m : Machine) (limiter : σ) (e : Event) : Reaction σ :=
  if m.asksAdmission e then
    let (granted, limiter) := Admission.tryAcquire limiter
    let (machine, actions) := m.react granted e
    { machine, limiter, actions }
  else
    let (machine, actions) := m.react true e
    { machine, limiter, actions }

end SwitchSession
