import SwitchSession.Error

namespace SwitchSession

/-- One request. It is answered when it has a reply, and it keeps its place for good. -/
structure Exchange (μ α : Type) where
  request : μ
  reply : Option (Except TransportError α)
  awaited : Bool := true

namespace Exchange

/-- Answers the oldest open exchange; the flag says whether somebody was waiting for it. -/
def answerOldest (result : Except TransportError α) :
    List (Exchange μ α) → Bool × List (Exchange μ α)
  | [] => (false, [])
  | x :: rest =>
    match x.reply with
    | some _ =>
      let (found, rest) := answerOldest result rest
      (found, x :: rest)
    | none => (x.awaited, { x with reply := some result } :: rest)

def failOpen (xs : List (Exchange μ α)) : List (Exchange μ α) :=
  xs.map fun x => { x with reply := x.reply <|> some (.error .connectionClosed) }

end Exchange

inductive Plan (α : Type)
  | immediate (result : Except TransportError α)
  | deferred

def Plan.reply : Plan α → Option (Except TransportError α)
  | .immediate result => some result
  | .deferred => none

/-- A transport whose replies are scripted, with all requests in the order of issue. -/
structure Transport where
  remote : String
  helloPlan : Plan Unit := .immediate (.ok ())
  featuresPlan : Plan FeatureSet := .immediate (.ok { datapath := 1 })
  barrierPlan : Plan Unit := .immediate (.ok ())
  hellos : List (Exchange Hello Unit) := []
  features : List (Exchange Request FeatureSet) := []
  barriers : List (Exchange Request Unit) := []
  disconnects : Nat := 0

namespace Transport

def isDisconnected (t : Transport) : Bool := decide (0 < t.disconnects)

/-- The reply to a request issued now; nothing gets through after a disconnect. -/
def replyTo (t : Transport) (plan : Plan α) : Option (Except TransportError α) :=
  if t.isDisconnected then some (.error .connectionClosed) else plan.reply

def sendHello (t : Transport) (hello : Hello) (awaited : Bool) : Transport :=
  { t with hellos := t.hellos ++ [⟨hello, t.replyTo t.helloPlan, awaited⟩] }

def requestFeatures (t : Transport) (request : Request) (awaited : Bool) : Transport :=
  { t with features := t.features ++ [⟨request, t.replyTo t.featuresPlan, awaited⟩] }

def requestBarrier (t : Transport) (request : Request) (awaited : Bool) : Transport :=
  { t with barriers := t.barriers ++ [⟨request, t.replyTo t.barrierPlan, awaited⟩] }

def completeFeatures (t : Transport) (result : Except TransportError FeatureSet) :
    Bool × Transport :=
  let (found, features) := Exchange.answerOldest result t.features
  (found, { t with features })

def completeBarrier (t : Transport) (result : Except TransportError Unit) : Bool × Transport :=
  let (found, barriers) := Exchange.answerOldest result t.barriers
  (found, { t with barriers })

def disconnect (t : Transport) : Transport :=
  { t with
    hellos := Exchange.failOpen t.hellos
    features := Exchange.failOpen t.features
    barriers := Exchange.failOpen t.barriers
    disconnects := t.disconnects + 1 }

def helloReply? (t : Transport) (index : Nat) : Option (Except TransportError Unit) :=
  t.hellos[index]?.bind (·.reply)

def featuresReply? (t : Transport) (index : Nat) : Option (Except TransportError FeatureSet) :=
  t.features[index]?.bind (·.reply)

def barrierReply? (t : Transport) (index : Nat) : Option (Except TransportError Unit) :=
  t.barriers[index]?.bind (·.reply)

end Transport

end SwitchSession
