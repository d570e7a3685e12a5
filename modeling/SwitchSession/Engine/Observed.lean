import SwitchSession.Engine

namespace SwitchSession

/-- A handshake whose listener writes down what it is told and returns at once. -/
structure Observed (σ : Type) where
  handshake : Handshake σ
  notices : List Notice := []

namespace Observed

def run [Admission σ] (o : Observed σ) : Observed σ :=
  let (handshake, notices) := o.handshake.run
  { handshake := handshake.withEngine handshake.engine.acknowledge
    notices := o.notices ++ notices }

def withHandshake (o : Observed σ) (handshake : Handshake σ) : Observed σ := { o with handshake }

def successes (o : Observed σ) : List (FeatureSet × Version) :=
  o.notices.filterMap fun
    | .success features version => some (features, version)
    | _ => none

def failures (o : Observed σ) : Nat := o.notices.count .failure

def errors (o : Observed σ) : List HandshakeError :=
  o.notices.filterMap fun
    | .error error => some error
    | _ => none

end Observed

end SwitchSession
