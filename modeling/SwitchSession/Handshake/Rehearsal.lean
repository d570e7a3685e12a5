import SwitchSession.Handshake.Machine

namespace SwitchSession

/-- A machine with its messages that have not come back yet, each kind in the order of issue. -/
structure Rehearsal (σ : Type) where
  machine : Machine
  limiter : σ
  /-- HELLOs whose delivery has not been reported, with their continuations. -/
  hellos : List (Xid × Continuation) := []
  requests : List Xid := []

namespace Rehearsal

def sentHello? : Action → Option (Xid × Continuation)
  | .sendHello hello next => some (hello.xid, next)
  | _ => none

def sentRequest? : Action → Option Xid
  | .requestFeatures request => some request.xid
  | _ => none

def apply [Admission σ] (r : Rehearsal σ) (event : Event) : Rehearsal σ × List Action :=
  let reaction := r.machine.handle r.limiter event
  ({ machine := reaction.machine
     limiter := reaction.limiter
     hellos := r.hellos ++ reaction.actions.filterMap sentHello?
     requests := r.requests ++ reaction.actions.filterMap sentRequest? }, reaction.actions)

def deliver? [Admission σ] (r : Rehearsal σ) (result : Except TransportError Unit) :
    Option (Rehearsal σ × List Action) :=
  match r.hellos with
  | [] => none
  | (xid, next) :: hellos => some ({ r with hellos }.apply (.helloSent xid result next))

def reply? [Admission σ] (r : Rehearsal σ) (result : Except TransportError FeatureSet) :
    Option (Rehearsal σ × List Action) :=
  match r.requests with
  | [] => none
  | xid :: requests => some ({ r with requests }.apply (.features xid result))

end Rehearsal

end SwitchSession
