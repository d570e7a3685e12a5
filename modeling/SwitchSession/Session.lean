import SwitchSession.Engine
import SwitchSession.HandOver

namespace SwitchSession

/-- A connection from accept to hand-over, with the limiter and the journal that all share. -/
structure Session (σ : Type) where
  handshake : Handshake σ
  context : Context := {}
  handOver : Option HandOver := none
  sink : ErrorSink
  journal : Journal

namespace Session

def site (s : Session σ) : Site := ⟨s.context, s.handshake.transport, s.journal⟩

def withSite (s : Session σ) (site : Site) : Session σ :=
  { s with
    context := site.context
    journal := site.journal
    handshake := { s.handshake with transport := site.transport } }

def close (s : Session σ) (propagate : Bool) : Session σ := s.withSite (s.site.close propagate)

/-- The engine goes on when the listener is through. -/
def withHandOver (s : Session σ) (stage : HandOver) : Session σ :=
  if stage.isFinished then
    { s with
      handOver := some stage
      handshake := s.handshake.withEngine s.handshake.engine.acknowledge }
  else { s with handOver := some stage }

def heed (s : Session σ) : Notice → Session σ
  | .error error => { s with journal := s.journal.report error s.sink }
  | .success features version =>
    let (stage, site) := HandOver.start features version s.site
    (s.withSite site).withHandOver stage
  | .failure => (s.withSite (HandOver.abandon s.site)).withHandOver .finished

def heedAll (s : Session σ) (notices : List Notice) : Session σ := notices.foldl heed s

def advanceHandOver (s : Session σ) (handler : Handler) : Session σ :=
  match s.handOver with
  | none => s
  | some stage =>
    let (stage, site) := stage.advance handler s.sink s.site
    (s.withSite site).withHandOver stage

def run [Admission σ] (s : Session σ) (handler : Handler) : Session σ :=
  let (handshake, notices) := s.handshake.run
  ({ s with handshake }.heedAll notices).advanceHandOver handler

inductive Move
  | handshake (move : Handshake.Move)
  | close (propagate : Bool)
  | resume
  | answer (answer : HandlerAnswer)

def stepHandOver (s : Session σ) (step : HandOver → Site → Option (HandOver × Site)) :
    Option (Session σ) :=
  match s.handOver with
  | none => none
  | some stage => (step stage s.site).map fun (stage, site) => (s.withSite site).withHandOver stage

def move? [Admission σ] (s : Session σ) : Move → Option (Session σ)
  | .handshake .acknowledge => none
  | .handshake move =>
    (s.handshake.move? move).map fun (handshake, notices) => { s with handshake }.heedAll notices
  | .close propagate => some (s.close propagate)
  | .resume => s.stepHandOver HandOver.resume?
  | .answer answer => s.stepHandOver (HandOver.answer? answer s.sink)

end Session

end SwitchSession
