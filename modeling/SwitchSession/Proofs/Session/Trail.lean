import SwitchSession.Proofs.Session.History

namespace SwitchSession

namespace LogRecord

def connected? : LogRecord → Option NodeId
  | .device (.connect node) => some node
  | _ => none

def isDisconnect : LogRecord → Bool
  | .device (.disconnect ..) => true
  | _ => false

def error? : LogRecord → Option HandshakeError
  | .handshakeError _ error => some error
  | _ => none

end LogRecord

/-- The log says that the connection is gone. -/
def Disconnects (log : List LogRecord) : Prop := ∃ r ∈ log, r.isDisconnect

theorem not_disconnects_nil : ¬ Disconnects [] := by simp [Disconnects]

theorem disconnects_append {log more : List LogRecord} :
    Disconnects (log ++ more) ↔ Disconnects log ∨ Disconnects more := by
  simp [Disconnects, or_and_right, exists_or]

def HandOver.isConsulting : HandOver → Bool
  | .awaitingHandler _ => true
  | _ => false

@[ext]
structure Trail where
  log : List LogRecord := []
  errors : List HandshakeError := []
  answers : List HandlerAnswer := []
  /-- The closes that were not the listener's, those of the handler among them. -/
  closes : List Bool := []
  /-- Those of them that came while the handler had not answered yet. -/
  interruptions : List Bool := []
  /-- The state of the connection as each of its devices was written down as connected. -/
  sightings : List ConnectionState := []

namespace Trail

instance : Append Trail where
  append t u :=
    { log := t.log ++ u.log
      errors := t.errors ++ u.errors
      answers := t.answers ++ u.answers
      closes := t.closes ++ u.closes
      interruptions := t.interruptions ++ u.interruptions
      sightings := t.sightings ++ u.sightings }

def connects (t : Trail) : List NodeId := t.log.filterMap LogRecord.connected?

/-- The errors that were reported, to an error handler of either kind. -/
def reports (t : Trail) : List HandshakeError := t.errors ++ t.log.filterMap LogRecord.error?

section

variable (t u : Trail)

@[simp] theorem log_append : (t ++ u).log = t.log ++ u.log := rfl

@[simp] theorem errors_append : (t ++ u).errors = t.errors ++ u.errors := rfl

@[simp] theorem answers_append : (t ++ u).answers = t.answers ++ u.answers := rfl

@[simp] theorem closes_append : (t ++ u).closes = t.closes ++ u.closes := rfl

@[simp] theorem interruptions_append :
    (t ++ u).interruptions = t.interruptions ++ u.interruptions := rfl

@[simp] theorem sightings_append : (t ++ u).sightings = t.sightings ++ u.sightings := rfl

@[simp] theorem connects_append : (t ++ u).connects = t.connects ++ u.connects :=
  List.filterMap_append

theorem append_empty : t ++ {} = t := by
  ext1 <;> simp

theorem append_assoc (w : Trail) : t ++ u ++ w = t ++ (u ++ w) := by
  ext1 <;> simp

end

end Trail

namespace Session

namespace Step

def log (x : Step σ) : List LogRecord :=
  x.after.journal.log.drop x.before.journal.log.length

def errors (x : Step σ) : List HandshakeError :=
  x.after.journal.errors.drop x.before.journal.errors.length

/-- The connection is with the handler: it was before the step, or it is handed over now. -/
def isWithHandler (x : Step σ) : Bool :=
  x.before.handOver.any HandOver.isConsulting || !x.visits.isEmpty

def answers (x : Step σ) : List HandlerAnswer :=
  match x.act with
  | .move (.answer answer) => [answer]
  | .attend handler => if x.isWithHandler then [handler.answer] else []
  | _ => []

def closes (x : Step σ) : List Bool :=
  match x.act with
  | .move (.close propagate) => [propagate]
  | .attend handler => if x.isWithHandler then handler.closes.toList else []
  | _ => []

def trail (x : Step σ) : Trail where
  log := x.log
  errors := x.errors
  answers := x.answers
  closes := x.closes
  interruptions := if x.isWithHandler then x.closes else []
  sightings := (x.log.filterMap LogRecord.connected?).map fun _ => x.after.context.state

end Step

namespace History

def trail (H : History σ) : Trail where
  log := H.steps.flatMap (·.trail.log)
  errors := H.steps.flatMap (·.trail.errors)
  answers := H.steps.flatMap (·.trail.answers)
  closes := H.steps.flatMap (·.trail.closes)
  interruptions := H.steps.flatMap (·.trail.interruptions)
  sightings := H.steps.flatMap (·.trail.sightings)

theorem trail_add (H : History σ) (x : Step σ) : (H.add x).trail = H.trail ++ x.trail := by
  ext1 <;> simp [trail, add]

end History

end Session

end SwitchSession
