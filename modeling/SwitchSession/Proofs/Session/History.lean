import Mathlib.Algebra.GroupWithZero.Nat
import SwitchSession.Session
import SwitchSession.Proofs.Engine.Notices

namespace SwitchSession

namespace Session

/-- What a connection can do next. -/
inductive Act
  | move (move : Move)
  /-- One of its requests is answered, whatever the others were or will be answered. -/
  | respond (response : Transport.Response)
  /-- Its engine runs until nothing is ready. -/
  | work
  /-- Its hand-over goes on as far as it can, with a handler that does not wait. -/
  | attend (handler : Handler)

section

variable [Admission σ]

def work (s : Session σ) : Session σ :=
  { s with handshake := s.handshake.run.1 }.heedAll s.handshake.run.2

def act? (s : Session σ) : Act → Option (Session σ)
  | .move move => s.move? move
  | .respond response => some { s with handshake := s.handshake.respond response }
  | .work => some s.work
  | .attend handler => some (s.advanceHandOver handler)

theorem run_eq (s : Session σ) (handler : Handler) :
    s.run handler = s.work.advanceHandOver handler :=
  rfl

end

/-- One act of a connection. -/
structure Step (σ : Type) where
  act : Act
  before : Session σ
  after : Session σ

namespace Step

def recorded (x : Step σ) (device : String) (event : SessionEvent) : Nat :=
  x.after.journal.statistics.count device event - x.before.journal.statistics.count device event

def visits (x : Step σ) : List Visit :=
  x.after.journal.visits.drop x.before.journal.visits.length

/-- The flag of a close that comes before the end of the handshake. -/
def close? (x : Step σ) : Option Bool :=
  match x.act, x.before.handshake.engine.outcome? with
  | .move (.close propagate), none => some propagate
  | _, _ => none

end Step

structure History (σ : Type) where
  opened : Transport
  steps : List (Step σ) := []

namespace History

def add (H : History σ) (x : Step σ) : History σ := { H with steps := H.steps ++ [x] }

/-- How often the connection itself recorded the event for the device. -/
def recorded (H : History σ) (device : String) (event : SessionEvent) : Nat :=
  (H.steps.map (·.recorded device event)).sum

/-- The visits that the handler owes to this connection. -/
def visits (H : History σ) : List Visit := H.steps.flatMap Step.visits

/-- The closes from outside that came before the end of the handshake. -/
def closes (H : History σ) : List Bool := H.steps.filterMap Step.close?

@[simp] theorem opened_add (H : History σ) (x : Step σ) : (H.add x).opened = H.opened := rfl

@[simp] theorem recorded_add (H : History σ) (x : Step σ) (device : String)
    (event : SessionEvent) :
    (H.add x).recorded device event = H.recorded device event + x.recorded device event := by
  simp [recorded, add]

@[simp] theorem visits_add (H : History σ) (x : Step σ) :
    (H.add x).visits = H.visits ++ x.visits := by
  simp [visits, add]

@[simp] theorem closes_add (H : History σ) (x : Step σ) :
    (H.add x).closes = H.closes ++ x.close?.toList := by
  cases hx : x.close? <;> simp [closes, add, hx]

end History

def accepted (c : CapabilitySet) (bitmapMode : Bool) (t : Transport) (limiter : σ)
    (sink : ErrorSink) (journal : Journal) : Session σ where
  handshake :=
    { engine := ({ machine := .fresh c bitmapMode } : Engine).tell .initiate
      transport := t
      limiter }
  sink
  journal

/-- A session that the connection can have reached by the acts of its history. In between, others
change what all share. -/
inductive Lives [Admission σ] : Session σ → History σ → Prop
  | accepted (c : CapabilitySet) (bitmapMode : Bool) (t : Transport) (limiter : σ)
      (sink : ErrorSink) (journal : Journal) :
    Lives (accepted c bitmapMode t limiter sink journal) { opened := t }
  | acts (hl : Lives s H) (act : Act) (ha : s.act? act = some s') : Lives s' (H.add ⟨act, s, s'⟩)
  | elsewhere (hl : Lives s H) (limiter : σ) (journal : Journal) :
    Lives { s with handshake := { s.handshake with limiter }, journal } H

end Session

end SwitchSession
