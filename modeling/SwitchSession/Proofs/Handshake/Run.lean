import SwitchSession.Admission.Limiter
import SwitchSession.Handshake.Rehearsal
import SwitchSession.Proofs.Handshake.Turn

namespace SwitchSession

namespace Machine

def grant [Admission σ] (m : Machine) (limiter : σ) (e : Event) : Bool :=
  if m.asksAdmission e then (Admission.tryAcquire limiter).1 else true

def failing (m : Machine) (error : HandshakeError) : Machine :=
  { m with phase := .failed, pendingXid := none, outcome := some (.failure error) }

inductive Reacts (m : Machine) (granted : Bool) (e : Event) : Machine → List Action → Prop
  | ended (ht : m.phase.isTerminal) : Reacts m granted e m []
  | goes (ht : m.phase.isTerminal = false) (h : m.Handles granted e t) (hf : t.failure = none) :
      Reacts m granted e t.machine t.actions
  | fails (ht : m.phase.isTerminal = false) (h : m.Handles granted e t)
      (hf : t.failure = some error) :
      Reacts m granted e (t.machine.failing error) [.report error, .notifyFailure]

theorem react_reacts (m : Machine) (granted : Bool) (e : Event) :
    m.Reacts granted e (m.react granted e).1 (m.react granted e).2 := by
  unfold react
  cases ht : m.phase.isTerminal with
  | true => exact .ended ht
  | false =>
    have h := m.turn_handles granted e
    unfold conclude
    cases hf : (m.turn granted e).failure with
    | none => exact .goes ht h hf
    | some error => exact .fails ht h hf

theorem handle_reacts [Admission σ] (m : Machine) (limiter : σ) (e : Event) :
    m.Reacts (m.grant limiter e) e (m.handle limiter e).machine (m.handle limiter e).actions := by
  unfold grant handle
  split
  · exact m.react_reacts (Admission.tryAcquire limiter).1 e
  · exact m.react_reacts true e

theorem handle_machine [Admission σ] (m : Machine) (limiter : σ) (e : Event) :
    (m.handle limiter e).machine = (m.react (m.grant limiter e) e).1 := by
  unfold handle grant
  split <;> rfl

end Machine

structure Call (σ : Type) where
  machine : Machine
  limiter : σ
  event : Event

namespace Call

variable [Admission σ]

def reaction (c : Call σ) : Reaction σ := c.machine.handle c.limiter c.event

def after (c : Call σ) : Machine := c.reaction.machine

def actions (c : Call σ) : List Action := c.reaction.actions

/-- The HELLO that the call takes in. With a version settled or the handshake over it takes none. -/
def heard? (c : Call σ) : Option Hello :=
  match c.event with
  | .hello h =>
    if c.machine.negotiation.settled.isSome || c.machine.phase.isTerminal then none else some h
  | _ => none

theorem after_eq (c : Call σ) :
    c.after = (c.machine.react (c.machine.grant c.limiter c.event) c.event).1 :=
  c.machine.handle_machine c.limiter c.event

theorem reacts (c : Call σ) :
    c.machine.Reacts (c.machine.grant c.limiter c.event) c.event c.after c.actions :=
  c.machine.handle_reacts c.limiter c.event

end Call

structure Run (σ : Type) where
  machine : Machine
  limiter : σ
  calls : List (Call σ) := []

namespace Run

def fresh (c : CapabilitySet) (bitmapMode : Bool) (limiter : σ) : Run σ :=
  { machine := .fresh c bitmapMode, limiter }

variable [Admission σ]

def call (r : Run σ) (e : Event) : Call σ := ⟨r.machine, r.limiter, e⟩

def feed (r : Run σ) (e : Event) : Run σ :=
  { machine := (r.call e).after
    limiter := (r.call e).reaction.limiter
    calls := r.calls ++ [r.call e] }

def play (r : Run σ) (events : List Event) : Run σ := events.foldl feed r

def actions (r : Run σ) : List Action := r.calls.flatMap Call.actions

def heard (r : Run σ) : List Hello := r.calls.filterMap Call.heard?

/-- The HELLOs sent, each with the continuation that its completion is to bring back. -/
def issued (r : Run σ) : List (Xid × Continuation) := r.actions.filterMap Rehearsal.sentHello?

/-- The HELLOs whose completions came in, in the order in which these came. -/
def completed (r : Run σ) : List (Xid × Continuation) :=
  r.calls.filterMap fun c => match c.event with
    | .helloSent xid _ next => some (xid, next)
    | _ => none

@[simp] theorem feed_actions (r : Run σ) (e : Event) :
    (r.feed e).actions = r.actions ++ (r.call e).actions := by
  simp [actions, feed]

@[simp] theorem feed_heard (r : Run σ) (e : Event) :
    (r.feed e).heard = r.heard ++ (r.call e).heard?.toList := by
  cases h : (r.call e).heard? <;> simp [heard, feed, h]

@[simp] theorem feed_issued (r : Run σ) (e : Event) :
    (r.feed e).issued = r.issued ++ (r.call e).actions.filterMap Rehearsal.sentHello? := by
  simp [issued]

theorem reacts (r : Run σ) (e : Event) :
    r.machine.Reacts (r.machine.grant r.limiter e) e (r.feed e).machine (r.call e).actions :=
  (r.call e).reacts

theorem play_append (r : Run σ) (es : List Event) (e : Event) :
    r.play (es ++ [e]) = (r.play es).feed e := by
  simp [play]

/-- The runs of fresh machines in which `admits` lets every event in at its time. -/
inductive Under (c : CapabilitySet) (bitmapMode : Bool) (admits : Run σ → Event → Prop) :
    Run σ → Prop
  | start (limiter : σ) : Under c bitmapMode admits (fresh c bitmapMode limiter)
  | feed (hr : Under c bitmapMode admits r) (ha : admits r e) : Under c bitmapMode admits (r.feed e)

/-- Completions only of HELLOs that were sent, at any time and any number of times. -/
def Completes (r : Run σ) : Event → Prop
  | .helloSent xid _ next => (xid, next) ∈ r.issued
  | _ => True

/-- Completions that succeed, at most one of each HELLO that was sent, and in the order in which the
HELLOs were sent. The completion of a HELLO can fail to come. -/
def CompletesInOrder (r : Run σ) : Event → Prop
  | .helloSent xid result next =>
    result = .ok () ∧ (r.completed ++ [(xid, next)]).Sublist r.issued
  | _ => True

theorem CompletesInOrder.completes {r : Run σ} (h : r.CompletesInOrder e) : r.Completes e := by
  cases e with
  | helloSent xid result next =>
    apply h.2.subset
    exact List.mem_append_right r.completed List.mem_cons_self
  | _ => trivial

theorem Under.mono {admits admits' : Run σ → Event → Prop} (h : Under c bitmapMode admits r)
    (ha : ∀ {r e}, admits r e → admits' r e) : Under c bitmapMode admits' r := by
  induction h with
  | start limiter => exact .start limiter
  | feed _ h ih => exact .feed ih (ha h)

theorem Under.play (h : Under c bitmapMode (fun (_ : Run σ) _ => True) r) (events : List Event) :
    Under c bitmapMode (fun _ _ => True) (r.play events) := by
  induction events generalizing r with
  | nil => exact h
  | cons e events ih => exact ih (.feed h trivial)

theorem under_play (c : CapabilitySet) (bitmapMode : Bool) (limiter : σ) (events : List Event) :
    Under c bitmapMode (fun _ _ => True) ((fresh c bitmapMode limiter).play events) :=
  (Under.start limiter).play events

end Run

def CapabilitySet.fourOne : CapabilitySet := ⟨[4, 1], by decide, by decide⟩

/-- A peer that goes on to a lower version before the first answer to it is delivered. -/
def Run.impatient : Run Limiter :=
  (fresh .fourOne true .unlimited).play
    [.hello ⟨5, 7, []⟩, .hello ⟨2, 9, [.versionBitmap (.ofVersions [4])]⟩]

end SwitchSession
