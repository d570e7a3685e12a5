import Mathlib.Data.List.Induction
import SwitchSession.Proofs.Handshake.Run

namespace SwitchSession

namespace Action

def isMessage : Action → Bool
  | .sendHello .. | .requestFeatures _ => true
  | _ => false

def isNotice : Action → Bool
  | .notifySuccess .. | .notifyFailure => true
  | _ => false

theorem isNotice_of_isMessage {a : Action} (h : a.isMessage) : a.isNotice = false := by
  cases a with
  | sendHello => rfl
  | requestFeatures => rfl
  | _ => cases h

end Action

theorem countP_isNotice_of_messages {as : List Action} (h : ∀ a ∈ as, a.isMessage) :
    as.countP Action.isNotice = 0 := by
  rw [List.countP_eq_zero]
  intro a ha
  simp [Action.isNotice_of_isMessage (h a ha)]

namespace Machine

structure Running (m : Machine) : Prop where
  phase : m.phase.isTerminal = false
  outcome : m.outcome = none

theorem Running.hearing {m : Machine} (h : m.Running) (hello : Hello) : (m.hearing hello).Running :=
  ⟨rfl, h.outcome⟩

theorem Running.rejecting {m : Machine} (h : m.Running) (remote : Version) :
    (m.rejecting remote).Running :=
  ⟨h.phase, h.outcome⟩

theorem Running.forgetting {m : Machine} (h : m.Running) : { m with pendingXid := none }.Running :=
  ⟨h.phase, h.outcome⟩

end Machine

structure Turn.Quiet (t : Turn) : Prop where
  running : t.machine.Running
  messages : ∀ a ∈ t.actions, a.isMessage

namespace Machine

theorem Running.quiet {m : Machine} (h : m.Running) (failure : Option HandshakeError) :
    Turn.Quiet { machine := m, failure } :=
  ⟨h, by simp⟩

theorem Sends.quiet {m : Machine} (ht : m.Sends v next t) (h : m.Running) : t.Quiet := by
  cases ht with
  | sent => exact ⟨⟨h.phase, h.outcome⟩, by simp [Action.isMessage]⟩
  | exhausted => exact h.quiet _

theorem Settles.quiet {m : Machine} (ht : m.Settles v t) (h : m.Running) : t.Quiet := by
  cases ht with
  | requested => exact ⟨⟨rfl, h.outcome⟩, by simp [Action.isMessage]⟩
  | exhausted => exact ⟨⟨rfl, h.outcome⟩, by simp⟩

theorem Meets.quiet {m : Machine} (ht : m.Meets v t) (h : m.Running) : t.Quiet := by
  cases ht with
  | met hx ht =>
    have hq := ht.quiet ⟨h.phase, h.outcome⟩
    refine ⟨hq.running, ?_⟩
    intro a ha
    rcases List.mem_cons.1 ha with rfl | ha
    · rfl
    · exact hq.messages a ha
  | exhausted => exact h.quiet _

theorem Compares.quiet {m : Machine} (ht : m.Compares remote t) (h : m.Running) : t.Quiet := by
  cases ht with
  | accepts _ ht => exact ht.quiet h
  | stalls => exact h.quiet _
  | refuses => exact (h.rejecting remote).quiet _
  | lowers _ _ _ ht => exact ht.quiet (h.rejecting remote)
  | meets _ _ ht => exact ht.quiet (h.rejecting remote)

theorem Negotiates.quiet {m : Machine} (hn : m.Negotiates e t) (h : m.Running) : t.Quiet := by
  cases hn with
  | opens _ ht => exact ht.quiet h
  | sharesNone => exact (h.hearing _).quiet _
  | answersBitmap _ _ _ _ ht => exact ht.quiet (h.hearing _)
  | agrees _ _ _ _ ht => exact ht.quiet (h.hearing _)
  | refuses => exact (h.hearing _).quiet _
  | answersVersion _ _ _ ht => exact ht.quiet (h.hearing _)
  | weighs _ _ ht => exact ht.quiet (h.hearing _)
  | resumes ht => exact ht.quiet h
  | confirms ht => exact ht.quiet h

theorem Handles.quiet_or_success {m : Machine} (hh : m.Handles granted e t) (h : m.Running) :
    t.Quiet ∨ ∃ version features, t.machine.phase = .success ∧
      t.machine.outcome = some (.success version features) ∧
      t.actions = [.notifySuccess features version] := by
  cases hh with
  | ignores => exact .inl (h.quiet _)
  | negotiates _ hn => exact .inl (hn.quiet h)
  | unsent => exact .inl (h.quiet _)
  | unanswered => exact .inl (h.forgetting.quiet _)
  | unasked => exact .inl (h.forgetting.quiet _)
  | denied => exact .inl (h.forgetting.quiet _)
  | admits => exact .inr ⟨_, _, rfl, rfl, rfl⟩
  | loses => exact .inl (h.quiet _)

def Decided (m : Machine) : Prop := m.outcome.isSome = m.phase.isTerminal

theorem Decided.running {m : Machine} (h : m.Decided) (ht : m.phase.isTerminal = false) :
    m.Running :=
  ⟨ht, by simpa [Decided, ht] using h⟩

theorem Running.decided {m : Machine} (h : m.Running) : m.Decided := by
  simp [Decided, h.phase, h.outcome]

def Enters (m m' : Machine) (p : Phase) : Prop := m.phase ≠ p ∧ m'.phase = p

/-- The actions tell of an outcome just when one is reached, and then of nothing else. -/
structure Atomic (m m' : Machine) (actions : List Action) : Prop where
  failure : m.Enters m' .failed → ∃ error,
    actions = [.report error, .notifyFailure] ∧ m'.outcome = some (.failure error)
  success : m.Enters m' .success → ∃ features version,
    actions = [.notifySuccess features version] ∧ m'.outcome = some (.success version features)
  otherwise : ¬ m.Enters m' .failed → ¬ m.Enters m' .success → ∀ a ∈ actions, a.isMessage

theorem not_enters_of_running {m m' : Machine} (h : m'.Running) (hp : p.isTerminal) :
    ¬ m.Enters m' p := by
  rintro ⟨_, rfl⟩
  rw [h.phase] at hp
  cases hp

theorem ne_of_not_terminal {m : Machine} (ht : m.phase.isTerminal = false) (hp : p.isTerminal) :
    m.phase ≠ p := by
  rintro rfl
  rw [ht] at hp
  cases hp

theorem Reacts.atomic {m : Machine} (h : m.Reacts granted e m' actions) (hd : m.Decided) :
    m.Atomic m' actions := by
  cases h with
  | ended =>
    exact ⟨fun h => absurd h.2 h.1, fun h => absurd h.2 h.1, fun _ _ => by simp⟩
  | goes ht hh hf =>
    rcases hh.quiet_or_success (hd.running ht) with hq | ⟨v, features, hp, ho, ha⟩
    · exact ⟨fun h => absurd h (not_enters_of_running hq.running rfl),
        fun h => absurd h (not_enters_of_running hq.running rfl), fun _ _ => hq.messages⟩
    · refine ⟨?_, fun _ => ⟨features, v, ha, ho⟩, fun _ hs => ?_⟩
      · rintro ⟨_, h⟩
        rw [hp] at h
        cases h
      · exact absurd ⟨ne_of_not_terminal ht rfl, hp⟩ hs
  | fails ht hh hf =>
    refine ⟨fun _ => ⟨_, rfl, rfl⟩, fun h => ?_, fun hs => ?_⟩
    · cases h.2
    · exact absurd ⟨ne_of_not_terminal ht rfl, rfl⟩ hs

theorem Reacts.decided {m : Machine} (h : m.Reacts granted e m' actions) (hd : m.Decided) :
    m'.Decided := by
  cases h with
  | ended => exact hd
  | goes ht hh hf =>
    rcases hh.quiet_or_success (hd.running ht) with hq | ⟨v, features, hp, ho, ha⟩
    · exact hq.running.decided
    · simp [Decided, hp, ho, Phase.isTerminal]
  | fails => rfl

theorem Reacts.countP_isNotice {m : Machine} (h : m.Reacts granted e m' actions)
    (hd : m.Decided) :
    m.phase.isTerminal.toNat + actions.countP Action.isNotice = m'.phase.isTerminal.toNat := by
  cases h with
  | ended => rfl
  | goes ht hh hf =>
    rcases hh.quiet_or_success (hd.running ht) with hq | ⟨v, features, hp, ho, ha⟩
    · rw [ht, hq.running.phase, countP_isNotice_of_messages hq.messages]
      rfl
    · rw [ht, hp, ha]
      rfl
  | fails ht => rw [ht]; rfl

theorem handle_of_terminal [Admission σ] {m : Machine} (ht : m.phase.isTerminal) (limiter : σ)
    (e : Event) : m.handle limiter e = { machine := m, limiter, actions := [] } := by
  have ha : m.asksAdmission e = false := by
    unfold asksAdmission
    split <;> simp [ht]
  simp [handle, ha, react, ht]

end Machine

def Outcome.phase : Outcome → Phase
  | .success .. => .success
  | .failure _ => .failed

namespace Machine

/-- The event ends the handshake, however far that has come: the connection is lost, a HELLO did not
go out, or the features that were asked for are here or will not come. -/
inductive Decides (m : Machine) (granted : Bool) : Event → Outcome → Prop
  | loses : Decides m granted .connectionLost (.failure .connectionClosed)
  | unsent : Decides m granted (.helloSent xid (.error cause) next)
      (.failure (.sendFailed .hello xid cause))
  | unanswered (hx : m.pendingXid = some xid) : Decides m granted (.features xid (.error cause))
      (.failure (.sendFailed .featuresRequest xid cause))
  | denied (hx : m.pendingXid = some xid) (hs : m.negotiation.settled = some v)
      (hg : granted = false) : Decides m granted (.features xid (.ok features))
      (.failure (.admissionDenied features.datapath))
  | admits (hx : m.pendingXid = some xid) (hs : m.negotiation.settled = some v)
      (hg : granted = true) : Decides m granted (.features xid (.ok features))
      (.success v features)

theorem Decides.react {m : Machine} {outcome : Outcome} (hd : m.Decides granted e outcome)
    (ht : m.phase.isTerminal = false) :
    (m.react granted e).1.outcome = some outcome ∧
      (m.react granted e).1.phase = outcome.phase := by
  rw [Machine.react, ht]
  cases hd with
  | loses => exact ⟨rfl, rfl⟩
  | unsent => exact ⟨rfl, rfl⟩
  | unanswered hx => simp [turn, onFeatures, conclude, hx, Outcome.phase]
  | denied hx hs hg => simp [turn, onFeatures, conclude, hx, hs, hg, Outcome.phase]
  | admits hx hs hg => simp [turn, onFeatures, conclude, hx, hs, hg, Outcome.phase]

end Machine

namespace Run

variable [Admission σ]

theorem Under.decided {admits : Run σ → Event → Prop} {r : Run σ}
    (hr : r.Under c bitmapMode admits) : r.machine.Decided := by
  induction hr with
  | start => rfl
  | feed _ _ ih => exact (reacts _ _).decided ih

theorem play_decided (c : CapabilitySet) (bitmapMode : Bool) (limiter : σ) (events : List Event) :
    ((fresh c bitmapMode limiter).play events).machine.Decided := by
  induction events using List.reverseRecOn with
  | nil => rfl
  | append_singleton events e ih =>
    rw [play_append]
    exact (reacts _ e).decided ih

theorem countP_isNotice_play (c : CapabilitySet) (bitmapMode : Bool) (limiter : σ)
    (events : List Event) :
    ((fresh c bitmapMode limiter).play events).actions.countP Action.isNotice =
      ((fresh c bitmapMode limiter).play events).machine.phase.isTerminal.toNat := by
  induction events using List.reverseRecOn with
  | nil => rfl
  | append_singleton events e ih =>
    rw [play_append, feed_actions, List.countP_append, ih]
    exact (reacts _ e).countP_isNotice (play_decided c bitmapMode limiter events)

theorem decided_of_mem_calls {limiter : σ} {call : Call σ}
    (hc : call ∈ ((fresh c bitmapMode limiter).play events).calls) : call.machine.Decided := by
  induction events using List.reverseRecOn with
  | nil => cases hc
  | append_singleton events e ih =>
    rw [play_append] at hc
    rcases List.mem_append.1 hc with hc | hc
    · exact ih hc
    · rw [List.mem_singleton.1 hc]
      exact play_decided c bitmapMode limiter events

/-- Over a whole run the listener is told of one outcome, as soon as there is one. The call that
reaches it does nothing else, and a machine that has one stays as it is. One that has none gets it
when the connection is lost, a HELLO does not go out, or its features request comes to an end. -/
theorem one_outcome (c : CapabilitySet) (bitmapMode : Bool) (limiter : σ) (events : List Event) :
    let r := (fresh c bitmapMode limiter).play events
    r.actions.countP Action.isNotice = r.machine.phase.isTerminal.toNat ∧
      r.machine.outcome.isSome = r.machine.phase.isTerminal ∧
      ∀ call ∈ r.calls, call.machine.Atomic call.after call.actions ∧
        (call.machine.phase.isTerminal → call.after = call.machine ∧
          call.reaction.limiter = call.limiter ∧ call.actions = []) ∧
        (call.machine.phase.isTerminal = false → ∀ outcome,
          call.machine.Decides (call.machine.grant call.limiter call.event) call.event outcome →
            call.after.outcome = some outcome ∧ call.after.phase = outcome.phase) := by
  refine ⟨countP_isNotice_play c bitmapMode limiter events,
    play_decided c bitmapMode limiter events, fun call hc => ⟨?_, fun ht => ?_, ?_⟩⟩
  · exact call.reacts.atomic (decided_of_mem_calls hc)
  · simp [Call.after, Call.actions, Call.reaction, Machine.handle_of_terminal ht]
  · intro ht outcome hd
    rw [call.after_eq]
    exact hd.react ht

end Run

end SwitchSession
