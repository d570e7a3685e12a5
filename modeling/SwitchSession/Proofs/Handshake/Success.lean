import Mathlib.Data.List.Induction
import SwitchSession.Proofs.Handshake.Messages

namespace SwitchSession

/-- The events that a handshake does not survive: the connection is lost, or a HELLO is. -/
def Event.Breaks : Event → Prop
  | .connectionLost => True
  | .helloSent _ (.error _) _ => True
  | _ => False

namespace Machine

theorem Speaks.not_mem_notifySuccess {m : Machine} (hs : m.Speaks t) :
    .notifySuccess features version ∉ t.actions := by
  cases hs <;> simp

theorem Handles.of_notifySuccess {m : Machine} (hh : m.Handles granted e t)
    (hf : t.failure = none) (hn : .notifySuccess features version ∈ t.actions) :
    ∃ x, e = .features x (.ok features) ∧ m.pendingXid = some x ∧
      m.negotiation.settled = some version ∧ granted = true ∧
      t.machine.negotiation = m.negotiation := by
  cases hh with
  | negotiates _ hm => exact absurd hn (hm.speaks hf).not_mem_notifySuccess
  | admits hx hs hg =>
    cases List.mem_singleton.1 hn
    exact ⟨_, rfl, hx, hs, hg, rfl⟩
  | _ => cases hn

theorem Handles.not_breaks {m : Machine} (hh : m.Handles granted e t) (hf : t.failure = none) :
    ¬ e.Breaks := by
  cases hh with
  | ignores hi =>
    cases e with
    | helloSent xid result next =>
      cases result with
      | error => exact hi.elim
      | ok => exact id
    | connectionLost => exact hi.elim
    | _ => exact id
  | negotiates _ hn => cases hn <;> exact id
  | unsent => cases hf
  | loses => cases hf
  | _ => exact id

theorem asksAdmission_of_pending {m : Machine} (ht : m.phase.isTerminal = false)
    (hx : m.pendingXid = some x) (hs : m.negotiation.settled = some v) (features : FeatureSet) :
    m.asksAdmission (.features x (.ok features)) = true := by
  simp [asksAdmission, ht, hx, hs]

theorem tryAcquire_of_grant [Admission σ] {m : Machine} {limiter : σ}
    (ha : m.asksAdmission e = true) (hg : m.grant limiter e = true) :
    Admission.tryAcquire limiter = (true, (m.handle limiter e).limiter) := by
  simp only [grant, ha, if_true] at hg
  simp only [handle, ha, if_true]
  rw [← hg]

end Machine

namespace Run

variable [Admission σ] {r : Run σ} {e : Event}

theorem not_breaks_of_running (ht : (r.feed e).machine.phase.isTerminal = false) :
    r.machine.phase.isTerminal = false ∧ ¬ e.Breaks := by
  have h := r.reacts e
  generalize (r.feed e).machine = m at h ht
  generalize (r.call e).actions = as at h
  cases h with
  | ended hend => rw [ht] at hend; cases hend
  | goes hr hh hf => exact ⟨hr, hh.not_breaks hf⟩
  | fails => cases ht

theorem unbroken_of_running (ht : (r.play events).machine.phase.isTerminal = false) :
    ∀ e ∈ events, ¬ e.Breaks := by
  induction events using List.reverseRecOn with
  | nil => rintro _ ⟨⟩
  | append_singleton events last ih =>
    rw [play_append] at ht
    obtain ⟨ht, hb⟩ := not_breaks_of_running ht
    intro e he
    rcases List.mem_append.1 he with he | he
    · exact ih ht e he
    · rw [List.mem_singleton.1 he]
      exact hb

/-- Success is told only on the reply to the request that the run has sent, its only one, for the
version that it asked with; it is granted in the same call, and nothing has broken before. -/
theorem success_answers_request (c : CapabilitySet) (bitmapMode : Bool) (limiter : σ)
    (events : List Event) (e : Event)
    (hn : .notifySuccess features version ∈
      (((fresh c bitmapMode limiter).play events).call e).actions) :
    let r := (fresh c bitmapMode limiter).play events
    ∃ x, e = .features x (.ok features) ∧ r.requests = [⟨version, x⟩] ∧
      (r.feed e).machine.negotiation.settled = some version ∧
      r.machine.asksAdmission e = true ∧
      Admission.tryAcquire r.limiter = (true, (r.feed e).limiter) ∧
      ∀ earlier ∈ events, ¬ earlier.Breaks := by
  intro r
  have hr : r.Under c bitmapMode fun _ _ => True := under_play c bitmapMode limiter events
  have h := r.reacts e
  generalize hm : (r.feed e).machine = m at h
  generalize ha : (r.call e).actions = as at h
  rw [show (((fresh c bitmapMode limiter).play events).call e).actions = as from ha] at hn
  cases h with
  | ended => cases hn
  | fails => simp at hn
  | goes ht hh hf =>
    obtain ⟨x, he, hx, hs, hg, hk⟩ := hh.of_notifySuccess hf hn
    obtain ⟨v, hv, hq⟩ := hr.asks.pending x hx
    have hask : r.machine.asksAdmission e = true :=
      he ▸ Machine.asksAdmission_of_pending ht hx hs features
    rw [hs] at hv
    cases hv
    exact ⟨x, he, hq, hk ▸ hs, hask, Machine.tryAcquire_of_grant hask hg,
      unbroken_of_running ht⟩

/-- A peer that takes the first proposal, with a reply to nothing before and after. -/
def agreement : List Event :=
  [.features 21 (.ok { datapath := 7 }), .initiate, .hello ⟨4, 7, []⟩,
    .features 21 (.ok { datapath := 7 })]

def agreed : Run Limiter := (fresh .fourOne true (Limiter.fixed true 0)).play agreement

def agreedReply : Event := .features 22 (.ok { datapath := 42 })

theorem success_answers_request_agreed :
    Action.notifySuccess { datapath := 42 } 4 ∈ (agreed.call agreedReply).actions ∧
      ∃ x, agreedReply = .features x (.ok { datapath := 42 }) ∧ agreed.requests = [⟨4, x⟩] ∧
        (agreed.feed agreedReply).machine.negotiation.settled = some 4 ∧
        agreed.machine.asksAdmission agreedReply = true ∧
        Admission.tryAcquire agreed.limiter = (true, (agreed.feed agreedReply).limiter) ∧
        ∀ earlier ∈ agreement, ¬ earlier.Breaks := by
  have hn : Action.notifySuccess { datapath := 42 } 4 ∈ (agreed.call agreedReply).actions := by
    decide
  exact ⟨hn, success_answers_request .fourOne true (Limiter.fixed true 0) agreement _ hn⟩

end Run

end SwitchSession
