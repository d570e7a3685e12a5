import Mathlib.Data.List.Induction
import SwitchSession.Proofs.Handshake.Messages

namespace SwitchSession

namespace Phase

/-- How late a phase is. Success and failure are equally late. -/
def rank : Phase → Nat
  | .awaitingFirstHello => 0
  | .negotiating => 1
  | .versionSettled => 2
  | .featuresRequested => 3
  | .success | .failed => 4

def Precedes (p q : Phase) : Prop := p = q ∨ p.rank < q.rank

theorem Precedes.refl (p : Phase) : p.Precedes p := .inl rfl

theorem Precedes.trans {p q r : Phase} (h : p.Precedes q) (h' : q.Precedes r) : p.Precedes r := by
  rcases h with rfl | h
  · exact h'
  · rcases h' with rfl | h'
    · exact .inr h
    · exact .inr (h.trans h')

theorem rank_lt_of_open {p q : Phase} (hp : p.isTerminal = false) (hq : q.isTerminal) :
    p.rank < q.rank := by
  have hr : q.rank = 4 := by
    cases q with
    | success => rfl
    | failed => rfl
    | _ => cases hq
  cases p with
  | success => cases hp
  | failed => cases hp
  | _ => rw [hr]; decide

end Phase

namespace Machine

structure Coherent (m : Machine) : Prop where
  settled : m.phase.isTerminal = false →
    (m.negotiation.settled.isSome ↔ m.phase = .featuresRequested)
  pending : m.phase.isTerminal = false → (m.pendingXid.isSome ↔ m.phase = .featuresRequested)
  requested : m.phase ≠ .versionSettled
  idle : m.phase.isTerminal → m.pendingXid = none
  success : m.phase = .success → ∃ v features,
    m.outcome = some (.success v features) ∧ m.negotiation.settled = some v

/-- The machine exchanges HELLOs. -/
structure Exchanges (m : Machine) : Prop where
  phase : m.phase = .awaitingFirstHello ∨ m.phase = .negotiating
  settled : m.negotiation.settled = none
  pending : m.pendingXid = none

theorem Exchanges.coherent {m : Machine} (h : m.Exchanges) : m.Coherent := by
  obtain ⟨hp, hs, hx⟩ := h
  rcases hp with hp | hp <;> constructor <;> simp [hp, hs, hx, Phase.isTerminal]

theorem Exchanges.rank_le {m : Machine} (h : m.Exchanges) : m.phase.rank ≤ 1 := by
  rcases h.phase with hp | hp <;> simp [hp, Phase.rank]

theorem Exchanges.taking {m : Machine} (h : m.Exchanges) (e : Event) : (m.taking e).Exchanges := by
  cases e with
  | hello => exact ⟨.inr rfl, h.settled, h.pending⟩
  | _ => exact h

theorem Exchanges.precedes_taking {m : Machine} (h : m.Exchanges) (e : Event) :
    m.phase.Precedes (m.taking e).phase := by
  cases e with
  | hello =>
    rcases h.phase with hp | hp
    · exact .inr (by rw [hp]; exact Nat.one_pos)
    · exact .inl hp
  | _ => exact .refl _

theorem Coherent.exchanges {m : Machine} (h : m.Coherent) (ht : m.phase.isTerminal = false)
    (hs : m.negotiation.settled = none) : m.Exchanges := by
  have hf : m.phase ≠ .featuresRequested := by
    rw [Ne, ← h.settled ht, hs]
    exact Bool.noConfusion
  refine ⟨?_, hs, ?_⟩
  · have hv := h.requested
    cases hp : m.phase with
    | awaitingFirstHello => exact .inl rfl
    | negotiating => exact .inr rfl
    | versionSettled => exact absurd hp hv
    | featuresRequested => exact absurd hp hf
    | success => rw [hp] at ht; cases ht
    | failed => rw [hp] at ht; cases ht
  · rw [← Option.not_isSome_iff_eq_none, h.pending ht]
    exact hf

theorem Coherent.settled_of_pending {m : Machine} (h : m.Coherent) (hx : m.pendingXid = some x) :
    m.phase.isTerminal = false ∧ ∃ v, m.negotiation.settled = some v := by
  have ht : m.phase.isTerminal = false := by
    rw [← Bool.not_eq_true]
    intro ht
    rw [h.idle ht] at hx
    cases hx
  have hf : m.phase = .featuresRequested := (h.pending ht).1 (by rw [hx]; rfl)
  exact ⟨ht, Option.isSome_iff_exists.1 ((h.settled ht).2 hf)⟩

theorem coherent_requesting (m : Machine) (v : Version) (xid : Xid) :
    ((m.fixing v).requesting xid).Coherent := by
  constructor <;> simp [requesting, fixing, Phase.isTerminal]

theorem coherent_failing (m : Machine) (error : HandshakeError) : (m.failing error).Coherent := by
  constructor <;> simp [failing, Phase.isTerminal]

/-- A move of the negotiation that does not fail leaves it open or waits for features. -/
theorem Speaks.exchanges_or_requests {m : Machine} (ht : m.Speaks t) (h : m.Exchanges) :
    (t.machine.Exchanges ∧ t.machine.phase = m.phase) ∨
      t.machine.Coherent ∧ t.machine.phase = .featuresRequested := by
  cases ht with
  | proposes => exact .inl ⟨⟨h.phase, h.settled, h.pending⟩, rfl⟩
  | settles => exact .inr ⟨coherent_requesting _ _ _, rfl⟩
  | meets => exact .inr ⟨coherent_requesting _ _ _, rfl⟩

theorem Negotiates.coherent {m : Machine} (hn : m.Negotiates e t) (h : m.Exchanges)
    (hf : t.failure = none) : t.machine.Coherent ∧ m.phase.Precedes t.machine.phase := by
  rcases (hn.speaks hf).exchanges_or_requests (h.taking e) with ⟨he, hp⟩ | ⟨hc, hp⟩
  · exact ⟨he.coherent, hp ▸ h.precedes_taking e⟩
  · refine ⟨hc, .inr ?_⟩
    rw [hp]
    exact Nat.lt_of_le_of_lt h.rank_le (by decide)

theorem Handles.coherent {m : Machine} (hh : m.Handles granted e t) (h : m.Coherent)
    (ht : m.phase.isTerminal = false) (hf : t.failure = none) :
    t.machine.Coherent ∧ m.phase.Precedes t.machine.phase := by
  cases hh with
  | ignores => exact ⟨h, .refl _⟩
  | negotiates hs hn => exact hn.coherent (h.exchanges ht hs) hf
  | unsent => cases hf
  | unanswered => cases hf
  | unasked hx hs =>
    -- a machine that waits for features has settled
    obtain ⟨_, v, hv⟩ := h.settled_of_pending hx
    rw [hs] at hv
    cases hv
  | denied => cases hf
  | admits hx hs =>
    refine ⟨?_, .inr (Phase.rank_lt_of_open ht rfl)⟩
    constructor <;> simp [Phase.isTerminal, hs]
  | loses => cases hf

theorem Reacts.coherent {m : Machine} (h : m.Reacts granted e m' actions) (hc : m.Coherent) :
    m'.Coherent ∧ m.phase.Precedes m'.phase := by
  cases h with
  | ended => exact ⟨hc, .refl _⟩
  | goes ht hh hf => exact hh.coherent hc ht hf
  | fails ht => exact ⟨coherent_failing _ _, .inr (Phase.rank_lt_of_open ht rfl)⟩

theorem taking_bitmapMode_le (m : Machine) (e : Event)
    (h : (m.taking e).negotiation.bitmapMode = true) : m.negotiation.bitmapMode = true := by
  cases e with
  | hello hello => exact (Bool.and_eq_true_iff.1 h).1
  | _ => exact h

theorem Handles.bitmapMode {m : Machine} (hh : m.Handles granted e t)
    (h : t.machine.negotiation.bitmapMode = true) : m.negotiation.bitmapMode = true := by
  rcases hh.passes with ⟨_, hn⟩ | ⟨hn, _⟩
  · exact m.taking_bitmapMode_le e (hn.keeps.bitmapMode ▸ h)
  · exact hn ▸ h

theorem Reacts.bitmapMode {m : Machine} (h : m.Reacts granted e m' actions)
    (hb : m'.negotiation.bitmapMode = true) : m.negotiation.bitmapMode = true := by
  cases h with
  | ended => exact hb
  | goes _ hh => exact hh.bitmapMode hb
  | fails _ hh => exact hh.bitmapMode hb

/-- A reply to the open request ends the handshake, whatever it brings. -/
theorem Reacts.ends {m : Machine} (h : m.Reacts granted (.features x result) m' actions)
    (hc : m.Coherent) (hx : m.pendingXid = some x) : m'.phase.isTerminal := by
  obtain ⟨_, v, hv⟩ := hc.settled_of_pending hx
  cases h with
  | ended ht => exact ht
  | goes _ hh hf =>
    cases hh with
    | ignores hi => exact absurd hx hi
    | negotiates hs hn => cases hn
    | unanswered => cases hf
    | unasked _ hs => rw [hs] at hv; cases hv
    | denied => cases hf
    | admits => rfl
  | fails => rfl

theorem coherent_fresh (c : CapabilitySet) (bitmapMode : Bool) : (fresh c bitmapMode).Coherent :=
  Exchanges.coherent ⟨.inl rfl, rfl, rfl⟩

end Machine

namespace Run

variable [Admission σ]

/-- What later calls of a run keep of the machine. -/
structure Onward (r r' : Run σ) : Prop where
  coherent : r'.machine.Coherent
  phase : r.machine.phase.Precedes r'.machine.phase
  bitmapMode : r'.machine.negotiation.bitmapMode = true → r.machine.negotiation.bitmapMode = true

theorem onward_play {r : Run σ} (h : r.machine.Coherent) (events : List Event) :
    r.Onward (r.play events) := by
  induction events using List.reverseRecOn with
  | nil => exact ⟨h, .refl _, id⟩
  | append_singleton events e ih =>
    have hr := (r.play events).reacts e
    rw [play_append]
    exact ⟨(hr.coherent ih.coherent).1, ih.phase.trans (hr.coherent ih.coherent).2,
      ih.bitmapMode ∘ hr.bitmapMode⟩

/-- In every open state a version is settled just when features are waited for, and just in the
phase of the features request; a closed one waits for nothing, and its success has the settled
version. On the way phases only go forward and bitmap mode only goes off. The reply that is waited
for always finds a settled version, and it ends the handshake. -/
theorem phases_go_forward (c : CapabilitySet) (bitmapMode : Bool) (limiter : σ)
    (earlier later : List Event) :
    let r := (fresh c bitmapMode limiter).play earlier
    let m := r.machine
    let m' := (r.play later).machine
    (m.phase.isTerminal = false →
        (m.negotiation.settled.isSome ↔ m.phase = .featuresRequested) ∧
        (m.pendingXid.isSome ↔ m.phase = .featuresRequested)) ∧
      m.phase ≠ .versionSettled ∧
      (m.phase.isTerminal → m.pendingXid = none) ∧
      (m.phase = .success → ∃ v features,
        m.outcome = some (.success v features) ∧ m.negotiation.settled = some v) ∧
      m.phase.Precedes m'.phase ∧
      (m'.negotiation.bitmapMode = true → m.negotiation.bitmapMode = true) ∧
      ∀ x result, m.pendingXid = some x → m.negotiation.settled.isSome ∧
        (r.feed (.features x result)).machine.phase.isTerminal := by
  intro r m m'
  have h : m.Coherent := (onward_play (Machine.coherent_fresh c bitmapMode) earlier).coherent
  have hlater : r.Onward (r.play later) := onward_play h later
  refine ⟨fun ht => ⟨h.settled ht, h.pending ht⟩, h.requested, h.idle, h.success, hlater.phase,
    hlater.bitmapMode, fun x result hx => ⟨?_, (r.reacts _).ends h hx⟩⟩
  obtain ⟨_, v, hv⟩ := h.settled_of_pending hx
  rw [hv]
  rfl

end Run

end SwitchSession
