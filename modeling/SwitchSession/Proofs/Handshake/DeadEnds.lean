import Mathlib.Data.Fintype.Card
import Mathlib.Data.List.Induction
import SwitchSession.Proofs.Handshake.Convergence
import SwitchSession.Proofs.Handshake.Outcome
import SwitchSession.Proofs.Handshake.Xids

/-!
Two of the ends that a handshake provides for are never reached. A negotiation does not stall,
because a version found too low is answered at or below it, so that its repetition is accepted. The
ids do not run out, because the messages of a run fit into the headroom.
-/

namespace SwitchSession

theorem CapabilitySet.length_versions_le (c : CapabilitySet) : c.versions.length ≤ 256 := by
  have hd : c.versions.Nodup := c.descending.imp LT.lt.ne'
  simpa using hd.length_le_card

theorem Xid.next?_ne_none {x : Xid} (hx : x.val < 4294967295) : x.next? ≠ none :=
  mt Xid.next?_eq_none_iff.1 hx.ne

/-- The errors that a handshake can end with. -/
def HandshakeError.Occurs : HandshakeError → Prop
  | .noCommonVersion _ | .sendFailed .. | .admissionDenied _ | .connectionClosed => True
  | _ => False

/-- The last proposal is at or below the version last found too low. -/
def Negotiation.Undercuts (n : Negotiation) : Prop :=
  ∀ w, n.received = some w → ∃ p, n.proposed = some p ∧ p ≤ w

/-- The proposal that answered a version found too low is not above it. -/
theorem Negotiation.Undercuts.ceiling_le {m : Machine} (hu : m.negotiation.Undercuts)
    (hs : m.negotiation.received = some w) : m.ceiling ≤ w := by
  obtain ⟨p, hp, hle⟩ := hu w hs
  rwa [Machine.ceiling_of_proposed hp]

/-- The turn fails for want of a version and has used no id. -/
structure Turn.Refuses (t : Turn) (m : Machine) : Prop where
  failure : ∃ detail, t.failure = some (.noCommonVersion detail)
  xid : t.machine.negotiation.xid = m.negotiation.xid

namespace Machine

/-- The counter can go up twice and stay below its maximum. -/
def HasRoom (m : Machine) : Prop := m.negotiation.xid.val + 2 < 4294967295

theorem Sends.goes {m : Machine} (ht : m.Sends v next t)
    (hx : m.negotiation.xid.val < 4294967295) : t.failure = none := by
  cases ht with
  | sent => rfl
  | exhausted hn => exact absurd hn (Xid.next?_ne_none hx)

theorem Settles.goes {m : Machine} (ht : m.Settles v t)
    (hx : m.negotiation.xid.val < 4294967295) : t.failure = none := by
  cases ht with
  | requested => rfl
  | exhausted hn => exact absurd hn (Xid.next?_ne_none hx)

theorem HasRoom.lt {m : Machine} (h : m.HasRoom) : m.negotiation.xid.val < 4294967295 :=
  Nat.lt_of_le_of_lt (Nat.le_add_right _ 2) h

theorem Meets.goes {m : Machine} (ht : m.Meets v t) (hx : m.HasRoom) : t.failure = none := by
  cases ht with
  | @met xid _ hn ht =>
    have hn : xid.val = m.negotiation.xid.val + 1 := Xid.next?_eq_some_iff.1 hn
    have hy : xid.val < 4294967295 := by unfold HasRoom at hx; omega
    exact ht.goes hy
  | exhausted hn => exact absurd hn (Xid.next?_ne_none hx.lt)

theorem Compares.goes_or_refuses {m : Machine} (ht : m.Compares remote t) (hx : m.HasRoom)
    (hu : m.negotiation.Undercuts) : t.failure = none ∨ t.Refuses m := by
  cases ht with
  | accepts _ ht => exact .inl (ht.goes hx.lt)
  | stalls hr hs => exact absurd (hu.ceiling_le hs) (not_le_of_gt hr)
  | refuses => exact .inr ⟨⟨_, rfl⟩, rfl⟩
  | lowers _ _ _ ht => exact .inl (ht.goes hx.lt)
  | meets _ _ ht => exact .inl (ht.goes hx)

theorem Negotiates.goes_or_refuses {m : Machine} (hn : m.Negotiates e t)
    (hx : (m.taking e).HasRoom) (hu : m.negotiation.Undercuts) :
    t.failure = none ∨ t.Refuses (m.taking e) := by
  cases hn with
  | opens _ ht => exact .inl (ht.goes hx.lt)
  | sharesNone => exact .inr ⟨⟨_, rfl⟩, rfl⟩
  | answersBitmap _ _ _ _ ht => exact .inl (ht.goes hx.lt)
  | agrees _ _ _ _ ht => exact .inl (ht.goes hx.lt)
  | refuses => exact .inr ⟨⟨_, rfl⟩, rfl⟩
  | answersVersion _ _ _ ht => exact .inl (ht.goes hx.lt)
  | weighs _ _ ht => exact ht.goes_or_refuses hx hu
  | resumes ht => exact ht.goes_or_refuses hx hu
  | confirms ht => exact .inl (ht.goes hx.lt)

theorem Handles.occurs {m : Machine} (hh : m.Handles granted e t) (hx : (m.taking e).HasRoom)
    (hu : m.negotiation.settled = none → m.negotiation.Undercuts)
    (hf : t.failure = some error) : error.Occurs := by
  cases hh with
  | ignores => cases hf
  | negotiates hs hn =>
    rcases hn.goes_or_refuses hx (hu hs) with hg | ⟨⟨_, hr⟩, _⟩
    · rw [hg] at hf
      cases hf
    · rw [hr] at hf
      cases hf
      trivial
  | unasked => cases hf
  | admits => cases hf
  | _ => cases hf; trivial

theorem Handles.outcome_ne_failure {m : Machine} (hh : m.Handles granted e t) (hm : m.Running) :
    t.machine.outcome ≠ some (.failure error) := by
  rcases hh.quiet_or_success hm with hq | ⟨_, _, _, ho, _⟩
  · simp [hq.running.outcome]
  · simp [ho]

/-- The events that make a machine weigh the version against its proposal. -/
def Weighs (m : Machine) (remote : Version) : Event → Prop
  | .hello h => h.version = remote ∧ (m.hearing h).negotiation.bitmapMode = false
  | .helloSent _ (.ok ()) (.compare v) => v = remote
  | _ => False

theorem Compares.settles {m : Machine} (ht : m.Compares remote t)
    (hp : m.negotiation.proposed = some p) (hle : p ≤ remote) :
    t.machine.negotiation.settled = some p := by
  have hc := ceiling_of_proposed hp
  have hnot : ¬ remote < m.ceiling := hc ▸ not_lt.2 hle
  cases ht with
  | accepts _ ht => cases ht <;> exact congrArg some hc
  | stalls hr => exact absurd hr hnot
  | refuses hr => exact absurd hr hnot
  | lowers hr => exact absurd hr hnot
  | meets hr => exact absurd hr hnot

theorem Weighs.bitmapMode {m : Machine} (hw : m.Weighs remote (.hello h))
    (hb : h.bitmaps? = some bs) : m.negotiation.bitmapMode ≠ true := by
  simpa [hearing, hb] using hw.2

theorem Negotiates.settles {m : Machine} (hn : m.Negotiates e t) (hw : m.Weighs remote e)
    (hp : m.negotiation.proposed = some p) (hle : p ≤ remote) :
    t.machine.negotiation.settled = some p := by
  cases hn with
  | opens => exact hw.elim
  | sharesNone hm hb => exact absurd hm (hw.bitmapMode hb)
  | answersBitmap hm hb => exact absurd hm (hw.bitmapMode hb)
  | agrees hm hb => exact absurd hm (hw.bitmapMode hb)
  | refuses _ hn => rw [hp] at hn; cases hn
  | answersVersion _ hn => rw [hp] at hn; cases hn
  | weighs _ _ ht => exact ht.settles (m := m.hearing _) hp (hw.1 ▸ hle)
  | resumes ht => exact ht.settles hp (Eq.symm hw ▸ hle)
  | confirms => exact hw.elim

theorem Weighs.not_ignores {m : Machine} (hw : m.Weighs remote e)
    (hs : m.negotiation.settled = none) : ¬ m.Ignores e := by
  cases e with
  | hello h => simp [Ignores, hs]
  | helloSent xid result next =>
    cases result with
    | error => exact hw.elim
    | ok =>
      cases next with
      | compare => simp [Ignores, hs]
      | _ => exact hw.elim
  | _ => exact hw.elim

theorem Handles.settles {m : Machine} (hh : m.Handles granted e t)
    (hs : m.negotiation.settled = none) (hw : m.Weighs remote e)
    (hp : m.negotiation.proposed = some p) (hle : p ≤ remote) :
    t.machine.negotiation.settled = some p := by
  cases hh with
  | ignores hi => exact absurd hi (hw.not_ignores hs)
  | negotiates _ hn => exact hn.settles hw hp hle
  | _ => exact hw.elim

end Machine

namespace Run

variable [Admission σ] {r : Run σ} {e : Event}

theorem settles_of_weighs (hs : r.machine.negotiation.settled = none)
    (ht : r.machine.phase.isTerminal = false) (hw : r.machine.Weighs remote e)
    (hp : r.machine.negotiation.proposed = some p) (hle : p ≤ remote) :
    (r.feed e).machine.negotiation.settled = some p := by
  have h := r.reacts e
  generalize (r.feed e).machine = m at h ⊢
  generalize (r.call e).actions = as at h
  cases h with
  | ended hend => rw [ht] at hend; cases hend
  | goes _ hh => exact hh.settles hs hw hp hle
  | fails _ hh => exact hh.settles hs hw hp hle

theorem Under.undercuts {admits : Run σ → Event → Prop} (hr : r.Under c bitmapMode admits)
    (hs : r.machine.negotiation.settled = none) (ht : r.machine.phase.isTerminal = false) :
    r.machine.negotiation.Undercuts := by
  induction hr using Under.message_induction with
  | start => rintro _ ⟨⟩
  | silent _ _ hq ih =>
    rw [hq.negotiation ht] at hs ⊢
    exact ih hs (hq.running ht)
  | @utters r e t _ _ hu ih =>
    have hi := ih hu.unsettled hu.running
    rw [hu.machine] at hs ⊢
    cases hu.speaks with
    | proposes _ hl hr =>
      intro w hw
      refine ⟨_, rfl, ?_⟩
      rcases hr w hw with hle | hw
      · exact hle
      · obtain ⟨p, hp, hle⟩ := hi w (r.machine.taking_received e ▸ hw)
        exact (hl p ((r.machine.taking_proposed e).trans hp)).le.trans hle
    | settles => cases hs
    | meets => cases hs

theorem Under.length_xids_le {admits : Run σ → Event → Prop} (hr : r.Under c bitmapMode admits) :
    r.xids.length ≤ c.versions.length + 1 := by
  rw [length_xids, ← hr.capabilities]
  exact Nat.add_le_add hr.descends.length_le hr.asks.atMostOne

/-- The counter goes on from an id below the headroom, by one for each message. -/
theorem Under.xid_le {admits : Run σ → Event → Prop} (hr : r.Under c bitmapMode admits)
    (ht : r.machine.phase.isTerminal = false) :
    r.machine.negotiation.xid.val ≤ 4294967295 - Xid.headroom + r.xids.length := by
  induction hr using Under.message_induction with
  | start => exact show 20 ≤ 4294967295 - Xid.headroom + 0 by decide
  | silent _ _ hq ih =>
    rw [hq.negotiation ht, hq.xids]
    exact ih (hq.running ht)
  | @utters r e t _ _ hu ih =>
    have hi := ih hu.running
    have hb := r.machine.taking_xid_le e
    have hc := hu.speaks.counts.2
    rw [hu.machine, hu.xids, List.length_append, hc]
    omega

theorem Under.hasRoom {admits : Run σ → Event → Prop} (hr : r.Under c bitmapMode admits)
    (ht : r.machine.phase.isTerminal = false) (e : Event) : (r.machine.taking e).HasRoom := by
  have hb := r.machine.taking_xid_le e
  have hx := hr.xid_le ht
  have hl := hr.length_xids_le
  have hc := c.length_versions_le
  unfold Machine.HasRoom
  simp only [Xid.headroom] at hb hx
  omega

theorem Under.xid_lt {admits : Run σ → Event → Prop} (hr : r.Under c bitmapMode admits)
    (ht : r.machine.phase.isTerminal = false) : r.machine.negotiation.xid.val < 4294967295 :=
  -- an event that takes in no id leaves the counter where it is
  (hr.hasRoom ht .connectionLost).lt

/-- The counter is below its maximum, and a failure is one that occurs. -/
structure Regular (r : Run σ) : Prop where
  xid : r.machine.negotiation.xid.val < 4294967295
  failure : ∀ error, r.machine.outcome = some (.failure error) → error.Occurs

theorem Under.xid_lt_of_handles {admits : Run σ → Event → Prop}
    (hr : r.Under c bitmapMode admits) (ht : r.machine.phase.isTerminal = false)
    (hh : r.machine.Handles granted e t) (hf : t.failure ≠ none) :
    t.machine.negotiation.xid.val < 4294967295 := by
  rcases hh.negotiates_or_silent with ⟨hs, hn⟩ | ⟨hn, _⟩
  · have hx := hr.hasRoom ht e
    rcases hn.goes_or_refuses hx (hr.undercuts hs ht) with hg | hg
    · exact absurd hg hf
    · exact hg.xid ▸ hx.lt
  · exact hn ▸ hr.xid_lt ht

theorem Regular.feed (hg : r.Regular) (hr : r.Under c bitmapMode fun _ _ => True)
    (hd : r.machine.Decided) (e : Event) : (r.feed e).Regular := by
  have hr' : (r.feed e).Under c bitmapMode fun _ _ => True := hr.feed trivial
  have h := r.reacts e
  generalize hm : (r.feed e).machine = m at h
  generalize (r.call e).actions = as at h
  cases h with
  | ended => exact ⟨hm ▸ hg.xid, hm ▸ hg.failure⟩
  | goes ht hh =>
    have hrun := hd.running ht
    refine ⟨?_, fun error h => absurd (hm ▸ h) (hh.outcome_ne_failure hrun)⟩
    rcases hh.negotiates_or_silent with ⟨_, hn⟩ | ⟨hn, _⟩
    · exact hr'.xid_lt (hm ▸ (hn.quiet hrun).running.phase)
    · rw [hm, hn]
      exact hr.xid_lt ht
  | fails ht hh hf =>
    refine ⟨hm ▸ hr.xid_lt_of_handles ht hh (by simp [hf]), fun error h => ?_⟩
    rw [hm] at h
    cases h
    exact hh.occurs (hr.hasRoom ht e) (fun hs => hr.undercuts hs ht) hf

theorem play_regular (c : CapabilitySet) (bitmapMode : Bool) (limiter : σ)
    (events : List Event) : ((fresh c bitmapMode limiter).play events).Regular := by
  induction events using List.reverseRecOn with
  | nil => exact ⟨show 20 < 4294967295 by decide, by rintro _ ⟨⟩⟩
  | append_singleton events e ih =>
    rw [play_append]
    exact ih.feed (under_play c bitmapMode limiter events)
      (play_decided c bitmapMode limiter events) e

/-- No run ends stalled or out of ids. While it goes on a version that was found too low is above
the last proposal or at it, so that the next event to name it settles on that proposal; and its
messages are fewer than the ids of the headroom, so that the counter never gets to its maximum. -/
theorem never_stalled_nor_exhausted (c : CapabilitySet) (bitmapMode : Bool) (limiter : σ)
    (events : List Event) :
    let r := (fresh c bitmapMode limiter).play events
    (∀ v, r.machine.outcome ≠ some (.failure (.negotiationStalled v))) ∧
      r.machine.outcome ≠ some (.failure .xidExhausted) ∧
      (r.machine.negotiation.settled = none → r.machine.phase.isTerminal = false →
        ∀ v, r.machine.negotiation.received = some v →
          ∃ p, r.machine.negotiation.proposed = some p ∧ p ≤ v ∧
            ∀ e, r.machine.Weighs v e → (r.feed e).machine.negotiation.settled = some p) ∧
      r.xids.length < Xid.headroom ∧ r.machine.negotiation.xid.val < 4294967295 := by
  intro r
  have hr : r.Under c bitmapMode fun _ _ => True := under_play c bitmapMode limiter events
  have hg : r.Regular := play_regular c bitmapMode limiter events
  refine ⟨fun v h => hg.failure _ h, fun h => hg.failure _ h, fun hs ht v hv => ?_, ?_, hg.xid⟩
  · obtain ⟨p, hp, hle⟩ := hr.undercuts hs ht v hv
    exact ⟨p, hp, hle, fun e hw => settles_of_weighs hs ht hw hp hle⟩
  · have hl := hr.length_xids_le
    have hc := c.length_versions_le
    unfold Xid.headroom
    omega

/-- A version found too low that comes again settles on the answer to it. -/
example :
    let r := (fresh .fourOne false Limiter.unlimited).play [.initiate, .hello ⟨3, 7, []⟩]
    r.machine.negotiation.received = some 3 ∧ r.machine.negotiation.proposed = some 1 ∧
      (r.feed (.hello ⟨3, 8, []⟩)).machine.negotiation.settled = some 1 := by
  decide

end Run

end SwitchSession
