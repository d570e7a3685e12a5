import Mathlib.Data.List.Pairwise
import SwitchSession.Proofs.Handshake.Messages

namespace SwitchSession

/-- The peer's id leaves room above it, so that it is taken over. -/
def Xid.HasHeadroom (x : Xid) : Prop := x.val ≤ 4294967295 - Xid.headroom

namespace Negotiation

theorem le_seedAfter {n : Negotiation} (hp : n.proposed ≠ none) (peer : Xid) :
    n.xid ≤ n.seedAfter peer := by
  unfold seedAfter
  split
  · exact le_refl _
  · rw [if_neg (by simpa using hp)]
    split
    · next h => exact h.le
    · exact le_refl _

theorem peer_le_seedAfter {peer : Xid} (h : peer.HasHeadroom) (n : Negotiation) :
    peer ≤ n.seedAfter peer := by
  unfold seedAfter
  rw [if_neg (Nat.not_lt.2 h)]
  split
  · exact le_refl _
  · split
    · exact le_refl _
    · next h => exact not_lt.1 h

theorem seedAfter_le (n : Negotiation) (peer : Xid) :
    (n.seedAfter peer).val ≤ max n.xid.val (4294967295 - Xid.headroom) := by
  unfold seedAfter
  split
  · exact le_max_left _ _
  · next h =>
    have hp : peer.val ≤ max n.xid.val (4294967295 - Xid.headroom) :=
      (Nat.not_lt.1 h).trans (le_max_right _ _)
    split
    · exact hp
    · split
      · exact hp
      · exact le_max_left _ _

end Negotiation

namespace Machine

theorem le_taking_xid {m : Machine} (hp : m.negotiation.proposed ≠ none) (e : Event) :
    m.negotiation.xid ≤ (m.taking e).negotiation.xid := by
  cases e with
  | hello h => exact Negotiation.le_seedAfter hp h.xid
  | _ => exact le_refl _

theorem heard_le_taking_xid (m : Machine) {e : Event} (hh : h ∈ e.heard)
    (hx : h.xid.HasHeadroom) : h.xid ≤ (m.taking e).negotiation.xid := by
  cases e with
  | hello g =>
    cases List.mem_singleton.1 hh
    exact Negotiation.peer_le_seedAfter hx m.negotiation
  | _ => cases hh

theorem taking_xid_le (m : Machine) (e : Event) : (m.taking e).negotiation.xid.val ≤
    max m.negotiation.xid.val (4294967295 - Xid.headroom) := by
  cases e with
  | hello h => exact m.negotiation.seedAfter_le h.xid
  | _ => exact le_max_left _ _

/-- The ids of a move count on from the machine's. -/
theorem Speaks.counts {m : Machine} (hs : m.Speaks t) :
    let xids := t.actions.filterMap Action.xid?
    xids.map Fin.val = List.range' (m.negotiation.xid.val + 1) xids.length ∧
      t.machine.negotiation.xid.val = m.negotiation.xid.val + xids.length := by
  cases hs with
  | @proposes _ _ xid _ _ _ _ hx =>
    have hx : xid.val = m.negotiation.xid.val + 1 := Xid.next?_eq_some_iff.1 hx
    exact ⟨congrArg ([·]) hx, hx⟩
  | @settles xid _ hx =>
    have hx : xid.val = m.negotiation.xid.val + 1 := Xid.next?_eq_some_iff.1 hx
    exact ⟨congrArg ([·]) hx, hx⟩
  | @meets _ xid yid _ _ hx hy =>
    have hx : xid.val = m.negotiation.xid.val + 1 := Xid.next?_eq_some_iff.1 hx
    have hy : yid.val = m.negotiation.xid.val + 2 := by rw [Xid.next?_eq_some_iff.1 hy, hx]
    exact ⟨congrArg₂ ([·, ·]) hx hy, hy⟩

theorem Speaks.lt_of_mem {m : Machine} (hs : m.Speaks t)
    (hx : x ∈ t.actions.filterMap Action.xid?) :
    m.negotiation.xid < x ∧ x ≤ t.machine.negotiation.xid := by
  have hv := List.mem_map_of_mem (f := Fin.val) hx
  rw [hs.counts.1, List.mem_range'_1] at hv
  exact ⟨Fin.lt_def.2 (by omega), Fin.le_def.2 (by rw [hs.counts.2]; omega)⟩

theorem Speaks.pairwise {m : Machine} (hs : m.Speaks t) :
    (t.actions.filterMap Action.xid?).Pairwise (· < ·) := by
  have hp : ((t.actions.filterMap Action.xid?).map Fin.val).Pairwise (· < ·) := by
    rw [hs.counts.1]
    exact List.pairwise_lt_range'
  exact (List.pairwise_map.1 hp).imp Fin.lt_def.2

theorem Speaks.moves {m : Machine} (hs : m.Speaks t) (hn : t.machine.negotiation.settled = none) :
    t.machine.negotiation.proposed ≠ none := by
  cases hs with
  | proposes => exact Option.some_ne_none _
  | settles => cases hn
  | meets => cases hn

end Machine

/-- What the later call sends is numbered above the id that the earlier one took over, if it did. -/
def Call.Outdoes [Admission σ] (earlier later : Call σ) : Prop :=
  ∀ h, earlier.heard? = some h → h.xid.HasHeadroom → ∀ x ∈ later.xids, h.xid < x

namespace Run

variable [Admission σ] {r : Run σ} {e : Event}

/-- The counter of a run that goes on is at every id sent and every id taken over, or above. Until a
HELLO was sent there is none. -/
structure Counts (r : Run σ) : Prop where
  sent : ∀ x ∈ r.xids, x ≤ r.machine.negotiation.xid
  heard : ∀ h ∈ r.heard, h.xid.HasHeadroom → h.xid ≤ r.machine.negotiation.xid
  opened : r.machine.negotiation.settled = none → r.machine.negotiation.proposed = none →
    r.xids = [] ∧ r.heard = []

theorem Counts.sent_le_taking (h : r.Counts) (hs : r.machine.negotiation.settled = none)
    (e : Event) (hx : x ∈ r.xids) : x ≤ (r.machine.taking e).negotiation.xid := by
  have hp : r.machine.negotiation.proposed ≠ none := by
    intro hp
    rw [(h.opened hs hp).1] at hx
    cases hx
  exact (h.sent x hx).trans (Machine.le_taking_xid hp e)

theorem Counts.heard_le_taking (h : r.Counts) (hs : r.machine.negotiation.settled = none)
    (hh : g ∈ r.heard ++ e.heard) (hx : g.xid.HasHeadroom) :
    g.xid ≤ (r.machine.taking e).negotiation.xid := by
  rcases List.mem_append.1 hh with hh | hh
  · have hp : r.machine.negotiation.proposed ≠ none := by
      intro hp
      rw [(h.opened hs hp).2] at hh
      cases hh
    exact (h.heard g hh hx).trans (Machine.le_taking_xid hp e)
  · exact Machine.heard_le_taking_xid _ hh hx

theorem Counts.silent (h : r.Counts) (hq : r.Silent e)
    (ht : (r.feed e).machine.phase.isTerminal = false) : (r.feed e).Counts := by
  have hh : (r.feed e).heard = r.heard := by simp [hq.heard ht]
  refine ⟨?_, ?_, ?_⟩ <;> rw [hq.negotiation ht]
  · rw [hq.xids]
    exact h.sent
  · rw [hh]
    exact h.heard
  · rw [hq.xids, hh]
    exact h.opened

theorem Counts.utters (h : r.Counts) (hu : r.Utters e t) : (r.feed e).Counts := by
  have hup : (r.machine.taking e).negotiation.xid ≤ t.machine.negotiation.xid :=
    Fin.le_def.2 (by rw [hu.speaks.counts.2]; omega)
  refine ⟨fun x hx => ?_, fun g hg hx => ?_, fun hs hp => ?_⟩ <;> rw [hu.machine] at *
  · rw [hu.xids] at hx
    rcases List.mem_append.1 hx with hx | hx
    · exact (h.sent_le_taking hu.unsettled e hx).trans hup
    · exact (hu.speaks.lt_of_mem hx).2
  · rw [feed_heard, hu.heard] at hg
    exact (h.heard_le_taking hu.unsettled hg hx).trans hup
  · exact absurd hp (hu.speaks.moves hs)

theorem Under.counts {admits : Run σ → Event → Prop} (hr : r.Under c bitmapMode admits)
    (ht : r.machine.phase.isTerminal = false) : r.Counts := by
  induction hr using Under.message_induction with
  | start => exact ⟨by rintro _ ⟨⟩, by rintro _ ⟨⟩, fun _ _ => ⟨rfl, rfl⟩⟩
  | silent _ _ hq ih => exact (ih (hq.running ht)).silent hq ht
  | utters _ _ hu ih => exact (ih hu.running).utters hu

theorem Under.pairwise_xids {admits : Run σ → Event → Prop} (hr : r.Under c bitmapMode admits) :
    r.xids.Pairwise (· < ·) := by
  induction hr using Under.message_induction with
  | start => exact .nil
  | silent _ _ hq ih => exact hq.xids ▸ ih
  | @utters r e t hr _ hu ih =>
    rw [hu.xids, List.pairwise_append]
    refine ⟨ih, hu.speaks.pairwise, fun x hx y hy => ?_⟩
    have hle := (hr.counts hu.running).sent_le_taking hu.unsettled e hx
    exact hle.trans_lt (hu.speaks.lt_of_mem hy).1

theorem Under.outdoes {admits : Run σ → Event → Prop} (hr : r.Under c bitmapMode admits)
    (e : Event) : ∀ call ∈ (r.feed e).calls, call.Outdoes (r.call e) := by
  intro call hc h hh hx y hy
  rcases r.silent_or_utters e with hq | ⟨t, hu⟩
  · rw [hq.nothing] at hy
    cases hy
  · have hm : h ∈ r.heard ++ e.heard := by
      rw [← hu.heard, ← feed_heard]
      exact List.mem_filterMap.2 ⟨call, hc, hh⟩
    rw [Call.xids, hu.actions] at hy
    have hle := (hr.counts hu.running).heard_le_taking hu.unsettled hm hx
    exact hle.trans_lt (hu.speaks.lt_of_mem hy).1

theorem Under.pairwise_outdoes {admits : Run σ → Event → Prop}
    (hr : r.Under c bitmapMode admits) :
    r.calls.Pairwise Call.Outdoes ∧ ∀ call ∈ r.calls, call.Outdoes call := by
  induction hr with
  | start => exact ⟨.nil, by rintro _ ⟨⟩⟩
  | @feed r e hr _ ih =>
    have ho := hr.outdoes e
    have hl : r.call e ∈ (r.feed e).calls := List.mem_append_right _ (List.mem_singleton_self _)
    refine ⟨List.pairwise_append.2 ⟨ih.1, List.pairwise_singleton _ _, ?_⟩, ?_⟩
    · intro call hc later hl
      rw [List.mem_singleton.1 hl]
      exact ho call (List.mem_append_left _ hc)
    · intro call hc
      rcases List.mem_append.1 hc with hc | hc
      · exact ih.2 call hc
      · rw [List.mem_singleton.1 hc]
        exact ho _ hl

/-- The ids of a run's messages go up. From the call on that takes in a HELLO they are above its id,
if that id leaves room above it. -/
theorem xids_increase (c : CapabilitySet) (bitmapMode : Bool) (limiter : σ)
    (events : List Event) :
    let r := (fresh c bitmapMode limiter).play events
    r.xids.Pairwise (· < ·) ∧
      ∀ before call after h, r.calls = before ++ call :: after → call.heard? = some h →
        h.xid.val ≤ 4294967295 - Xid.headroom →
          ∀ x ∈ (call :: after).flatMap Call.xids, h.xid < x := by
  intro r
  have hr := under_play c bitmapMode limiter events
  refine ⟨hr.pairwise_xids, fun before call after h hc hh hx x hm => ?_⟩
  obtain ⟨hp, hd⟩ : r.calls.Pairwise Call.Outdoes ∧ ∀ call ∈ r.calls, call.Outdoes call :=
    hr.pairwise_outdoes
  rw [hc] at hp hd
  obtain ⟨later, hl, hy⟩ := List.mem_flatMap.1 hm
  rcases List.mem_cons.1 hl with rfl | hl
  · exact hd later (by simp) h hh hx x hy
  · exact (List.pairwise_cons.1 (List.pairwise_append.1 hp).2.1).1 later hl h hh hx x hy

/-- The counter starts from 20 and goes down to a peer that speaks first. -/
example :
    ((fresh .fourOne true Limiter.unlimited).play
      [.hello ⟨5, 7, []⟩, .hello ⟨5, 4294967295, []⟩]).xids = [8, 9] := by
  decide

end Run

end SwitchSession
