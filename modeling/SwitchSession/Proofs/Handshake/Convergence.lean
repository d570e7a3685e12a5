import Mathlib.Data.List.Perm.Subperm
import SwitchSession.Proofs.Handshake.Messages

namespace SwitchSession

theorem Machine.Speaks.hellos {m : Machine} (hs : m.Speaks t) :
    (t.actions.filterMap Action.hello? = [] ∧
        t.machine.negotiation.proposed = m.negotiation.proposed) ∨
      ∃ h, t.actions.filterMap Action.hello? = [h] ∧ h.version ∈ m.capabilities.versions ∧
        (∀ p, m.negotiation.proposed = some p → h.version < p) ∧
        t.machine.negotiation.proposed = some h.version := by
  cases hs with
  | proposes hv hl => exact .inr ⟨_, rfl, hv, hl, rfl⟩
  | settles => exact .inl ⟨rfl, rfl⟩
  | meets hv hl => exact .inr ⟨_, rfl, hv, hl, rfl⟩

/-- A call that takes in a HELLO and leaves the version open answers with a HELLO, and with nothing
else. -/
theorem Call.answers [Admission σ] {c : Call σ} (hh : c.heard?.isSome)
    (hs : c.after.negotiation.settled = none) (ht : c.after.phase.isTerminal = false) :
    ∃ hello next, c.actions = [.sendHello hello next] := by
  -- the one call by itself, as a run
  let r : Run σ := { machine := c.machine, limiter := c.limiter }
  rcases r.silent_or_utters c.event with hq | ⟨t, hu⟩
  · rw [show c.heard? = none from hq.heard ht] at hh
    cases hh
  · rw [show c.after = t.machine from hu.machine] at hs
    rw [show c.actions = t.actions from hu.actions]
    cases hu.speaks with
    | proposes => exact ⟨_, _, rfl⟩
    | settles => cases hs
    | meets => cases hs

namespace Run

variable [Admission σ] {r : Run σ} {e : Event}

/-- The HELLOs that the controller sends unasked, in calls that take in none of the peer's. -/
def unprompted (r : Run σ) : List Hello :=
  (r.calls.filter fun c => c.heard?.isNone).flatMap Call.hellos

/-- The controller sends a HELLO unasked, as it does when it is the first to speak. -/
def SpeaksUnasked (r : Run σ) : Prop := ∃ call ∈ r.calls, call.heard? = none ∧ call.hellos ≠ []

theorem feed_unprompted_of_none (h : (r.call e).heard? = none) :
    (r.feed e).unprompted = r.unprompted ++ (r.call e).hellos := by
  simp [unprompted, feed, List.filter_append, h]

theorem feed_unprompted_of_some (h : (r.call e).heard? = some hello) :
    (r.feed e).unprompted = r.unprompted := by
  simp [unprompted, feed, List.filter_append, h]

theorem SpeaksUnasked.pos (h : r.SpeaksUnasked) : 0 < r.unprompted.length := by
  obtain ⟨call, hc, hn, hh⟩ := h
  obtain ⟨hello, hello_mem⟩ := List.exists_mem_of_ne_nil _ hh
  apply List.length_pos_of_mem
  exact List.mem_flatMap.2 ⟨call, List.mem_filter.2 ⟨hc, by simp [hn]⟩, hello_mem⟩

theorem mem_calls_play {c : Call σ} (h : c ∈ r.calls) (events : List Event) :
    c ∈ (r.play events).calls := by
  induction events generalizing r with
  | nil => exact h
  | cons e events ih => exact ih (List.mem_append_left _ h)

theorem speaksUnasked_of_initiate (c : CapabilitySet) (bitmapMode : Bool) (limiter : σ)
    (events : List Event) :
    ((fresh c bitmapMode limiter).play (.initiate :: events)).SpeaksUnasked := by
  let call := (fresh c bitmapMode limiter).call .initiate
  have hc : call ∈ ((fresh c bitmapMode limiter).feed .initiate).calls := List.mem_cons_self
  have hh : call.hellos = [⟨c.highest, 21, [.versionBitmap c.bitmap]⟩] := rfl
  exact ⟨call, mem_calls_play hc events, rfl, hh ▸ List.cons_ne_nil _ _⟩

/-- The versions sent go down through the set, to the last proposal. -/
structure Descends (r : Run σ) : Prop where
  mem : ∀ h ∈ r.hellos, h.version ∈ r.machine.capabilities.versions
  falling : (r.hellos.map Hello.version).Pairwise (· > ·)
  floor : r.machine.phase.isTerminal = false →
    ∀ h ∈ r.hellos, ∃ p, r.machine.negotiation.proposed = some p ∧ p ≤ h.version

theorem Descends.silent (h : r.Descends) (hq : r.Silent e) : (r.feed e).Descends := by
  refine ⟨?_, hq.hellos ▸ h.falling, fun ht => ?_⟩
  · rw [hq.hellos, feed_capabilities]
    exact h.mem
  · rw [hq.hellos, hq.negotiation ht]
    exact h.floor (hq.running ht)

theorem Descends.utters (h : r.Descends) (hu : r.Utters e t) : (r.feed e).Descends := by
  have hk := r.machine.taking_proposed e
  rcases hu.speaks.hellos with ⟨hn, hp⟩ | ⟨hello, hn, hv, hl, hp⟩
  · have hh : (r.feed e).hellos = r.hellos := by rw [hu.hellos, hn, List.append_nil]
    refine ⟨?_, hh ▸ h.falling, fun _ => ?_⟩
    · rw [hh, feed_capabilities]
      exact h.mem
    · rw [hh, hu.machine, hp, hk]
      exact h.floor hu.running
  · have hh : (r.feed e).hellos = r.hellos ++ [hello] := by rw [hu.hellos, hn]
    have hlow : ∀ g ∈ r.hellos, hello.version < g.version := by
      intro g hg
      obtain ⟨p, hp, hle⟩ := h.floor hu.running g hg
      exact (hl p (hk.trans hp)).trans_le hle
    refine ⟨?_, ?_, fun _ g hg => ⟨hello.version, hu.machine ▸ hp, ?_⟩⟩
    · rw [hh, feed_capabilities]
      intro g hg
      rcases List.mem_append.1 hg with hg | hg
      · exact h.mem g hg
      · rw [List.mem_singleton.1 hg]
        exact r.machine.taking_capabilities e ▸ hv
    · rw [hh, List.map_append, List.pairwise_append]
      refine ⟨h.falling, List.pairwise_singleton _ _, ?_⟩
      simpa using hlow
    · rw [hh] at hg
      rcases List.mem_append.1 hg with hg | hg
      · exact (hlow g hg).le
      · rw [List.mem_singleton.1 hg]

theorem Under.descends {admits : Run σ → Event → Prop} (hr : r.Under c bitmapMode admits) :
    r.Descends := by
  induction hr using Under.message_induction with
  | start => exact ⟨by rintro _ ⟨⟩, .nil, by rintro _ _ ⟨⟩⟩
  | silent _ _ hq ih => exact ih.silent hq
  | utters _ _ hu ih => exact ih.utters hu

theorem Descends.length_le (h : r.Descends) :
    r.hellos.length ≤ r.machine.capabilities.versions.length := by
  have hs : r.hellos.map Hello.version ⊆ r.machine.capabilities.versions := by
    intro v hv
    obtain ⟨hello, hh, rfl⟩ := List.mem_map.1 hv
    exact h.mem hello hh
  simpa using (List.subperm_of_subset (h.falling.imp LT.lt.ne') hs).length_le

/-- As long as the version is open each HELLO taken in has been answered by one. -/
theorem Under.length_hellos {admits : Run σ → Event → Prop} (hr : r.Under c bitmapMode admits)
    (hs : r.machine.negotiation.settled = none) (ht : r.machine.phase.isTerminal = false) :
    r.hellos.length = r.heard.length + r.unprompted.length := by
  induction hr using Under.message_induction with
  | start => rfl
  | @silent r e _ _ hq ih =>
    have hn := hq.heard ht
    have hc : (r.call e).hellos = [] := (Action.filterMap_of_xid? hq.nothing).1
    rw [hq.hellos, feed_heard, feed_unprompted_of_none hn, hn, hc,
      ih (hq.negotiation ht ▸ hs) (hq.running ht)]
    simp
  | @utters r e t _ _ hu ih =>
    have hi := ih hu.unsettled hu.running
    rw [hu.machine] at hs
    have hone : (r.call e).hellos.length = 1 := by
      rw [Call.hellos, hu.actions]
      cases hu.speaks with
      | proposes => rfl
      | settles => cases hs
      | meets => cases hs
    cases hh : (r.call e).heard? with
    | none =>
      rw [feed_hellos, feed_heard, feed_unprompted_of_none hh, hh]
      simp only [List.length_append, Option.toList_none, List.length_nil]
      omega
    | some h =>
      rw [feed_hellos, feed_heard, feed_unprompted_of_some hh, hh]
      simp only [List.length_append, Option.toList_some, List.length_singleton]
      omega

/-- Proposals converge: their versions go down through the set, so that no more HELLOs are sent than
it has versions, and at most one request. A HELLO that is taken in and leaves the version open costs
one of them, so a peer cannot keep it open for more rounds than there are versions, or one less if
the controller has spoken unasked. -/
theorem proposals_converge (c : CapabilitySet) (bitmapMode : Bool) (limiter : σ)
    (events : List Event) :
    let r := (fresh c bitmapMode limiter).play events
    (∀ h ∈ r.hellos, h.version ∈ c.versions) ∧ (r.hellos.map Hello.version).Pairwise (· > ·) ∧
      r.hellos.length ≤ c.versions.length ∧ r.requests.length ≤ 1 ∧
      (∀ call ∈ r.calls, call.heard?.isSome → call.after.negotiation.settled = none →
        call.after.phase.isTerminal = false →
          ∃ hello next, call.actions = [.sendHello hello next]) ∧
      (r.machine.negotiation.settled = none → r.machine.phase.isTerminal = false →
        r.heard.length ≤ c.versions.length ∧
          (r.SpeaksUnasked → r.heard.length ≤ c.versions.length - 1)) := by
  intro r
  have hr := under_play c bitmapMode limiter events
  have hd := hr.descends
  have hc := hr.capabilities
  have hl : r.hellos.length ≤ c.versions.length := hc ▸ hd.length_le
  refine ⟨hc ▸ hd.mem, hd.falling, hl, hr.asks.atMostOne,
    fun _ _ hh hs ht => Call.answers hh hs ht, fun hs ht => ?_⟩
  have hn : r.hellos.length = r.heard.length + r.unprompted.length := hr.length_hellos hs ht
  exact ⟨by omega, fun hu => by have := hu.pos; omega⟩

/-- A peer that names a version between two of the set has the last offer after one HELLO. -/
example :
    let r := (fresh .fourOne false Limiter.unlimited).play [.initiate, .hello ⟨3, 7, []⟩]
    r.hellos.map Hello.version = [4, 1] ∧ r.heard.length = 1 ∧
      r.machine.negotiation.settled = none ∧ r.machine.phase = .negotiating := by
  decide

end Run

end SwitchSession
