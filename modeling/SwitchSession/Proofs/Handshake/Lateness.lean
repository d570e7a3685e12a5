import SwitchSession.Proofs.Handshake.Messages
import SwitchSession.Proofs.Handshake.Outcome

namespace SwitchSession

namespace Machine

theorem Negotiates.not_ignores {m : Machine} (hn : m.Negotiates e t)
    (hs : m.negotiation.settled = none) : ¬ m.Ignores e := by
  cases hn with
  | opens hp => simp [Ignores, hs, hp]
  | _ => simp [Ignores, hs]

theorem Handles.eq_of_ignores {m : Machine} (hh : m.Handles granted e t) (hi : m.Ignores e) :
    t = { machine := m } := by
  cases hh with
  | ignores => rfl
  | negotiates hs hn => exact absurd hi (hn.not_ignores hs)
  | unsent => exact hi.elim
  | unanswered hx => exact absurd hx hi
  | unasked hx => exact absurd hx hi
  | denied hx => exact absurd hx hi
  | admits hx => exact absurd hx hi
  | loses => exact hi.elim

theorem asksAdmission_of_ignores {m : Machine} (hi : m.Ignores e) : m.asksAdmission e = false := by
  cases e with
  | features xid result =>
    have hx : m.pendingXid ≠ some xid := hi
    cases result with
    | error => rfl
    | ok => simp [asksAdmission, hx]
  | _ => rfl

/-- An event that finds its guard closed does not even ask for admission. -/
theorem handle_of_ignores [Admission σ] {m : Machine} (hi : m.Ignores e) (limiter : σ) :
    m.handle limiter e = { machine := m, limiter, actions := [] } := by
  have ht : m.turn true e = { machine := m } := (m.turn_handles true e).eq_of_ignores hi
  simp [handle, asksAdmission_of_ignores hi, react, conclude, ht]

theorem Sends.proposed {m : Machine} (ht : m.Sends v next t)
    (hp : m.negotiation.proposed.isSome) : t.machine.negotiation.proposed.isSome := by
  cases ht with
  | sent => rfl
  | exhausted => exact hp

theorem Settles.proposed {m : Machine} (ht : m.Settles v t) :
    t.machine.negotiation.proposed = m.negotiation.proposed := by
  cases ht <;> rfl

theorem Meets.proposed {m : Machine} (ht : m.Meets v t) (hp : m.negotiation.proposed.isSome) :
    t.machine.negotiation.proposed.isSome := by
  cases ht with
  | met hx ht =>
    rw [ht.proposed]
    rfl
  | exhausted => exact hp

theorem Compares.proposed {m : Machine} (ht : m.Compares remote t)
    (hp : m.negotiation.proposed.isSome) : t.machine.negotiation.proposed.isSome := by
  cases ht with
  | accepts _ ht => rwa [ht.proposed]
  | stalls => exact hp
  | refuses => exact hp
  | lowers _ _ _ ht => exact ht.proposed hp
  | meets _ _ ht => exact ht.proposed hp

theorem Negotiates.proposed {m : Machine} (hn : m.Negotiates e t)
    (hp : m.negotiation.proposed.isSome) : t.machine.negotiation.proposed.isSome := by
  cases hn with
  | opens _ ht => exact ht.proposed hp
  | sharesNone => exact hp
  | answersBitmap _ _ _ _ ht => exact ht.proposed hp
  | agrees _ _ _ _ ht => rwa [ht.proposed]
  | refuses => exact hp
  | answersVersion _ _ _ ht => exact ht.proposed hp
  | weighs _ _ ht => exact ht.proposed hp
  | resumes ht => exact ht.proposed hp
  | confirms ht => rwa [ht.proposed]

/-- Once it has proposed a version, a machine never forgets that it did. -/
theorem Reacts.proposed {m : Machine} (h : m.Reacts granted e m' actions)
    (hp : m.negotiation.proposed.isSome) : m'.negotiation.proposed.isSome := by
  have hkeep {t : Turn} (hh : m.Handles granted e t) :
      t.machine.negotiation.proposed.isSome := by
    rcases hh.passes with ⟨_, hn⟩ | ⟨hk, _⟩
    · exact hn.proposed hp
    · rwa [hk]
  cases h with
  | ended => exact hp
  | goes _ hh => exact hkeep hh
  | fails _ hh => exact hkeep hh

theorem Reacts.terminal {m : Machine} (h : m.Reacts granted e m' actions)
    (ht : m.phase.isTerminal) : m'.phase.isTerminal := by
  cases h with
  | ended => exact ht
  | goes hf => rw [hf] at ht; cases ht
  | fails => rfl

theorem Speaks.proposed {m : Machine} (ht : m.Speaks t)
    (hh : t.actions.filterMap Action.hello? ≠ []) : t.machine.negotiation.proposed.isSome := by
  cases ht with
  | proposes => rfl
  | settles => exact absurd rfl hh
  | meets => rfl

end Machine

/-- The call writes the settled version. -/
def Call.settles [Admission σ] (c : Call σ) : Bool :=
  decide (c.after.negotiation.settled ≠ c.machine.negotiation.settled)

namespace Call

variable [Admission σ]

theorem settled_after (c : Call σ) (hs : c.machine.negotiation.settled = some v) :
    c.after.negotiation.settled = some v :=
  c.reacts.settled hs

theorem unsettled_of_settles {c : Call σ} (h : c.settles) :
    c.machine.negotiation.settled = none := by
  cases hs : c.machine.negotiation.settled with
  | none => rfl
  | some v => simp [settles, hs, c.settled_after hs] at h

theorem toNat_settles (c : Call σ) :
    c.machine.negotiation.settled.isSome.toNat + c.settles.toNat =
      c.after.negotiation.settled.isSome.toNat := by
  cases hs : c.machine.negotiation.settled with
  | none => cases ha : c.after.negotiation.settled <;> simp [settles, hs, ha]
  | some v => simp [settles, hs, c.settled_after hs]

end Call

namespace Run

variable [Admission σ]

/-- The event passes without a trace: it leaves the machine and the limiter alone, and nothing is to
be done. -/
def Inert (r : Run σ) (e : Event) : Prop :=
  (r.call e).reaction = { machine := r.machine, limiter := r.limiter, actions := [] }

theorem inert_of_ignores {r : Run σ} (h : r.machine.Ignores e) : r.Inert e :=
  Machine.handle_of_ignores h r.limiter

theorem inert_of_terminal {r : Run σ} (h : r.machine.phase.isTerminal) (e : Event) : r.Inert e :=
  Machine.handle_of_terminal h r.limiter e

/-- What is closed to late inputs in a run stays closed. -/
structure Closes (r r' : Run σ) : Prop where
  settled : ∀ v, r.machine.negotiation.settled = some v → r'.machine.negotiation.settled = some v
  proposed : r.machine.negotiation.proposed.isSome → r'.machine.negotiation.proposed.isSome
  terminal : r.machine.phase.isTerminal → r'.machine.phase.isTerminal

theorem closes_play (r : Run σ) (events : List Event) : r.Closes (r.play events) := by
  induction events using List.reverseRecOn with
  | nil => exact ⟨fun _ => id, id, id⟩
  | append_singleton events e ih =>
    have hr := (r.play events).reacts e
    rw [play_append]
    exact ⟨fun v hv => hr.settled (ih.settled v hv), fun hp => hr.proposed (ih.proposed hp),
      fun ht => hr.terminal (ih.terminal ht)⟩

theorem Under.proposed_of_hellos {admits : Run σ → Event → Prop} {r : Run σ}
    (hr : r.Under c bitmapMode admits) (hh : r.hellos ≠ []) :
    r.machine.negotiation.proposed.isSome := by
  induction hr using Under.message_induction with
  | start => exact absurd rfl hh
  | @silent r e _ _ hq ih =>
    rw [hq.hellos] at hh
    exact (r.reacts e).proposed (ih hh)
  | @utters r e t _ _ hu ih =>
    rw [hu.hellos] at hh
    by_cases hbefore : r.hellos = []
    · rw [hbefore, List.nil_append] at hh
      rw [hu.machine]
      exact hu.speaks.proposed hh
    · exact (r.reacts e).proposed (ih hbefore)

/-- Over a run the settled version is written once if it is settled at the end, and else never. -/
theorem countP_settles_play (c : CapabilitySet) (bitmapMode : Bool) (limiter : σ)
    (events : List Event) :
    ((fresh c bitmapMode limiter).play events).calls.countP Call.settles =
      ((fresh c bitmapMode limiter).play events).machine.negotiation.settled.isSome.toNat := by
  induction events using List.reverseRecOn with
  | nil => rfl
  | append_singleton events e ih =>
    let r := (fresh c bitmapMode limiter).play events
    have hcount : (r.feed e).calls.countP Call.settles =
        r.calls.countP Call.settles + (r.call e).settles.toNat := by
      rw [feed, List.countP_append, List.countP_singleton]
      cases (r.call e).settles <;> rfl
    rw [play_append, hcount, ih]
    exact (r.call e).toNat_settles

/-- Late and repeated inputs pass without a trace, from the moment they are late: HELLOs and
successful completions once a version is settled, initiation once a HELLO went out or a version is
settled, everything once the handshake is over, and at all times a features reply that is not waited
for. So a run writes the settled version once or never, and only where there was none. -/
theorem late_inputs_are_inert (c : CapabilitySet) (bitmapMode : Bool) (limiter : σ)
    (earlier later : List Event) :
    let r := (fresh c bitmapMode limiter).play earlier
    let n := r.machine.negotiation
    let r' := r.play later
    (n.settled.isSome → ∀ h, r'.Inert (.hello h)) ∧
      (n.settled.isSome ∨ n.proposed.isSome ∨ r.hellos ≠ [] → r'.Inert .initiate) ∧
      (n.settled.isSome → ∀ xid next, r'.Inert (.helloSent xid (.ok ()) next)) ∧
      (∀ xid result, r.machine.pendingXid ≠ some xid → r.Inert (.features xid result)) ∧
      (r.machine.phase.isTerminal → ∀ e, r'.Inert e) ∧
      (∀ v, n.settled = some v → r'.machine.negotiation.settled = some v) ∧
      r.calls.countP Call.settles = n.settled.isSome.toNat ∧
      ∀ call ∈ r.calls, call.settles → call.machine.negotiation.settled = none := by
  intro r n r'
  have hc : r.Closes r' := closes_play r later
  have hsettled (hs : n.settled.isSome) : r'.machine.negotiation.settled.isSome := by
    obtain ⟨v, hv⟩ := Option.isSome_iff_exists.1 hs
    rw [hc.settled v hv]
    rfl
  have hproposed (hp : n.settled.isSome ∨ n.proposed.isSome ∨ r.hellos ≠ []) :
      r'.machine.negotiation.settled.isSome ∨ r'.machine.negotiation.proposed.isSome := by
    rcases hp with hs | hp | hh
    · exact .inl (hsettled hs)
    · exact .inr (hc.proposed hp)
    · exact .inr (hc.proposed ((under_play c bitmapMode limiter earlier).proposed_of_hellos hh))
  refine ⟨fun hs h => ?_, fun hp => ?_, fun hs xid next => ?_, fun xid result hx => ?_,
    fun ht => ?_, hc.settled, ?_, ?_⟩
  · exact inert_of_ignores (hsettled hs)
  · exact inert_of_ignores (hproposed hp)
  · exact inert_of_ignores (.inl (hsettled hs))
  · exact inert_of_ignores hx
  · exact inert_of_terminal (hc.terminal ht)
  · exact countP_settles_play c bitmapMode limiter earlier
  · intro call _ hs
    exact Call.unsettled_of_settles hs

end Run

end SwitchSession
