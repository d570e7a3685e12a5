import SwitchSession.Proofs.Handshake.Lateness

namespace SwitchSession

def Event.isHelloSent : Event → Bool
  | .helloSent .. => true
  | _ => false

/-- Whatever HELLO the turn sends, its completion is only to be waited for. -/
def Turn.Waits (t : Turn) : Prop := ∀ x ∈ t.issued, x.2 = .wait

theorem Turn.waits_of_issued {t : Turn} (h : t.issued = []) : t.Waits := by
  intro x hx
  rw [h] at hx
  cases hx

namespace Machine

theorem Sends.waits {m : Machine} (ht : m.Sends v .wait t) : t.Waits := by
  cases ht with
  | sent =>
    intro x hx
    rw [List.mem_singleton.1 hx]
  | exhausted => exact Turn.waits_of_issued rfl

theorem Settles.waits {m : Machine} (ht : m.Settles v t) : t.Waits := by
  cases ht with
  | requested => exact Turn.waits_of_issued rfl
  | exhausted => exact Turn.waits_of_issued rfl

theorem Meets.waits {m : Machine} (ht : m.Meets v t) : t.Waits := by
  cases ht with
  | met _ ht =>
    intro x hx
    rcases List.mem_cons.1 hx with rfl | hx
    · rfl
    · exact ht.waits x hx
  | exhausted => exact Turn.waits_of_issued rfl

theorem Compares.waits {m : Machine} (ht : m.Compares remote t) : t.Waits := by
  cases ht with
  | accepts _ ht => exact ht.waits
  | stalls => exact Turn.waits_of_issued rfl
  | refuses => exact Turn.waits_of_issued rfl
  | lowers _ _ _ ht => exact ht.waits
  | meets _ _ ht => exact ht.waits

/-- Only a first proposal, in answer to a HELLO, goes out with anything to do after it. -/
theorem Negotiates.waits {m : Machine} (hn : m.Negotiates e t)
    (hp : m.negotiation.proposed.isSome) : t.Waits := by
  have hfirst (hp' : m.negotiation.proposed = none) : t.Waits := by
    rw [hp'] at hp
    cases hp
  cases hn with
  | opens hp' => exact hfirst hp'
  | sharesNone => exact Turn.waits_of_issued rfl
  | answersBitmap _ _ _ hp' => exact hfirst hp'
  | agrees _ _ _ _ ht => exact ht.waits
  | refuses => exact Turn.waits_of_issued rfl
  | answersVersion _ hp' => exact hfirst hp'
  | weighs _ _ ht => exact ht.waits
  | resumes ht => exact ht.waits
  | confirms ht => exact ht.waits

theorem Handles.waits {m : Machine} (hh : m.Handles granted e t)
    (hp : m.negotiation.proposed.isSome) : t.Waits := by
  rcases hh.passes with ⟨_, hn⟩ | ⟨_, hi, _⟩
  · exact hn.waits hp
  · exact Turn.waits_of_issued hi

theorem Reacts.waits {m : Machine} (h : m.Reacts granted e m' actions)
    (hp : m.negotiation.proposed.isSome) :
    ∀ x ∈ actions.filterMap Rehearsal.sentHello?, x.2 = .wait := by
  intro x hx
  cases h with
  | ended => cases hx
  | goes _ hh => exact hh.waits hp x hx
  | fails => cases hx

end Machine

namespace Run

variable [Admission σ] {r r' : Run σ} {e : Event} {events : List Event}

/-- Only successful completions, of HELLOs that were sent before. -/
def Confirms (r : Run σ) : Event → Prop
  | .helloSent xid result next => result = .ok () ∧ (xid, next) ∈ r.issued
  | _ => True

/-- All completions among the events succeed and are of HELLOs that were sent before. -/
def Confirmed (r : Run σ) : List Event → Prop
  | [] => True
  | e :: events => r.Confirms e ∧ (r.feed e).Confirmed events

/-- A version is proposed, and the completions of all HELLOs are only to be waited for. -/
structure Leads (r : Run σ) : Prop where
  proposed : r.machine.negotiation.proposed.isSome
  waits : ∀ x ∈ r.issued, x.2 = .wait

theorem leads_initiate (c : CapabilitySet) (bitmapMode : Bool) (limiter : σ) :
    ((fresh c bitmapMode limiter).feed .initiate).Leads := by
  have hi : ((fresh c bitmapMode limiter).feed .initiate).issued = [(21, .wait)] := rfl
  refine ⟨rfl, ?_⟩
  intro x hx
  rw [hi] at hx
  rw [List.mem_singleton.1 hx]

theorem Leads.feed (hl : r.Leads) (e : Event) : (r.feed e).Leads where
  proposed := (r.reacts e).proposed hl.proposed
  waits := by
    intro x hx
    rw [feed_issued] at hx
    rcases List.mem_append.1 hx with hx | hx
    · exact hl.waits x hx
    · exact (r.reacts e).waits hl.proposed x hx

theorem Leads.inert (hl : r.Leads) (hc : r.Confirms e) (he : e.isHelloSent) : r.Inert e := by
  cases e with
  | helloSent xid result next =>
    obtain ⟨rfl, hx⟩ := hc
    apply inert_of_ignores
    exact .inr (hl.waits _ hx)
  | _ => cases he

/-- The runs have done the same and cannot be told apart from now on. -/
structure Alike (r r' : Run σ) : Prop where
  actions : r.actions = r'.actions
  machine : r.machine = r'.machine
  limiter : r.limiter = r'.limiter

theorem Alike.trans {r'' : Run σ} (h : r.Alike r') (h' : r'.Alike r'') : r.Alike r'' :=
  ⟨h.actions.trans h'.actions, h.machine.trans h'.machine, h.limiter.trans h'.limiter⟩

theorem Alike.symm (h : r.Alike r') : r'.Alike r :=
  ⟨h.actions.symm, h.machine.symm, h.limiter.symm⟩

theorem Alike.feed (h : r.Alike r') (e : Event) : (r.feed e).Alike (r'.feed e) := by
  have hc : r.call e = r'.call e := by rw [call, call, h.machine, h.limiter]
  refine ⟨?_, congrArg Call.after hc, congrArg (fun c => c.reaction.limiter) hc⟩
  rw [feed_actions, feed_actions, h.actions, hc]

theorem Inert.alike (h : r.Inert e) : (r.feed e).Alike r where
  actions := by
    rw [feed_actions, Call.actions, h]
    exact List.append_nil _
  machine := congrArg Reaction.machine h
  limiter := congrArg Reaction.limiter h

/-- A run that the controller leads goes as if there were no completions. -/
theorem Leads.alike_play (hl : r.Leads) (hc : r.Confirmed events) (h : r.Alike r') :
    (r.play events).Alike (r'.play (events.filter fun e => !e.isHelloSent)) := by
  induction events generalizing r r' with
  | nil => exact h
  | cons e events ih =>
    obtain ⟨he, hc⟩ := hc
    cases hs : e.isHelloSent with
    | true =>
      rw [List.filter_cons_of_neg (by simp [hs])]
      exact ih (hl.feed e) hc ((hl.inert he hs).alike.trans h)
    | false =>
      rw [List.filter_cons_of_pos (by simp [hs])]
      exact ih (hl.feed e) hc (h.feed e)

/-- If the controller opens a handshake, it does not matter when its HELLOs are delivered: two runs
of the same events do the same and end alike, wherever the successful completions of HELLOs stand
among these events, in whatever order and number. -/
theorem completions_are_immaterial (c : CapabilitySet) (bitmapMode : Bool) (limiter : σ)
    {events events' : List Event}
    (hc : (fresh c bitmapMode limiter).Confirmed (.initiate :: events))
    (hc' : (fresh c bitmapMode limiter).Confirmed (.initiate :: events'))
    (he : events.filter (fun e => !e.isHelloSent) = events'.filter fun e => !e.isHelloSent) :
    let r := (fresh c bitmapMode limiter).play (.initiate :: events)
    let r' := (fresh c bitmapMode limiter).play (.initiate :: events')
    r.actions = r'.actions ∧ r.machine = r'.machine ∧ r.limiter = r'.limiter := by
  intro r r'
  have hl := leads_initiate c bitmapMode limiter
  have hr : r.Alike _ := hl.alike_play hc.2 ⟨rfl, rfl, rfl⟩
  have hr' : r'.Alike _ := hl.alike_play hc'.2 ⟨rfl, rfl, rfl⟩
  rw [he] at hr
  obtain ⟨ha, hm, hlim⟩ := hr.trans hr'.symm
  exact ⟨ha, hm, hlim⟩

theorem completions_are_immaterial_downgraded :
    let sent (xid : Xid) := Event.helloSent xid (.ok ()) .wait
    let reply := Event.features 23 (.ok { datapath := 42 })
    let start := fresh .fourOne true (Limiter.fixed true 0)
    let events := [sent 21, .hello ⟨2, 7, []⟩, sent 22, .hello ⟨1, 8, []⟩, reply]
    let events' := [.hello ⟨2, 7, []⟩, sent 22, sent 21, sent 22, .hello ⟨1, 8, []⟩, reply, sent 21]
    let r := start.play (.initiate :: events)
    let r' := start.play (.initiate :: events')
    start.Confirmed (.initiate :: events) ∧ start.Confirmed (.initiate :: events') ∧
      events.filter (fun e => !e.isHelloSent) = events'.filter (fun e => !e.isHelloSent) ∧
      r.actions = r'.actions ∧ r.machine = r'.machine ∧ r.limiter = r'.limiter ∧
      r'.machine.outcome = some (.success 1 { datapath := 42 }) := by
  intro sent reply start events events' r r'
  have hc : start.Confirmed (.initiate :: events) :=
    ⟨trivial, ⟨rfl, by decide⟩, trivial, ⟨rfl, by decide⟩, trivial, trivial, trivial⟩
  have hc' : start.Confirmed (.initiate :: events') :=
    ⟨trivial, trivial, ⟨rfl, by decide⟩, ⟨rfl, by decide⟩, ⟨rfl, by decide⟩, trivial, trivial,
      ⟨rfl, by decide⟩, trivial⟩
  have he : events.filter (fun e => !e.isHelloSent) = events'.filter fun e => !e.isHelloSent := rfl
  obtain ⟨ha, hm, hl⟩ := completions_are_immaterial .fourOne true (Limiter.fixed true 0) hc hc' he
  exact ⟨hc, hc', he, ha, hm, hl, by decide⟩

end Run

end SwitchSession
