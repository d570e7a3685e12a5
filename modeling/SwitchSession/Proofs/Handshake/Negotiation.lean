import SwitchSession.Proofs.Handshake.Run

namespace SwitchSession

def Event.heard : Event → List Hello
  | .hello h => [h]
  | _ => []

def Turn.issued (t : Turn) : List (Xid × Continuation) :=
  t.actions.filterMap Rehearsal.sentHello?

namespace Machine

inductive Proposes (m : Machine) : Event → Version → Continuation → Prop
  | opens (hp : m.negotiation.proposed = none) :
      Proposes m .initiate m.capabilities.highest .wait
  | answersBitmap (hm : (m.hearing h).negotiation.bitmapMode = true) (hb : h.bitmaps? = some bs)
      (hv : m.capabilities.shared? bs = some v) (hp : m.negotiation.proposed = none) :
      Proposes m (.hello h) v (.settle v)
  | answersVersion (hm : (m.hearing h).negotiation.bitmapMode = false)
      (hp : m.negotiation.proposed = none) (hv : m.capabilities.atMost? h.version = some v) :
      Proposes m (.hello h) v (.compare h.version)
  | lowers (hm : (m.hearing h).negotiation.bitmapMode = false)
      (hp : m.negotiation.proposed = some p) (hr : h.version < m.ceiling)
      (hv : m.capabilities.atMost? h.version = some v) : Proposes m (.hello h) v .wait
  | resumes (hr : remote < m.ceiling) (hv : m.capabilities.atMost? remote = some v) :
      Proposes m (.helloSent xid (.ok ()) (.compare remote)) v .wait

/-- When a machine settles on a version, and which it has proposed last by then. -/
inductive Agrees (m : Machine) : Event → Version → Option Version → Prop
  | shares (hm : (m.hearing h).negotiation.bitmapMode = true) (hb : h.bitmaps? = some bs)
      (hv : m.capabilities.shared? bs = some v) (hp : m.negotiation.proposed = some p) :
      Agrees m (.hello h) v (some p)
  | accepts (hm : (m.hearing h).negotiation.bitmapMode = false)
      (hp : m.negotiation.proposed = some p) (hr : p ≤ h.version) :
      Agrees m (.hello h) p (some p)
  | meets (hm : (m.hearing h).negotiation.bitmapMode = false) (hp : m.negotiation.proposed = some p)
      (hr : h.version < m.ceiling)
      (hv : m.capabilities.atMost? h.version = some h.version) :
      Agrees m (.hello h) h.version (some h.version)
  | resumes (hr : m.ceiling ≤ remote) :
      Agrees m (.helloSent xid (.ok ()) (.compare remote)) m.ceiling m.negotiation.proposed
  | resumesLower (hr : remote < m.ceiling) (hv : m.capabilities.atMost? remote = some remote) :
      Agrees m (.helloSent xid (.ok ()) (.compare remote)) remote (some remote)
  | confirms : Agrees m (.helloSent xid (.ok ()) (.settle v)) v m.negotiation.proposed

/-- How a move in the negotiation can leave it: over, open with one more HELLO out, or settled. -/
inductive Leaves (m : Machine) (e : Event) (t : Turn) : Prop
  | fails (hs : t.machine.negotiation.settled = none) (hf : t.failure ≠ none)
  | proposed (hs : t.machine.negotiation.settled = none) (hf : t.failure = none)
      (hp : m.Proposes e v next) (ht : t.machine.negotiation.proposed = some v)
      (hi : t.issued = [(xid, next)])
  | settled (ha : m.Agrees e v t.machine.negotiation.proposed)
      (hs : t.machine.negotiation.settled = some v)

theorem Sends.leaves {m b : Machine} (ht : b.Sends v next t) (hs : b.negotiation.settled = none)
    (hp : m.Proposes e v next) : m.Leaves e t := by
  cases ht with
  | sent => exact .proposed hs rfl hp rfl rfl
  | exhausted => exact .fails hs (by simp)

theorem Settles.leaves {m b : Machine} (ht : b.Settles v t)
    (ha : m.Agrees e v b.negotiation.proposed) : m.Leaves e t := by
  cases ht with
  | requested => exact .settled ha rfl
  | exhausted => exact .settled ha rfl

theorem Meets.leaves {m b : Machine} (ht : b.Meets v t) (hs : b.negotiation.settled = none)
    (ha : m.Agrees e v (some v)) : m.Leaves e t := by
  cases ht with
  | met hx ht =>
    cases ht with
    | requested => exact .settled ha rfl
    | exhausted => exact .settled ha rfl
  | exhausted => exact .fails hs (by simp)

theorem Negotiates.leaves {m : Machine} (hn : m.Negotiates e t)
    (hs : m.negotiation.settled = none) : m.Leaves e t := by
  cases hn with
  | opens hp ht => exact ht.leaves hs (.opens hp)
  | sharesNone => exact .fails hs (by simp)
  | answersBitmap hm hb hv hp ht =>
    exact ht.leaves hs (.answersBitmap (by simp [hearing, hm, hb]) hb hv hp)
  | agrees hm hb hv hp ht =>
    apply ht.leaves
    rw [show (m.hearing _).negotiation.proposed = some _ from hp]
    exact .shares (by simp [hearing, hm, hb]) hb hv hp
  | refuses => exact .fails hs (by simp)
  | answersVersion hm hp hv ht => exact ht.leaves hs (.answersVersion hm hp hv)
  | @weighs h p t hm hp ht =>
    have hc : m.ceiling = p := ceiling_of_proposed hp
    cases ht with
    | accepts hr ht =>
      rw [show (m.hearing h).ceiling = p from hc] at hr ht
      apply ht.leaves
      rw [show (m.hearing h).negotiation.proposed = some p from hp]
      exact .accepts hm hp hr
    | stalls => exact .fails hs (by simp)
    | refuses => exact .fails hs (by simp)
    | lowers hr hv _ ht => exact ht.leaves hs (.lowers hm hp hr hv)
    | meets hr hv ht => exact ht.leaves hs (.meets hm hp hr hv)
  | resumes ht =>
    cases ht with
    | accepts hr ht => exact ht.leaves (.resumes hr)
    | stalls => exact .fails hs (by simp)
    | refuses => exact .fails hs (by simp)
    | lowers hr hv _ ht => exact ht.leaves hs (.resumes hr hv)
    | meets hr hv ht => exact ht.leaves hs (.resumesLower hr hv)
  | confirms ht => exact ht.leaves .confirms

def taking (m : Machine) : Event → Machine
  | .hello h => m.hearing h
  | _ => m

end Machine

structure Turn.Keeps (t : Turn) (m : Machine) : Prop where
  capabilities : t.machine.capabilities = m.capabilities
  bitmapMode : t.machine.negotiation.bitmapMode = m.negotiation.bitmapMode

namespace Machine

theorem Sends.keeps {m : Machine} (ht : m.Sends v next t) : t.Keeps m := by
  cases ht <;> exact ⟨rfl, rfl⟩

theorem Settles.keeps {m : Machine} (ht : m.Settles v t) : t.Keeps m := by
  cases ht <;> exact ⟨rfl, rfl⟩

theorem Meets.keeps {m : Machine} (ht : m.Meets v t) : t.Keeps m := by
  cases ht with
  | met hx ht => exact ⟨ht.keeps.capabilities, ht.keeps.bitmapMode⟩
  | exhausted => exact ⟨rfl, rfl⟩

theorem Compares.keeps {m : Machine} (ht : m.Compares remote t) : t.Keeps m := by
  cases ht with
  | accepts _ ht => exact ht.keeps
  | stalls => exact ⟨rfl, rfl⟩
  | refuses => exact ⟨rfl, rfl⟩
  | lowers _ _ _ ht => exact ⟨ht.keeps.capabilities, ht.keeps.bitmapMode⟩
  | meets _ _ ht => exact ⟨ht.keeps.capabilities, ht.keeps.bitmapMode⟩

theorem Negotiates.keeps {m : Machine} (hn : m.Negotiates e t) : t.Keeps (m.taking e) := by
  cases hn with
  | opens _ ht => exact ht.keeps
  | sharesNone => exact ⟨rfl, rfl⟩
  | answersBitmap _ _ _ _ ht => exact ht.keeps
  | agrees _ _ _ _ ht => exact ht.keeps
  | refuses => exact ⟨rfl, rfl⟩
  | answersVersion _ _ _ ht => exact ht.keeps
  | weighs _ _ ht => exact ht.keeps
  | resumes ht => exact ht.keeps
  | confirms ht => exact ht.keeps

theorem taking_capabilities (m : Machine) (e : Event) :
    (m.taking e).capabilities = m.capabilities := by
  cases e <;> rfl

theorem Handles.capabilities {m : Machine} (hh : m.Handles granted e t) :
    t.machine.capabilities = m.capabilities := by
  cases hh with
  | negotiates _ hn => exact hn.keeps.capabilities.trans (m.taking_capabilities _)
  | _ => rfl

theorem Reacts.capabilities {m : Machine} (h : m.Reacts granted e m' actions) :
    m'.capabilities = m.capabilities := by
  cases h with
  | ended => rfl
  | goes _ hh => exact hh.capabilities
  | fails _ hh => exact hh.capabilities

theorem Handles.passes {m : Machine} (hh : m.Handles granted e t) :
    (m.negotiation.settled = none ∧ m.Negotiates e t) ∨
      (t.machine.negotiation = m.negotiation ∧ t.issued = [] ∧
        (e.heard = [] ∨ m.negotiation.settled.isSome)) := by
  cases hh with
  | ignores hi =>
    refine .inr ⟨rfl, rfl, ?_⟩
    cases e with
    | hello => exact .inr hi
    | _ => exact .inl rfl
  | negotiates hs hn => exact .inl ⟨hs, hn⟩
  | _ => exact .inr ⟨rfl, rfl, .inl rfl⟩

/-- Once settled a version stays. -/
theorem Reacts.settled {m : Machine} (h : m.Reacts granted e m' actions)
    (hs : m.negotiation.settled = some v) : m'.negotiation.settled = some v := by
  have hkeep {t : Turn} (hh : m.Handles granted e t) : t.machine.negotiation = m.negotiation := by
    rcases hh.passes with ⟨hn, _⟩ | ⟨hk, _⟩
    · rw [hn] at hs
      cases hs
    · exact hk
  cases h with
  | ended => exact hs
  | goes _ hh => rw [hkeep hh, hs]
  | fails _ hh => exact (congrArg Negotiation.settled (hkeep hh)).trans hs

end Machine

namespace Call

theorem heard?_of_open {c : Call σ} (hs : c.machine.negotiation.settled = none)
    (ht : c.machine.phase.isTerminal = false) : c.heard?.toList = c.event.heard := by
  cases he : c.event <;> simp [heard?, he, hs, ht, Event.heard]

theorem heard?_of_settled {c : Call σ} (h : c.machine.negotiation.settled.isSome) :
    c.heard? = none := by
  cases he : c.event <;> simp [heard?, he, h]

theorem heard?_of_terminal {c : Call σ} (h : c.machine.phase.isTerminal) : c.heard? = none := by
  cases he : c.event <;> simp [heard?, he, h]

theorem heard?_of_heard {c : Call σ} (h : c.event.heard = []) : c.heard? = none := by
  cases he : c.event with
  | hello => simp [he, Event.heard] at h
  | _ => simp [heard?, he]

end Call

namespace Run

variable [Admission σ]

structure Stays (r r' : Run σ) : Prop where
  negotiation : r'.machine.negotiation = r.machine.negotiation
  heard : r'.heard = r.heard
  issued : r'.issued = r.issued
  running : r'.machine.phase.isTerminal = false → r.machine.phase.isTerminal = false

structure Moves (r : Run σ) (e : Event) (t : Turn) (r' : Run σ) : Prop where
  unsettled : r.machine.negotiation.settled = none
  running : r.machine.phase.isTerminal = false
  negotiates : r.machine.Negotiates e t
  negotiation : r'.machine.negotiation = t.machine.negotiation
  heard : r'.heard = r.heard ++ e.heard
  issued : t.failure = none → r'.issued = r.issued ++ t.issued
  failed : t.failure ≠ none → r'.issued = r.issued ∧ r'.machine.phase = .failed

theorem stays_of_passes {r : Run σ} (hn : (r.feed e).machine.negotiation = r.machine.negotiation)
    (hi : (r.call e).actions.filterMap Rehearsal.sentHello? = [])
    (hh : (r.call e).heard? = none)
    (hr : (r.feed e).machine.phase.isTerminal = false → r.machine.phase.isTerminal = false) :
    r.Stays (r.feed e) where
  negotiation := hn
  heard := by simp [hh]
  issued := by simp [hi]
  running := hr

theorem stays_or_moves (r : Run σ) (e : Event) :
    r.Stays (r.feed e) ∨ ∃ t, r.Moves e t (r.feed e) := by
  have h := r.reacts e
  generalize hm : (r.feed e).machine = m at h
  generalize ha : (r.call e).actions = as at h
  cases h with
  | ended ht =>
    exact .inl (stays_of_passes (by rw [hm]) (by rw [ha]; rfl) (Call.heard?_of_terminal ht)
      (by rw [hm]; exact id))
  | @goes t ht hh hf =>
    rcases hh.passes with ⟨hs, hn⟩ | ⟨hn, hi, hp⟩
    · refine .inr ⟨t, hs, ht, hn, by rw [hm], ?_, fun _ => by rw [feed_issued, ha]; rfl, ?_⟩
      · rw [feed_heard, Call.heard?_of_open hs ht]
        rfl
      · exact fun h => absurd hf h
    · refine .inl (stays_of_passes (by rw [hm, hn]) (by rw [ha]; exact hi) ?_ fun _ => ht)
      exact hp.elim (Call.heard?_of_heard (c := r.call e)) (Call.heard?_of_settled (c := r.call e))
  | @fails t error ht hh hf =>
    rcases hh.passes with ⟨hs, hn⟩ | ⟨hn, hi, hp⟩
    · refine .inr ⟨t, hs, ht, hn, by rw [hm]; rfl, ?_, ?_, fun _ => ⟨?_, by rw [hm]; rfl⟩⟩
      · rw [feed_heard, Call.heard?_of_open hs ht]
        rfl
      · intro h
        rw [hf] at h
        cases h
      · rw [feed_issued, ha]
        exact List.append_nil _
    · refine .inl (stays_of_passes (by rw [hm]; exact hn) (by rw [ha]; rfl) ?_ fun _ => ht)
      exact hp.elim (Call.heard?_of_heard (c := r.call e)) (Call.heard?_of_settled (c := r.call e))

theorem feed_capabilities (r : Run σ) (e : Event) :
    (r.feed e).machine.capabilities = r.machine.capabilities :=
  (r.reacts e).capabilities

theorem Under.capabilities {admits : Run σ → Event → Prop} {r : Run σ}
    (hr : r.Under c bitmapMode admits) : r.machine.capabilities = c := by
  induction hr with
  | start => rfl
  | feed _ _ ih => exact (feed_capabilities _ _).trans ih

end Run

end SwitchSession
