import SwitchSession.Proofs.Handshake.Outcome

namespace SwitchSession

/-- The peer version that an event brings. -/
def Event.remote? : Event → Option Version
  | .hello h => some h.version
  | .helloSent _ (.ok ()) (.compare remote) => some remote
  | _ => none

namespace Machine

/-- An error of the negotiation, with the event that it is due to and the machine that it left. -/
inductive Quits (m : Machine) (e : Event) (left : Machine) : HandshakeError → Prop
  | sharesNone (he : e = .hello h) (hb : h.bitmaps? = some bs)
      (hv : m.capabilities.shared? bs = none) : Quits m e left (.noCommonVersion detail)
  | refuses (he : e.remote? = some remote) (hv : m.capabilities.atMost? remote = none) :
      Quits m e left (.noCommonVersion detail)
  | stalls (he : e.remote? = some remote) : Quits m e left (.negotiationStalled remote)
  | exhausted (hx : left.negotiation.xid.next? = none) : Quits m e left .xidExhausted

theorem Sends.quits {m b : Machine} (ht : b.Sends v next t) (hf : t.failure = some error)
    (e : Event) : m.Quits e t.machine error := by
  cases ht with
  | sent => cases hf
  | exhausted hx =>
    cases hf
    exact .exhausted hx

theorem Settles.quits {m b : Machine} (ht : b.Settles v t) (hf : t.failure = some error)
    (e : Event) : m.Quits e t.machine error := by
  cases ht with
  | requested => cases hf
  | exhausted hx =>
    cases hf
    exact .exhausted hx

theorem Meets.quits {m b : Machine} (ht : b.Meets v t) (hf : t.failure = some error)
    (e : Event) : m.Quits e t.machine error := by
  cases ht with
  | met _ ht => exact ht.quits hf e
  | exhausted hx =>
    cases hf
    exact .exhausted hx

theorem Compares.quits {m b : Machine} (ht : b.Compares remote t) (hf : t.failure = some error)
    (hc : b.capabilities = m.capabilities) (he : e.remote? = some remote) :
    m.Quits e t.machine error := by
  cases ht with
  | accepts _ ht => exact ht.quits hf e
  | stalls =>
    cases hf
    exact .stalls he
  | refuses _ hv =>
    cases hf
    exact .refuses he (hc ▸ hv)
  | lowers _ _ _ ht => exact ht.quits hf e
  | meets _ _ ht => exact ht.quits hf e

theorem Negotiates.quits {m : Machine} (hn : m.Negotiates e t) (hf : t.failure = some error) :
    m.Quits e t.machine error := by
  cases hn with
  | opens _ ht => exact ht.quits hf _
  | sharesNone _ hb hv =>
    cases hf
    exact .sharesNone rfl hb hv
  | answersBitmap _ _ _ _ ht => exact ht.quits hf _
  | agrees _ _ _ _ ht => exact ht.quits hf _
  | refuses _ _ hv =>
    cases hf
    exact .refuses rfl hv
  | answersVersion _ _ _ ht => exact ht.quits hf _
  | weighs _ _ ht => exact ht.quits hf rfl rfl
  | resumes ht => exact ht.quits hf rfl rfl
  | confirms ht => exact ht.quits hf _

/-- An error of the handshake, with the event that it is due to. -/
inductive Blames (m : Machine) (e : Event) (left : Machine) : HandshakeError → Prop
  | negotiation (hq : m.Quits e left error) : Blames m e left error
  | unsent (he : e = .helloSent xid (.error cause) next) :
      Blames m e left (.sendFailed .hello xid cause)
  | unanswered (he : e = .features xid (.error cause)) :
      Blames m e left (.sendFailed .featuresRequest xid cause)
  | denied (he : e = .features xid (.ok features)) :
      Blames m e left (.admissionDenied features.datapath)
  | lost (he : e = .connectionLost) : Blames m e left .connectionClosed

theorem Handles.blames {m : Machine} (hh : m.Handles granted e t) (hf : t.failure = some error) :
    m.Blames e t.machine error := by
  cases hh with
  | ignores => cases hf
  | negotiates _ hn => exact .negotiation (hn.quits hf)
  | unsent =>
    cases hf
    exact .unsent rfl
  | unanswered =>
    cases hf
    exact .unanswered rfl
  | unasked => cases hf
  | denied =>
    cases hf
    exact .denied rfl
  | admits => cases hf
  | loses =>
    cases hf
    exact .lost rfl

theorem Settles.not_mem_sendHello {m : Machine} (ht : m.Settles v t) :
    .sendHello hello next ∉ t.actions := by
  cases ht <;> simp

theorem Sends.eq_of_mem {m : Machine} (ht : m.Sends v next t)
    (ha : .sendHello hello next' ∈ t.actions) : next' = next := by
  cases ht with
  | sent => exact (Action.sendHello.inj (List.mem_singleton.1 ha)).2
  | exhausted => cases ha

theorem Meets.eq_of_mem {m : Machine} (ht : m.Meets v t)
    (ha : .sendHello hello next ∈ t.actions) : next = .wait := by
  cases ht with
  | met _ ht =>
    rcases List.mem_cons.1 ha with ha | ha
    · exact (Action.sendHello.inj ha).2
    · exact absurd ha ht.not_mem_sendHello
  | exhausted => cases ha

theorem Compares.eq_of_mem {m : Machine} (ht : m.Compares remote t)
    (ha : .sendHello hello next ∈ t.actions) : next = .wait := by
  cases ht with
  | accepts _ ht => exact absurd ha ht.not_mem_sendHello
  | stalls => cases ha
  | refuses => cases ha
  | lowers _ _ _ ht => exact ht.eq_of_mem ha
  | meets _ _ ht => exact ht.eq_of_mem ha

/-- A version that is to be weighed once a HELLO has gone out is that of the HELLO just read. -/
theorem Negotiates.eq_hello {m : Machine} (hn : m.Negotiates e t)
    (ha : .sendHello hello (.compare remote) ∈ t.actions) :
    ∃ h, e = .hello h ∧ h.version = remote := by
  cases hn with
  | opens _ ht => cases ht.eq_of_mem ha
  | sharesNone => cases ha
  | answersBitmap _ _ _ _ ht => cases ht.eq_of_mem ha
  | agrees _ _ _ _ ht => exact absurd ha ht.not_mem_sendHello
  | refuses => cases ha
  | answersVersion _ _ _ ht =>
    cases ht.eq_of_mem ha
    exact ⟨_, rfl, rfl⟩
  | weighs _ _ ht => cases ht.eq_of_mem ha
  | resumes ht => cases ht.eq_of_mem ha
  | confirms ht => exact absurd ha ht.not_mem_sendHello

theorem Handles.eq_hello {m : Machine} (hh : m.Handles granted e t)
    (ha : .sendHello hello (.compare remote) ∈ t.actions) :
    ∃ h, e = .hello h ∧ h.version = remote := by
  cases hh with
  | negotiates _ hn => exact hn.eq_hello ha
  | admits => simp at ha
  | _ => cases ha

end Machine

end SwitchSession
