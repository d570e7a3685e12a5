import SwitchSession.Proofs.Handshake.Negotiation
import SwitchSession.Proofs.Version.Choice

namespace SwitchSession

namespace Action

def hello? : Action → Option Hello
  | .sendHello hello _ => some hello
  | _ => none

def request? : Action → Option Request
  | .requestFeatures request => some request
  | _ => none

def xid? : Action → Option Xid
  | .sendHello hello _ => some hello.xid
  | .requestFeatures request => some request.xid
  | _ => none

theorem length_filterMap_xid? (as : List Action) : (as.filterMap xid?).length =
    (as.filterMap hello?).length + (as.filterMap request?).length := by
  induction as with
  | nil => rfl
  | cons a as ih => cases a <;> simp only [List.filterMap_cons, xid?, hello?, request?, ih,
      List.length_cons] <;> omega

theorem filterMap_of_xid? {as : List Action} (h : as.filterMap xid? = []) :
    as.filterMap hello? = [] ∧ as.filterMap request? = [] := by
  have hl := length_filterMap_xid? as
  rw [h, List.length_nil, eq_comm, Nat.add_eq_zero_iff] at hl
  exact ⟨List.eq_nil_of_length_eq_zero hl.1, List.eq_nil_of_length_eq_zero hl.2⟩

end Action

namespace Machine

def noting (m : Machine) (received : Option Version) : Machine :=
  { m with negotiation := { m.negotiation with received } }

/-- What a move says unless it fails. A HELLO goes below the last proposal, and below or to any
version that the move finds too low. -/
inductive Speaks (m : Machine) : Turn → Prop
  | proposes (hv : v ∈ m.capabilities.versions) (hl : ∀ p, m.negotiation.proposed = some p → v < p)
      (hr : ∀ w, received = some w → v ≤ w ∨ m.negotiation.received = some w)
      (hx : m.negotiation.xid.next? = some xid) : Speaks m
      { machine := (m.noting received).proposing v xid
        actions := [.sendHello ⟨v, xid, [.versionBitmap m.capabilities.bitmap]⟩ next] }
  | settles (hx : m.negotiation.xid.next? = some xid) : Speaks m
      { machine := (m.fixing v).requesting xid, actions := [.requestFeatures ⟨v, xid⟩] }
  | meets (hv : v ∈ m.capabilities.versions) (hl : ∀ p, m.negotiation.proposed = some p → v < p)
      (hx : m.negotiation.xid.next? = some xid) (hy : xid.next? = some yid) : Speaks m
      { machine := (((m.rejecting v).proposing v xid).fixing v).requesting yid
        actions := [.sendHello ⟨v, xid, [.versionBitmap m.capabilities.bitmap]⟩ .wait,
          .requestFeatures ⟨v, yid⟩] }

theorem Sends.speaks {m : Machine} (received : Option Version)
    (ht : (m.noting received).Sends v next t) (hf : t.failure = none)
    (hv : v ∈ m.capabilities.versions) (hl : ∀ p, m.negotiation.proposed = some p → v < p)
    (hr : ∀ w, received = some w → v ≤ w ∨ m.negotiation.received = some w) : m.Speaks t := by
  cases ht with
  | sent hx => exact .proposes hv hl hr hx
  | exhausted => cases hf

theorem Settles.speaks {m : Machine} (ht : m.Settles v t) (hf : t.failure = none) :
    m.Speaks t := by
  cases ht with
  | requested hx => exact .settles hx
  | exhausted => cases hf

theorem Meets.speaks {m : Machine} (ht : (m.rejecting v).Meets v t) (hf : t.failure = none)
    (hv : v ∈ m.capabilities.versions) (hl : ∀ p, m.negotiation.proposed = some p → v < p) :
    m.Speaks t := by
  cases ht with
  | met hx ht =>
    cases ht with
    | requested hy => exact .meets hv hl hx hy
    | exhausted => cases hf
  | exhausted => cases hf

theorem lt_of_lt_ceiling {m : Machine} (hr : v < m.ceiling) :
    ∀ p, m.negotiation.proposed = some p → v < p :=
  fun _ hp => ceiling_of_proposed hp ▸ hr

theorem Compares.speaks {m : Machine} (ht : m.Compares remote t) (hf : t.failure = none) :
    m.Speaks t := by
  cases ht with
  | accepts _ ht => exact ht.speaks hf
  | stalls => cases hf
  | refuses => cases hf
  | lowers hr hv _ ht =>
    have hg := CapabilitySet.atMost?_eq_some_iff.1 hv
    refine Sends.speaks (some remote) ht hf hg.1.1
      (lt_of_lt_ceiling (hg.1.2.trans_lt hr)) ?_
    rintro _ ⟨⟩
    exact .inl hg.1.2
  | meets hr hv ht =>
    exact ht.speaks hf (CapabilitySet.mem_of_atMost? hv) (lt_of_lt_ceiling hr)

theorem Negotiates.speaks {m : Machine} (hn : m.Negotiates e t) (hf : t.failure = none) :
    (m.taking e).Speaks t := by
  have hfirst {b : Machine} (hp : b.negotiation.proposed = none) (v : Version) :
      ∀ p, b.negotiation.proposed = some p → v < p := by
    intro p h
    rw [hp] at h
    cases h
  cases hn with
  | opens hp ht =>
    exact Sends.speaks _ ht hf m.capabilities.highest_mem (hfirst hp _) fun _ => .inr
  | sharesNone => cases hf
  | answersBitmap _ _ hv hp ht =>
    exact Sends.speaks _ ht hf (CapabilitySet.mem_of_shared? hv) (hfirst hp _) fun _ => .inr
  | agrees _ _ _ _ ht => exact ht.speaks hf
  | refuses => cases hf
  | answersVersion _ hp hv ht =>
    exact Sends.speaks _ ht hf (CapabilitySet.mem_of_atMost? hv) (hfirst hp _) fun _ => .inr
  | weighs _ _ ht => exact ht.speaks hf
  | resumes ht => exact ht.speaks hf
  | confirms ht => exact ht.speaks hf

@[simp] theorem taking_proposed (m : Machine) (e : Event) :
    (m.taking e).negotiation.proposed = m.negotiation.proposed := by
  cases e <;> rfl

@[simp] theorem taking_received (m : Machine) (e : Event) :
    (m.taking e).negotiation.received = m.negotiation.received := by
  cases e <;> rfl

theorem taking_pendingXid (m : Machine) (e : Event) : (m.taking e).pendingXid = m.pendingXid := by
  cases e <;> rfl

theorem Handles.negotiates_or_silent {m : Machine} (hh : m.Handles granted e t) :
    (m.negotiation.settled = none ∧ m.Negotiates e t) ∨
      t.machine.negotiation = m.negotiation ∧ t.actions.filterMap Action.xid? = [] ∧
        (e.heard = [] ∨ m.negotiation.settled.isSome) ∧
        ∀ x, t.machine.pendingXid = some x → m.pendingXid = some x := by
  have hforget (x : Xid) : (none : Option Xid) = some x → m.pendingXid = some x := by
    intro h
    cases h
  cases hh with
  | ignores hi =>
    refine .inr ⟨rfl, rfl, ?_, fun _ => id⟩
    cases e with
    | hello => exact .inr hi
    | _ => exact .inl rfl
  | negotiates hs hn => exact .inl ⟨hs, hn⟩
  | unsent => exact .inr ⟨rfl, rfl, .inl rfl, fun _ => id⟩
  | loses => exact .inr ⟨rfl, rfl, .inl rfl, fun _ => id⟩
  | _ => exact .inr ⟨rfl, rfl, .inl rfl, hforget⟩

end Machine

namespace Call

variable [Admission σ]

def hellos (c : Call σ) : List Hello := c.actions.filterMap Action.hello?

def requests (c : Call σ) : List Request := c.actions.filterMap Action.request?

def xids (c : Call σ) : List Xid := c.actions.filterMap Action.xid?

end Call

namespace Run

variable [Admission σ] {r : Run σ} {e : Event}

def hellos (r : Run σ) : List Hello := r.actions.filterMap Action.hello?

def requests (r : Run σ) : List Request := r.actions.filterMap Action.request?

/-- The transaction ids of all messages, in the order of issue. -/
def xids (r : Run σ) : List Xid := r.actions.filterMap Action.xid?

@[simp] theorem feed_hellos (r : Run σ) (e : Event) :
    (r.feed e).hellos = r.hellos ++ (r.call e).hellos := by
  simp [hellos, Call.hellos]

@[simp] theorem feed_requests (r : Run σ) (e : Event) :
    (r.feed e).requests = r.requests ++ (r.call e).requests := by
  simp [requests, Call.requests]

@[simp] theorem feed_xids (r : Run σ) (e : Event) :
    (r.feed e).xids = r.xids ++ (r.call e).xids := by
  simp [xids, Call.xids]

theorem length_xids (r : Run σ) : r.xids.length = r.hellos.length + r.requests.length :=
  Action.length_filterMap_xid? r.actions

/-- The call sends nothing. It ends the run, or it leaves the negotiation as it was. -/
structure Silent (r : Run σ) (e : Event) : Prop where
  nothing : (r.call e).xids = []
  running : (r.feed e).machine.phase.isTerminal = false → r.machine.phase.isTerminal = false
  negotiation : (r.feed e).machine.phase.isTerminal = false →
    (r.feed e).machine.negotiation = r.machine.negotiation
  heard : (r.feed e).machine.phase.isTerminal = false → (r.call e).heard? = none
  pending : ∀ x, (r.feed e).machine.pendingXid = some x →
    r.machine.pendingXid = some x ∧ (r.feed e).machine.negotiation = r.machine.negotiation

/-- The call is a move that sends what `t` says. -/
structure Utters (r : Run σ) (e : Event) (t : Turn) : Prop where
  unsettled : r.machine.negotiation.settled = none
  running : r.machine.phase.isTerminal = false
  speaks : (r.machine.taking e).Speaks t
  machine : (r.feed e).machine = t.machine
  actions : (r.call e).actions = t.actions
  heard : (r.call e).heard?.toList = e.heard

theorem silent_or_utters (r : Run σ) (e : Event) : r.Silent e ∨ ∃ t, r.Utters e t := by
  have h := r.reacts e
  generalize hm : (r.feed e).machine = m at h
  generalize ha : (r.call e).actions = as at h
  cases h with
  | ended ht =>
    refine .inl ⟨by rw [Call.xids, ha]; rfl, ?_, ?_, ?_, ?_⟩
    · rw [hm]; exact id
    · rw [hm]; exact fun _ => rfl
    · exact fun _ => Call.heard?_of_terminal ht
    · rw [hm]; exact fun _ h => ⟨h, rfl⟩
  | @goes t ht hh hf =>
    rcases hh.negotiates_or_silent with ⟨hs, hn⟩ | ⟨hn, hx, hp, hq⟩
    · exact .inr ⟨t, hs, ht, hn.speaks hf, hm, ha, Call.heard?_of_open hs ht⟩
    · refine .inl ⟨by rw [Call.xids, ha, hx], fun _ => ht, ?_, ?_, ?_⟩
      · rw [hm]; exact fun _ => hn
      · exact fun _ => hp.elim (Call.heard?_of_heard (c := r.call e))
          (Call.heard?_of_settled (c := r.call e))
      · rw [hm]; exact fun x h => ⟨hq x h, hn⟩
  | @fails t error ht hh hf =>
    have hend : ¬ (r.feed e).machine.phase.isTerminal = false := by
      rw [hm]
      exact Bool.noConfusion
    refine .inl ⟨by rw [Call.xids, ha]; rfl, fun h => absurd h hend, fun h => absurd h hend,
      fun h => absurd h hend, ?_⟩
    rw [hm]
    rintro _ ⟨⟩

/-- Induction on a run that tells the calls that send nothing from those that send. -/
@[elab_as_elim]
theorem Under.message_induction {admits : Run σ → Event → Prop}
    {motive : ∀ r : Run σ, r.Under c bitmapMode admits → Prop}
    (start : ∀ limiter, motive (fresh c bitmapMode limiter) (.start limiter))
    (silent : ∀ {r e} (hr : r.Under c bitmapMode admits) (ha : admits r e), r.Silent e →
      motive r hr → motive (r.feed e) (hr.feed ha))
    (utters : ∀ {r e t} (hr : r.Under c bitmapMode admits) (ha : admits r e), r.Utters e t →
      motive r hr → motive (r.feed e) (hr.feed ha))
    {r : Run σ} (hr : r.Under c bitmapMode admits) : motive r hr := by
  induction hr with
  | start limiter => exact start limiter
  | @feed r e hr ha ih =>
    rcases r.silent_or_utters e with hq | ⟨_, hu⟩
    · exact silent hr ha hq ih
    · exact utters hr ha hu ih

theorem Silent.hellos (h : r.Silent e) : (r.feed e).hellos = r.hellos := by
  rw [feed_hellos, Call.hellos, (Action.filterMap_of_xid? h.nothing).1, List.append_nil]

theorem Silent.requests (h : r.Silent e) : (r.feed e).requests = r.requests := by
  rw [feed_requests, Call.requests, (Action.filterMap_of_xid? h.nothing).2, List.append_nil]

theorem Silent.xids (h : r.Silent e) : (r.feed e).xids = r.xids := by
  rw [feed_xids, h.nothing, List.append_nil]

theorem Utters.hellos (h : r.Utters e t) :
    (r.feed e).hellos = r.hellos ++ t.actions.filterMap Action.hello? := by
  rw [feed_hellos, Call.hellos, h.actions]

theorem Utters.requests (h : r.Utters e t) :
    (r.feed e).requests = r.requests ++ t.actions.filterMap Action.request? := by
  rw [feed_requests, Call.requests, h.actions]

theorem Utters.xids (h : r.Utters e t) :
    (r.feed e).xids = r.xids ++ t.actions.filterMap Action.xid? := by
  rw [feed_xids, Call.xids, h.actions]

/-- No request goes out before a version is settled and only one after it; its id is the one whose
reply is waited for, if any. -/
structure Asks (r : Run σ) : Prop where
  atMostOne : r.requests.length ≤ 1
  unsettled : r.machine.phase.isTerminal = false → r.machine.negotiation.settled = none →
    r.requests = []
  pending : ∀ x, r.machine.pendingXid = some x →
    ∃ v, r.machine.negotiation.settled = some v ∧ r.requests = [⟨v, x⟩]

theorem asks_of_none (hr : r.requests = []) (hp : r.machine.pendingXid = none) : r.Asks where
  atMostOne := hr ▸ Nat.zero_le 1
  unsettled _ _ := hr
  pending x hx := by
    rw [hp] at hx
    cases hx

theorem asks_of_request (hr : r.requests = [⟨v, x⟩]) (hs : r.machine.negotiation.settled = some v)
    (hp : r.machine.pendingXid = some x) : r.Asks where
  atMostOne := hr ▸ le_refl 1
  unsettled _ h := by
    rw [hs] at h
    cases h
  pending y hy := by
    rw [hp] at hy
    cases hy
    exact ⟨v, hs, hr⟩

theorem Asks.pendingXid_eq_none (h : r.Asks) (hs : r.machine.negotiation.settled = none) :
    r.machine.pendingXid = none := by
  cases hp : r.machine.pendingXid with
  | none => rfl
  | some x =>
    obtain ⟨v, hv, _⟩ := h.pending x hp
    rw [hs] at hv
    cases hv

theorem Asks.silent (h : r.Asks) (hq : r.Silent e) : (r.feed e).Asks := by
  refine ⟨hq.requests ▸ h.atMostOne, fun ht hs => ?_, fun x hx => ?_⟩
  · rw [hq.requests]
    exact h.unsettled (hq.running ht) (hq.negotiation ht ▸ hs)
  · obtain ⟨hx, hn⟩ := hq.pending x hx
    rw [hq.requests, hn]
    exact h.pending x hx

theorem Asks.utters (h : r.Asks) (hu : r.Utters e t) : (r.feed e).Asks := by
  have hr : (r.feed e).requests = t.actions.filterMap Action.request? := by
    rw [hu.requests, h.unsettled hu.running hu.unsettled, List.nil_append]
  have hm := hu.machine
  cases hu.speaks with
  | proposes =>
    refine asks_of_none hr ?_
    rw [hm]
    exact (r.machine.taking_pendingXid e).trans (h.pendingXid_eq_none hu.unsettled)
  | settles => exact asks_of_request hr (hm ▸ rfl) (hm ▸ rfl)
  | meets => exact asks_of_request hr (hm ▸ rfl) (hm ▸ rfl)

theorem Under.asks {admits : Run σ → Event → Prop} (hr : r.Under c bitmapMode admits) :
    r.Asks := by
  induction hr using Under.message_induction with
  | start => exact asks_of_none rfl rfl
  | silent _ _ hq ih => exact ih.silent hq
  | utters _ _ hu ih => exact ih.utters hu

end Run

end SwitchSession
