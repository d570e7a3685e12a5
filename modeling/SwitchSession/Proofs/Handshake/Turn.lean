import SwitchSession.Handshake.Machine

/-!
What one event can do to a machine. `Handles` lists every way in which a turn can go, so that a
proof about turns goes by its cases and opens none of the handlers.
-/

namespace SwitchSession

theorem CapabilitySet.proposeAtMost_of_some {c : CapabilitySet} (h : c.atMost? remote = some v) :
    c.proposeAtMost remote = .ok v := by
  simp only [proposeAtMost, h]

theorem CapabilitySet.proposeAtMost_of_none {c : CapabilitySet} (h : c.atMost? remote = none) :
    c.proposeAtMost remote = .error (.noCommonVersion
      ("no equal or lower version found, unsupported version: " ++ remote.text)) := by
  simp only [proposeAtMost, h]

theorem CapabilitySet.proposeShared_of_some {c : CapabilitySet} (h : c.shared? bs = some v)
    (hb : bs ≠ []) : c.proposeShared bs = .ok v := by
  simp only [proposeShared, List.isEmpty_iff, hb, if_false, h]

theorem CapabilitySet.proposeShared_of_none {c : CapabilitySet} (h : c.shared? bs = none)
    (hb : bs ≠ []) : c.proposeShared bs =
      .error (.noCommonVersion "no common version found in version bitmap") := by
  simp only [proposeShared, List.isEmpty_iff, hb, if_false, h]

theorem Hello.bitmaps?_ne_nil {h : Hello} (hb : h.bitmaps? = some bs) : bs ≠ [] := by
  simp only [bitmaps?, Option.ite_none_left_eq_some, Option.some.injEq] at hb
  obtain ⟨hne, rfl⟩ := hb
  simpa only [List.isEmpty_iff] using hne

def Negotiation.ceiling (n : Negotiation) (c : CapabilitySet) : Version :=
  n.proposed.getD c.highest

theorem Negotiation.ceiling_of_proposed {n : Negotiation} (h : n.proposed = some p)
    (c : CapabilitySet) : n.ceiling c = p := by
  simp [ceiling, h]

theorem Negotiation.ceiling_of_none {n : Negotiation} (h : n.proposed = none)
    (c : CapabilitySet) : n.ceiling c = c.highest := by
  simp [ceiling, h]

namespace Machine

def ceiling (m : Machine) : Version := m.negotiation.ceiling m.capabilities

theorem ceiling_of_proposed {m : Machine} (h : m.negotiation.proposed = some p) :
    m.ceiling = p :=
  Negotiation.ceiling_of_proposed h _

/-- The machine once it has taken in a HELLO, before it answers. -/
def hearing (m : Machine) (h : Hello) : Machine :=
  { m with
    negotiation := { m.negotiation.reseed h.xid with
      bitmapMode := m.negotiation.bitmapMode && h.bitmaps?.isSome }
    phase := .negotiating }

def rejecting (m : Machine) (remote : Version) : Machine :=
  { m with negotiation := { m.negotiation with received := some remote } }

def proposing (m : Machine) (v : Version) (xid : Xid) : Machine :=
  { m with negotiation := { m.negotiation with xid, proposed := some v } }

def fixing (m : Machine) (v : Version) : Machine :=
  { m with
    negotiation := { m.negotiation with settled := some v }
    phase := .versionSettled }

def requesting (m : Machine) (xid : Xid) : Machine :=
  { m with
    negotiation := { m.negotiation with xid }
    pendingXid := some xid
    phase := .featuresRequested }

@[simp] theorem attempt_ok (m : Machine) (a : α) (next : α → Turn) :
    m.attempt (.ok a) next = next a := rfl

theorem nextXid_of_some {m : Machine} (h : m.negotiation.xid.next? = some xid) :
    m.nextXid = .ok xid := by
  simp only [nextXid, h]

theorem nextXid_of_none {m : Machine} (h : m.negotiation.xid.next? = none) :
    m.nextXid = .error .xidExhausted := by
  simp only [nextXid, h]

/-- What sending a HELLO comes to: it fails only for want of a transaction id. -/
inductive Sends (m : Machine) (v : Version) (next : Continuation) : Turn → Prop
  | sent (hx : m.negotiation.xid.next? = some xid) : Sends m v next
      { machine := m.proposing v xid
        actions := [.sendHello ⟨v, xid, [.versionBitmap m.capabilities.bitmap]⟩ next] }
  | exhausted (hx : m.negotiation.xid.next? = none) : Sends m v next
      { machine := m, failure := some .xidExhausted }

theorem sendHello_sends (m : Machine) (v : Version) (next : Continuation) :
    m.Sends v next (m.sendHello v next) := by
  unfold sendHello
  cases hx : m.negotiation.xid.next? with
  | some xid => rw [nextXid_of_some hx]; exact .sent hx
  | none => rw [nextXid_of_none hx]; exact .exhausted hx

/-- What settling comes to: the version stays fixed even if its request finds no id. -/
inductive Settles (m : Machine) (v : Version) : Turn → Prop
  | requested (hx : m.negotiation.xid.next? = some xid) : Settles m v
      { machine := (m.fixing v).requesting xid, actions := [.requestFeatures ⟨v, xid⟩] }
  | exhausted (hx : m.negotiation.xid.next? = none) : Settles m v
      { machine := m.fixing v, failure := some .xidExhausted }

theorem settle_settles (m : Machine) (v : Version) : m.Settles v (m.settle v) := by
  change m.Settles v ((m.fixing v).attempt (m.fixing v).nextXid _)
  cases hx : m.negotiation.xid.next? with
  | some xid => rw [nextXid_of_some (m := m.fixing v) hx]; exact .requested hx
  | none => rw [nextXid_of_none (m := m.fixing v) hx]; exact .exhausted hx

inductive Meets (m : Machine) (v : Version) : Turn → Prop
  | met (hx : m.negotiation.xid.next? = some xid) (ht : (m.proposing v xid).Settles v t) :
      Meets m v { t with
        actions := .sendHello ⟨v, xid, [.versionBitmap m.capabilities.bitmap]⟩ .wait :: t.actions }
  | exhausted (hx : m.negotiation.xid.next? = none) :
      Meets m v { machine := m, failure := some .xidExhausted }

theorem sendHello_settle_meets (m : Machine) (v : Version) :
    m.Meets v ((m.sendHello v .wait).andThen (·.settle v)) := by
  have h := m.sendHello_sends v .wait
  generalize m.sendHello v .wait = t at h
  cases h with
  | sent hx => exact .met hx (settle_settles _ v)
  | exhausted hx => exact .exhausted hx

/-- The five ends of weighing a peer version. -/
inductive Compares (m : Machine) (remote : Version) : Turn → Prop
  | accepts (hr : m.ceiling ≤ remote) (ht : m.Settles m.ceiling t) : Compares m remote t
  | stalls (hr : remote < m.ceiling) (hs : m.negotiation.received = some remote) :
      Compares m remote { machine := m, failure := some (.negotiationStalled remote) }
  | refuses (hr : remote < m.ceiling) (hv : m.capabilities.atMost? remote = none) :
      Compares m remote { machine := m.rejecting remote, failure := some (.noCommonVersion
        ("no equal or lower version found, unsupported version: " ++ remote.text)) }
  | lowers (hr : remote < m.ceiling) (hv : m.capabilities.atMost? remote = some v)
      (hne : v ≠ remote) (ht : (m.rejecting remote).Sends v .wait t) : Compares m remote t
  | meets (hr : remote < m.ceiling) (hv : m.capabilities.atMost? remote = some remote)
      (ht : (m.rejecting remote).Meets remote t) : Compares m remote t

theorem andThen_idle (t : Turn) : (t.andThen fun m => { machine := m }) = t := by
  obtain ⟨machine, actions, failure⟩ := t
  cases failure with
  | none => simp [Turn.andThen]
  | some => rfl

theorem compareWithProposal_compares (m : Machine) (remote : Version) :
    m.Compares remote (m.compareWithProposal remote) := by
  change m.Compares remote (if m.ceiling ≤ remote then _ else _)
  by_cases hr : m.ceiling ≤ remote
  · rw [if_pos hr]
    exact .accepts hr (settle_settles m _)
  rw [if_neg hr]
  have hr' : remote < m.ceiling := Fin.not_le.1 hr
  by_cases hs : m.negotiation.received = some remote
  · rw [if_pos (by simp [SwitchSession.stalls, hs])]
    exact .stalls hr' hs
  rw [if_neg (by simp [SwitchSession.stalls, hs])]
  change m.Compares remote ((m.rejecting remote).attempt (m.capabilities.proposeAtMost remote) _)
  cases hv : m.capabilities.atMost? remote with
  | none =>
    rw [CapabilitySet.proposeAtMost_of_none hv]
    exact .refuses hr' hv
  | some v =>
    rw [CapabilitySet.proposeAtMost_of_some hv]
    change m.Compares remote (((m.rejecting remote).sendHello v .wait).andThen fun m =>
      if v = remote then m.settle v else { machine := m })
    by_cases he : v = remote
    · subst v
      simp only [if_true]
      exact .meets hr' hv (sendHello_settle_meets _ remote)
    · simp only [if_neg he, andThen_idle]
      exact .lowers hr' hv he (sendHello_sends _ v _)

def Ignores (m : Machine) : Event → Prop
  | .initiate => m.negotiation.settled.isSome ∨ m.negotiation.proposed.isSome
  | .hello _ => m.negotiation.settled.isSome
  | .helloSent _ (.ok ()) next => m.negotiation.settled.isSome ∨ next = .wait
  | .features xid _ => m.pendingXid ≠ some xid
  | _ => False

/-- Every way in which a machine without a version can act on one. -/
inductive Negotiates (m : Machine) : Event → Turn → Prop
  | opens (hp : m.negotiation.proposed = none)
      (ht : m.Sends m.capabilities.highest .wait t) : Negotiates m .initiate t
  | sharesNone (hm : m.negotiation.bitmapMode = true) (hb : h.bitmaps? = some bs)
      (hv : m.capabilities.shared? bs = none) :
      Negotiates m (.hello h) { machine := m.hearing h, failure := some (.noCommonVersion
        "no common version found in version bitmap") }
  | answersBitmap (hm : m.negotiation.bitmapMode = true) (hb : h.bitmaps? = some bs)
      (hv : m.capabilities.shared? bs = some v) (hp : m.negotiation.proposed = none)
      (ht : (m.hearing h).Sends v (.settle v) t) : Negotiates m (.hello h) t
  | agrees (hm : m.negotiation.bitmapMode = true) (hb : h.bitmaps? = some bs)
      (hv : m.capabilities.shared? bs = some v) (hp : m.negotiation.proposed = some p)
      (ht : (m.hearing h).Settles v t) : Negotiates m (.hello h) t
  | refuses (hm : (m.hearing h).negotiation.bitmapMode = false)
      (hp : m.negotiation.proposed = none) (hv : m.capabilities.atMost? h.version = none) :
      Negotiates m (.hello h) { machine := m.hearing h, failure := some (.noCommonVersion
        ("no equal or lower version found, unsupported version: " ++ h.version.text)) }
  | answersVersion (hm : (m.hearing h).negotiation.bitmapMode = false)
      (hp : m.negotiation.proposed = none) (hv : m.capabilities.atMost? h.version = some v)
      (ht : (m.hearing h).Sends v (.compare h.version) t) : Negotiates m (.hello h) t
  | weighs (hm : (m.hearing h).negotiation.bitmapMode = false)
      (hp : m.negotiation.proposed = some p) (ht : (m.hearing h).Compares h.version t) :
      Negotiates m (.hello h) t
  | resumes (ht : m.Compares remote t) :
      Negotiates m (.helloSent xid (.ok ()) (.compare remote)) t
  | confirms (ht : m.Settles v t) : Negotiates m (.helloSent xid (.ok ()) (.settle v)) t

inductive Handles (m : Machine) (granted : Bool) : Event → Turn → Prop
  | ignores (hi : m.Ignores e) : Handles m granted e { machine := m }
  | negotiates (hs : m.negotiation.settled = none) (hn : m.Negotiates e t) : Handles m granted e t
  | unsent : Handles m granted (.helloSent xid (.error cause) next)
      { machine := m, failure := some (.sendFailed .hello xid cause) }
  | unanswered (hx : m.pendingXid = some xid) : Handles m granted (.features xid (.error cause))
      { machine := { m with pendingXid := none }
        failure := some (.sendFailed .featuresRequest xid cause) }
  | unasked (hx : m.pendingXid = some xid) (hs : m.negotiation.settled = none) :
      Handles m granted (.features xid (.ok features)) { machine := { m with pendingXid := none } }
  | denied (hx : m.pendingXid = some xid) (hs : m.negotiation.settled = some v)
      (hg : granted = false) : Handles m granted (.features xid (.ok features))
      { machine := { m with pendingXid := none }
        failure := some (.admissionDenied features.datapath) }
  | admits (hx : m.pendingXid = some xid) (hs : m.negotiation.settled = some v)
      (hg : granted = true) : Handles m granted (.features xid (.ok features))
      { machine := { m with
          pendingXid := none
          phase := .success
          outcome := some (.success v features) }
        actions := [.notifySuccess features v] }
  | loses : Handles m granted .connectionLost { machine := m, failure := some .connectionClosed }

theorem hearing_of_bitmaps (m : Machine) (hb : h.bitmaps? = some bs) :
    m.hearing h = { m with negotiation := m.negotiation.reseed h.xid, phase := .negotiating } := by
  simp only [hearing, hb, Option.isSome_some, Bool.and_true]
  rfl

theorem hearing_of_no_bitmaps (m : Machine) (hb : h.bitmaps? = none) :
    m.hearing h = { m with
      negotiation := { m.negotiation.reseed h.xid with bitmapMode := false }
      phase := .negotiating } := by
  simp only [hearing, hb, Option.isSome_none, Bool.and_false]

theorem stepByStep_negotiates {m : Machine}
    (hm : (m.hearing h).negotiation.bitmapMode = false) :
    m.Negotiates (.hello h) ((m.hearing h).stepByStep h.version) := by
  unfold stepByStep
  cases hp : m.negotiation.proposed with
  | some p =>
    rw [if_pos (by simp [hearing, hp])]
    exact .weighs hm hp (compareWithProposal_compares _ _)
  | none =>
    rw [if_neg (by simp [hearing, hp]), show (m.hearing h).capabilities = m.capabilities from rfl]
    cases hv : m.capabilities.atMost? h.version with
    | none =>
      rw [CapabilitySet.proposeAtMost_of_none hv]
      exact .refuses hm hp hv
    | some v =>
      rw [CapabilitySet.proposeAtMost_of_some hv]
      exact .answersVersion hm hp hv (sendHello_sends _ v _)

theorem negotiateByBitmap_negotiates {m : Machine} (hm : m.negotiation.bitmapMode = true)
    (hb : h.bitmaps? = some bs) :
    m.Negotiates (.hello h) ((m.hearing h).negotiateByBitmap bs) := by
  have hne := Hello.bitmaps?_ne_nil hb
  unfold negotiateByBitmap
  rw [show (m.hearing h).capabilities = m.capabilities from rfl]
  cases hv : m.capabilities.shared? bs with
  | none =>
    rw [CapabilitySet.proposeShared_of_none hv hne]
    exact .sharesNone hm hb hv
  | some v =>
    rw [CapabilitySet.proposeShared_of_some hv hne, attempt_ok]
    cases hp : m.negotiation.proposed with
    | none =>
      rw [if_neg (by simp [hearing, hp])]
      exact .answersBitmap hm hb hv hp (sendHello_sends _ v _)
    | some p =>
      rw [if_pos (by simp [hearing, hp])]
      exact .agrees hm hb hv hp (settle_settles _ v)

theorem onHello_of_settled (m : Machine) (hs : m.negotiation.settled.isSome) (h : Hello) :
    m.onHello h = { machine := m } := by
  simp only [onHello, hs, if_true]

theorem onHello_of_bitmaps (m : Machine) (hs : m.negotiation.settled = none)
    (hb : h.bitmaps? = some bs) : m.onHello h =
      if m.negotiation.bitmapMode then (m.hearing h).negotiateByBitmap bs
      else (m.hearing h).stepByStep h.version := by
  simp only [onHello, hs, hb, hearing_of_bitmaps m hb, Option.isSome_none, Bool.false_eq_true,
    if_false]
  rfl

theorem onHello_of_no_bitmaps (m : Machine) (hs : m.negotiation.settled = none)
    (hb : h.bitmaps? = none) : m.onHello h = (m.hearing h).stepByStep h.version := by
  simp only [onHello, hs, hb, hearing_of_no_bitmaps m hb, Option.isSome_none, Bool.false_eq_true,
    if_false]

theorem onHello_handles (m : Machine) (granted : Bool) (h : Hello) :
    m.Handles granted (.hello h) (m.onHello h) := by
  cases hs : m.negotiation.settled with
  | some v =>
    rw [onHello_of_settled m (by simp [hs])]
    exact .ignores (by simp [Ignores, hs])
  | none =>
    cases hb : h.bitmaps? with
    | none =>
      rw [onHello_of_no_bitmaps m hs hb]
      exact .negotiates hs (stepByStep_negotiates (by simp [hearing, hb]))
    | some bs =>
      rw [onHello_of_bitmaps m hs hb]
      cases hm : m.negotiation.bitmapMode with
      | true => exact .negotiates hs (negotiateByBitmap_negotiates hm hb)
      | false => exact .negotiates hs (stepByStep_negotiates (by simp [hearing, hm]))

theorem onHelloSent_handles (m : Machine) (granted : Bool) (xid : Xid)
    (result : Except TransportError Unit) (next : Continuation) :
    m.Handles granted (.helloSent xid result next) (m.onHelloSent xid result next) := by
  cases result with
  | error cause => exact .unsent
  | ok =>
    unfold onHelloSent
    cases hs : m.negotiation.settled with
    | some v =>
      simp only [Option.isSome_some, if_true]
      exact .ignores (by simp [Ignores, hs])
    | none =>
      simp only [Option.isSome_none, Bool.false_eq_true, if_false]
      cases next with
      | wait => exact .ignores (by simp [Ignores])
      | compare remote => exact .negotiates hs (.resumes (compareWithProposal_compares m remote))
      | settle v => exact .negotiates hs (.confirms (settle_settles m v))

theorem onFeatures_handles (m : Machine) (granted : Bool) (xid : Xid)
    (result : Except TransportError FeatureSet) :
    m.Handles granted (.features xid result) (m.onFeatures granted xid result) := by
  unfold onFeatures
  by_cases hx : m.pendingXid = some xid
  · rw [if_pos hx]
    cases result with
    | error cause => exact .unanswered hx
    | ok features =>
      cases hs : m.negotiation.settled with
      | none => simpa only [hs] using Handles.unasked hx hs
      | some v =>
        cases granted with
        | true => simpa only [hs, if_true] using Handles.admits hx hs rfl
        | false => simpa only [hs, Bool.false_eq_true, if_false] using Handles.denied hx hs rfl
  · rw [if_neg hx]
    exact .ignores hx

theorem turn_handles (m : Machine) (granted : Bool) (e : Event) :
    m.Handles granted e (m.turn granted e) := by
  cases e with
  | initiate =>
    change m.Handles granted .initiate (m.onInitiate)
    unfold onInitiate
    split
    · next hi => exact .ignores (by simpa [Ignores] using hi)
    · next hi =>
      simp only [Bool.or_eq_true, not_or, Option.not_isSome_iff_eq_none] at hi
      exact .negotiates hi.1 (.opens hi.2 (sendHello_sends m _ _))
  | hello h => exact onHello_handles m granted h
  | helloSent xid result next => exact onHelloSent_handles m granted xid result next
  | features xid result => exact onFeatures_handles m granted xid result
  | connectionLost => exact .loses

end Machine

end SwitchSession
