import SwitchSession.Proofs.Engine.Notices
import SwitchSession.Proofs.Engine.Turn
import SwitchSession.Proofs.Handshake.Causes

namespace SwitchSession

/-- What speaks for an event: the exchanges, the signals that were told, and whether anybody is left
to tell more. -/
structure Evidence where
  transport : Transport
  told : List Signal
  handles : Nat

structure Evidence.Grows (v v' : Evidence) : Prop where
  transport : v.transport.Retains v'.transport
  told : v.told ⊆ v'.told
  handles : v.handles = 0 → v'.handles = 0

theorem Evidence.Grows.refl (v : Evidence) : v.Grows v := ⟨.refl _, List.Subset.refl _, id⟩

def Handshake.Move.signal? : Handshake.Move → Option Signal
  | .tell signal => some signal
  | _ => none

/-- The version that is to be weighed later was read in a HELLO. -/
def Continuation.Stems (v : Evidence) : Continuation → Prop
  | .compare remote => ∃ h, .hello h ∈ v.told ∧ h.version = remote
  | _ => True

def InFlight.Stems (v : Evidence) : InFlight → Prop
  | .hello index xid next =>
    (∃ x, v.transport.hellos[index]? = some x ∧ x.request.xid = xid) ∧ next.Stems v
  | .features index xid => ∃ x, v.transport.features[index]? = some x ∧ x.request.xid = xid

def Event.Stems (v : Evidence) : Event → Prop
  | .initiate => True
  | .hello h => .hello h ∈ v.told
  | .helloSent xid result next =>
    (∃ x ∈ v.transport.hellos, x.request.xid = xid ∧ x.reply = some result) ∧ next.Stems v
  | .features xid result =>
    ∃ x ∈ v.transport.features, x.request.xid = xid ∧ x.reply = some result
  | .connectionLost => .connectionLost ∈ v.told ∨ v.handles = 0

def Action.Stems (v : Evidence) : Action → Prop
  | .sendHello _ next => next.Stems v
  | _ => True

/-- What bears out an error with which a machine has failed. -/
def HandshakeError.Explained (v : Evidence) (m : Machine) : HandshakeError → Prop
  | .noCommonVersion _ => ∃ h, .hello h ∈ v.told ∧
      ((∃ bs, h.bitmaps? = some bs ∧ m.capabilities.shared? bs = none) ∨
        m.capabilities.atMost? h.version = none)
  | .negotiationStalled version => ∃ h, .hello h ∈ v.told ∧ h.version = version
  | .sendFailed .hello xid cause =>
    ∃ x ∈ v.transport.hellos, x.request.xid = xid ∧ x.reply = some (.error cause)
  | .sendFailed .featuresRequest xid cause =>
    ∃ x ∈ v.transport.features, x.request.xid = xid ∧ x.reply = some (.error cause)
  | .sendFailed .barrier _ _ => False
  | .admissionDenied datapath =>
    ∃ x ∈ v.transport.features, ∃ features, x.reply = some (.ok features) ∧
      features.datapath = datapath
  | .deviceRefused _ _ => False
  | .connectionClosed => .connectionLost ∈ v.told ∨ v.handles = 0
  | .xidExhausted => m.negotiation.xid.next? = none

section

variable {v v' : Evidence} (hv : v.Grows v')
include hv

theorem Continuation.Stems.grows {next : Continuation} (h : next.Stems v) : next.Stems v' := by
  cases next with
  | compare remote =>
    obtain ⟨h, hm, hr⟩ := h
    exact ⟨h, hv.told hm, hr⟩
  | _ => trivial

theorem InFlight.Stems.grows {message : InFlight} (h : message.Stems v) : message.Stems v' := by
  cases message with
  | hello index xid next =>
    obtain ⟨⟨x, hx, hxid⟩, hn⟩ := h
    obtain ⟨y, hy, hr, -⟩ := hv.transport.hellos index x hx
    exact ⟨⟨y, hy, by rw [hr, hxid]⟩, hn.grows hv⟩
  | features index xid =>
    obtain ⟨x, hx, hxid⟩ := h
    obtain ⟨y, hy, hr, -⟩ := hv.transport.features index x hx
    exact ⟨y, hy, by rw [hr, hxid]⟩

theorem Event.Stems.grows {e : Event} (h : e.Stems v) : e.Stems v' := by
  cases e with
  | initiate => trivial
  | hello => exact hv.told h
  | helloSent xid result next =>
    obtain ⟨hx, hn⟩ := h
    exact ⟨hv.transport.hellos.answered (·.xid = xid) hx, hn.grows hv⟩
  | features xid result => exact hv.transport.features.answered (·.xid = xid) h
  | connectionLost => exact h.imp (fun h => hv.told h) hv.handles

theorem HandshakeError.Explained.grows {m : Machine} {error : HandshakeError}
    (h : error.Explained v m) : error.Explained v' m := by
  cases error with
  | noCommonVersion detail =>
    obtain ⟨h, hm, hn⟩ := h
    exact ⟨h, hv.told hm, hn⟩
  | negotiationStalled version =>
    obtain ⟨h, hm, hn⟩ := h
    exact ⟨h, hv.told hm, hn⟩
  | sendFailed kind xid cause =>
    cases kind with
    | hello => exact hv.transport.hellos.answered (·.xid = xid) h
    | featuresRequest => exact hv.transport.features.answered (·.xid = xid) h
    | barrier => exact h
  | admissionDenied datapath =>
    obtain ⟨x, hx, features, hr, hd⟩ := h
    obtain ⟨y, hy, -, hr'⟩ :=
      hv.transport.features.answered (fun _ => True) ⟨x, hx, trivial, hr⟩
    exact ⟨y, hy, features, hr', hd⟩
  | deviceRefused => exact h
  | connectionClosed => exact h.imp (fun h => hv.told h) hv.handles
  | xidExhausted => exact h

end

theorem Event.Stems.of_remote? {e : Event} (h : e.Stems v) (hr : e.remote? = some remote) :
    ∃ h, .hello h ∈ v.told ∧ h.version = remote := by
  cases e with
  | hello received =>
    cases hr
    exact ⟨received, h, rfl⟩
  | helloSent xid result next =>
    cases result with
    | error => cases hr
    | ok =>
      cases next with
      | compare =>
        cases hr
        exact h.2
      | _ => cases hr
  | _ => cases hr

theorem InFlight.Stems.reply {message : InFlight} {event : Event} (h : message.Stems v)
    (hr : Handshake.replyEvent? v.transport message = some event) : event.Stems v := by
  cases message with
  | hello index xid next =>
    obtain ⟨result, hresult, rfl⟩ := Option.map_eq_some_iff.1 hr
    obtain ⟨⟨x, hx, hxid⟩, hn⟩ := h
    rw [Transport.helloReply?, hx] at hresult
    exact ⟨⟨x, List.mem_of_getElem? hx, hxid, hresult⟩, hn⟩
  | features index xid =>
    obtain ⟨result, hresult, rfl⟩ := Option.map_eq_some_iff.1 hr
    obtain ⟨x, hx, hxid⟩ := h
    rw [Transport.featuresReply?, hx] at hresult
    exact ⟨x, List.mem_of_getElem? hx, hxid, hresult⟩

namespace Machine

theorem Blames.explained {m left : Machine} (hb : m.Blames e left error) (he : e.Stems v)
    (hc : left.capabilities = m.capabilities) : error.Explained v left := by
  cases hb with
  | negotiation hq =>
    cases hq with
    | sharesNone hh hb hn =>
      subst hh
      exact ⟨_, he, .inl ⟨_, hb, hc ▸ hn⟩⟩
    | refuses hr hn =>
      obtain ⟨h, hm, rfl⟩ := he.of_remote? hr
      exact ⟨h, hm, .inr (hc ▸ hn)⟩
    | stalls hr => exact he.of_remote? hr
    | exhausted hx => exact hx
  | unsent hh =>
    subst hh
    exact he.1
  | unanswered hh =>
    subst hh
    exact he
  | denied hh =>
    subst hh
    obtain ⟨x, hx, -, hr⟩ := he
    exact ⟨x, hx, _, hr, rfl⟩
  | lost hh =>
    subst hh
    exact he

/-- A machine that fails at an event fails for a reason that can be borne out. -/
theorem Reacts.explained {m : Machine} (h : m.Reacts granted e m' actions) (hm : m.Running)
    (he : e.Stems v) (ho : m'.outcome = some (.failure error)) : error.Explained v m' := by
  cases h with
  | ended ht => rw [hm.phase] at ht; cases ht
  | goes ht hh hf =>
    rcases hh.quiet_or_success hm with hq | ⟨v, features, _, ho', _⟩
    · rw [hq.running.outcome] at ho
      cases ho
    · rw [ho'] at ho
      cases ho
  | fails ht hh hf =>
    cases ho
    exact (hh.blames hf).explained he hh.capabilities

theorem Reacts.stems {m : Machine} (h : m.Reacts granted e m' actions) (he : e.Stems v)
    (ha : a ∈ actions) : a.Stems v := by
  cases h with
  | ended => cases ha
  | goes ht hh hf =>
    cases a with
    | sendHello hello next =>
      cases next with
      | compare remote =>
        obtain ⟨h, rfl, rfl⟩ := hh.eq_hello ha
        exact ⟨h, he, rfl⟩
      | _ => trivial
    | _ => trivial
  | fails =>
    cases a with
    | sendHello => simp at ha
    | _ => trivial

end Machine

namespace Handshake

def evidence (h : Handshake σ) (told : List Signal) : Evidence :=
  ⟨h.transport, told, h.engine.handles⟩

/-- Everything that is under way has an origin, and the failure, if there was one, a reason. -/
structure Backed (h : Handshake σ) (told : List Signal) : Prop where
  queue : ∀ e ∈ h.engine.queue, e.Stems (h.evidence told)
  inFlight : ∀ message ∈ h.engine.inFlight, message.Stems (h.evidence told)
  failure : ∀ error, h.engine.machine.outcome = some (.failure error) →
    error.Explained (h.evidence told) h.engine.machine

theorem Backed.grows {h h' : Handshake σ} (hb : h.Backed told)
    (hv : (h.evidence told).Grows (h'.evidence told'))
    (hm : h'.engine.machine = h.engine.machine)
    (hq : ∀ e ∈ h'.engine.queue, e ∈ h.engine.queue ∨ e.Stems (h'.evidence told'))
    (hf : ∀ message ∈ h'.engine.inFlight,
      message ∈ h.engine.inFlight ∨ message.Stems (h'.evidence told')) : h'.Backed told' where
  queue e he := (hq e he).elim (fun he => (hb.queue e he).grows hv) id
  inFlight message hi := (hf message hi).elim (fun hi => (hb.inFlight message hi).grows hv) id
  failure error ho := by
    rw [hm] at ho ⊢
    exact (hb.failure error ho).grows hv

/-- The handshake is left alone, and what is known of it only grows. -/
theorem Backed.rests {h h' : Handshake σ} (hb : h.Backed told)
    (hv : (h.evidence told).Grows (h'.evidence told'))
    (hm : h'.engine.machine = h.engine.machine) (hq : h'.engine.queue = h.engine.queue)
    (hf : h'.engine.inFlight = h.engine.inFlight) : h'.Backed told' :=
  hb.grows hv hm (fun _ he => .inl (hq ▸ he)) fun _ hi => .inl (hf ▸ hi)

theorem Backed.post {h : Handshake σ} (hb : h.Backed told) {events : List Event}
    (he : ∀ e ∈ events, e.Stems (h.evidence told)) :
    (h.withEngine (h.engine.post events)).Backed told := by
  unfold Engine.post
  split
  · exact hb
  · refine hb.grows (.refl _) rfl (fun e hmem => ?_) fun _ => .inl
    exact (List.mem_append.1 hmem).imp_right (he e)

theorem Backed.tell {h : Handshake σ} (hb : h.Backed told) (signal : Signal) :
    (h.withEngine (h.engine.tell signal)).Backed (told ++ [signal]) := by
  have hmore : h.Backed (told ++ [signal]) :=
    hb.rests ⟨.refl _, List.subset_append_left told _, id⟩ rfl rfl rfl
  have hmem : signal ∈ told ++ [signal] := by simp
  unfold Engine.tell
  split
  · exact hmore
  · refine hmore.post fun e he => ?_
    rw [List.mem_singleton.1 he]
    cases signal with
    | initiate => trivial
    | hello => exact hmem
    | connectionLost => exact .inl hmem

theorem Backed.respond {h : Handshake σ} (hb : h.Backed told) (response : Transport.Response) :
    (h.respond response).Backed told :=
  hb.rests ⟨h.transport.retains_respond response, List.Subset.refl _, id⟩ rfl rfl rfl

theorem Backed.acknowledge {h : Handshake σ} (hb : h.Backed told) :
    (h.withEngine h.engine.acknowledge).Backed told := by
  unfold Engine.acknowledge
  split
  · exact hb.rests (.refl _) rfl rfl rfl
  · exact hb

theorem handles_track (e : Engine) (message : InFlight) :
    (e.track message).handles = e.handles ∧ (e.track message).queue = e.queue ∧
      ∀ other ∈ (e.track message).inFlight, other ∈ e.inFlight ∨ other = message := by
  unfold Engine.track
  split
  · exact ⟨rfl, rfl, by simp⟩
  · exact ⟨rfl, rfl, fun _ => .inl⟩

theorem Backed.perform {h : Handshake σ} (hb : h.Backed told) {a : Action}
    (ha : a.Stems (h.evidence told)) :
    (h.evidence told).Grows ((h.perform a).1.evidence told) ∧ (h.perform a).1.Backed told := by
  cases a with
  | sendHello hello next =>
    obtain ⟨hh, hq, hf⟩ :=
      handles_track h.engine (.hello h.transport.hellos.length hello.xid next)
    have hv : (h.evidence told).Grows ((h.perform (.sendHello hello next)).1.evidence told) :=
      ⟨h.transport.retains_sendHello _ _, List.Subset.refl _, fun h0 => hh.trans h0⟩
    refine ⟨hv, hb.grows hv (Engine.track_machine _ _) (fun e he => .inl (hq ▸ he)) fun m hm => ?_⟩
    refine (hf m hm).imp_right ?_
    rintro rfl
    exact ⟨⟨_, List.getElem?_concat_length, rfl⟩, ha⟩
  | requestFeatures request =>
    obtain ⟨hh, hq, hf⟩ :=
      handles_track h.engine (.features h.transport.features.length request.xid)
    have hv : (h.evidence told).Grows ((h.perform (.requestFeatures request)).1.evidence told) :=
      ⟨h.transport.retains_requestFeatures _ _, List.Subset.refl _, fun h0 => hh.trans h0⟩
    refine ⟨hv, hb.grows hv (Engine.track_machine _ _) (fun e he => .inl (hq ▸ he)) fun m hm => ?_⟩
    refine (hf m hm).imp_right ?_
    rintro rfl
    exact ⟨_, List.getElem?_concat_length, rfl⟩
  | _ => exact ⟨.refl _, hb⟩

theorem Backed.performAll {h : Handshake σ} (hb : h.Backed told) {as : List Action}
    (ha : ∀ a ∈ as, a.Stems (h.evidence told)) : (performAll as h).1.Backed told := by
  induction as generalizing h with
  | nil => exact hb
  | cons a as ih =>
    obtain ⟨hv, hb'⟩ := hb.perform (ha a List.mem_cons_self)
    refine ih hb' fun b hmem => ?_
    have hb := ha b (List.mem_cons_of_mem a hmem)
    cases b with
    | sendHello => exact Continuation.Stems.grows hv hb
    | _ => trivial

variable [Admission σ]

theorem Backed.handle {h : Handshake σ} (hb : h.Backed told) (hm : h.engine.machine.Running)
    {e : Event} (he : e.Stems (h.evidence told)) : (h.handle e).1.Backed told := by
  have hr := h.reacted_reacts e
  have hreacted : (h.reacted e).Backed told :=
    ⟨hb.queue, hb.inFlight, fun error => hr.explained hm he⟩
  have hall := hreacted.performAll fun a ha => hr.stems he ha
  exact hall.rests (.refl _) rfl rfl rfl

theorem Backed.read {h : Handshake σ} (hb : h.Backed told) (hs : h.engine.Sound)
    (hr : h.read? = some (h', ns)) : h'.Backed told := by
  have hm := hs.machine_running (read?_reads hr).running
  unfold read? at hr
  split at hr
  · split at hr
    · next event queue hq =>
      cases hr
      have hqueue : (h.withEngine { h.engine with queue }).Backed told :=
        hb.grows (.refl _) rfl (fun e he => .inl (hq ▸ List.mem_cons_of_mem _ he)) fun _ => .inl
      exact hqueue.handle hm (hb.queue event (hq ▸ List.mem_cons_self))
    · split at hr
      · cases hr
      · next ho =>
        cases hr
        refine hb.handle hm (.inr ?_)
        simp [Engine.isOpen] at ho
        exact ho.1
  · cases hr

omit [Admission σ] in
theorem Backed.deliver {h : Handshake σ} (hb : h.Backed told) (hd : h.deliver? i = some h') :
    h'.Backed told := by
  unfold deliver? at hd
  split at hd
  · cases hd
  · next event he =>
    cases hd
    obtain ⟨message, hm, hr⟩ := Option.bind_eq_some_iff.1 he
    have hstems := (hb.inFlight message (List.mem_of_getElem? hm)).reply hr
    let waiting : Engine := { h.engine with inFlight := h.engine.inFlight.eraseIdx i }
    obtain ⟨queue, hq⟩ := waiting.post_eq [event]
    have hwaiting : (h.withEngine waiting).Backed told :=
      hb.grows (.refl _) rfl (fun _ => .inl) fun m hm => .inl (List.mem_of_mem_eraseIdx hm)
    exact hwaiting.post fun e he => List.mem_singleton.1 he ▸ hstems

theorem Backed.move_of_none {h : Handshake σ} (hb : h.Backed told) (hs : h.engine.Sound)
    (hm : h.move? m = some (h', ns)) (hn : m.signal? = none) : h'.Backed told := by
  cases m with
  | tell => cases hn
  | cloneHandle =>
    cases hm
    unfold Engine.cloneHandle
    split
    · exact hb
    · next hh => exact hb.rests ⟨.refl _, List.Subset.refl _, fun h0 => absurd h0 hh⟩ rfl rfl rfl
  | dropHandle =>
    cases hm
    refine hb.rests ⟨.refl _, List.Subset.refl _, fun h0 => ?_⟩ rfl rfl rfl
    change h.engine.handles - 1 = 0
    rw [show h.engine.handles = 0 from h0]
  | disconnect =>
    cases hm
    exact hb.rests ⟨h.transport.retains_disconnect, List.Subset.refl _, id⟩ rfl rfl rfl
  | completeFeatures result =>
    cases hm
    exact hb.rests ⟨h.transport.retains_completeFeatures result, List.Subset.refl _, id⟩ rfl rfl rfl
  | completeBarrier result =>
    cases hm
    exact hb.rests ⟨⟨.refl _, .refl _⟩, List.Subset.refl _, id⟩ rfl rfl rfl
  | read => exact hb.read hs hm
  | deliver i =>
    obtain ⟨g, hd, hg⟩ := Option.map_eq_some_iff.1 hm
    cases hg
    exact hb.deliver hd
  | acknowledge =>
    cases hm
    exact hb.acknowledge

theorem Backed.move {h : Handshake σ} (hb : h.Backed told) (hs : h.engine.Sound)
    (hm : h.move? m = some (h', ns)) : h'.Backed (told ++ m.signal?.toList) := by
  cases hn : m.signal? with
  | none =>
    rw [Option.toList_none, List.append_nil]
    exact hb.move_of_none hs hm hn
  | some signal =>
    cases m with
    | tell =>
      cases hn
      cases hm
      exact hb.tell signal
    | _ => cases hn

theorem Backed.works {h : Handshake σ} (hb : h.Backed told) (hs : h.engine.Sound)
    (hw : h.Works h' ns) : h'.Backed told := by
  induction hw with
  | done => exact hb
  | read hr _ ih => exact ih (hb.read hs hr) ((read?_reads hr).sound hs)
  | deliver i hd _ ih => exact ih (hb.deliver hd) ((deliver?_keeps hd).idles.sound hs)

end Handshake

end SwitchSession
