import SwitchSession.Engine
import SwitchSession.Proofs.Handshake.Success
import SwitchSession.Proofs.Handshake.Outcome
import SwitchSession.Proofs.Transport.Traffic

namespace SwitchSession

def Action.notice? : Action → Option Notice
  | .report error => some (.error error)
  | .notifySuccess features version => some (.success features version)
  | .notifyFailure => some .failure
  | _ => none

/-- What is told of an outcome, in this order. -/
def Outcome.notices : Outcome → List Notice
  | .success version features => [.success features version]
  | .failure error => [.error error, .failure]

theorem filterMap_notice?_of_messages {as : List Action} (h : ∀ a ∈ as, a.isMessage) :
    as.filterMap Action.notice? = [] := by
  rw [List.filterMap_eq_nil_iff]
  intro a ha
  have := h a ha
  cases a with
  | sendHello => rfl
  | requestFeatures => rfl
  | _ => cases this

namespace Machine

def notices (m : Machine) : List Notice := m.outcome.elim [] Outcome.notices

/-- A success has the version that was settled on. -/
def Faithful (m : Machine) : Prop :=
  ∀ v features, m.outcome = some (.success v features) → m.negotiation.settled = some v

theorem Reacts.notices {m : Machine} (h : m.Reacts granted e m' actions) (hm : m.Running) :
    actions.filterMap Action.notice? = m'.notices := by
  cases h with
  | ended ht => rw [hm.phase] at ht; cases ht
  | goes ht hh hf =>
    rcases hh.quiet_or_success hm with hq | ⟨v, features, _, ho, ha⟩
    · rw [filterMap_notice?_of_messages hq.messages, Machine.notices, hq.running.outcome]
      rfl
    · rw [ha, Machine.notices, ho]
      rfl
  | fails => rfl

theorem Reacts.faithful {m : Machine} (h : m.Reacts granted e m' actions) (hd : m.Decided)
    (hm : m.Faithful) : m'.Faithful := by
  cases h with
  | ended => exact hm
  | goes ht hh hf =>
    rcases hh.quiet_or_success (hd.running ht) with hq | ⟨v, features, _, ho, ha⟩
    · intro v features h
      rw [hq.running.outcome] at h
      cases h
    · obtain ⟨_, _, _, hs, _, hk⟩ := hh.of_notifySuccess hf (ha ▸ List.mem_singleton_self _)
      intro w _ h
      rw [ho] at h
      cases h
      rw [hk, hs]
  | fails => rintro _ _ ⟨⟩

end Machine

namespace Engine

/-- The engine runs just as long as its machine has no outcome, and shows the settled version. -/
structure Sound (e : Engine) : Prop where
  decided : e.machine.Decided
  faithful : e.machine.Faithful
  running : e.progress = .running ↔ e.machine.outcome = none
  version : e.version = e.machine.negotiation.settled

theorem Sound.machine_running {e : Engine} (h : e.Sound) (hp : e.progress = .running) :
    e.machine.Running := by
  have ho := h.running.1 hp
  refine ⟨?_, ho⟩
  rw [← h.decided, ho]
  rfl

theorem Sound.not_running {e : Engine} (h : e.Sound) (ho : e.machine.outcome = some outcome) :
    e.progress ≠ .running := by
  rw [Ne, h.running, ho]
  exact Option.some_ne_none outcome

theorem sound_fresh (c : CapabilitySet) (bitmapMode : Bool) :
    ({ machine := .fresh c bitmapMode } : Engine).Sound where
  decided := rfl
  faithful _ _ h := by cases h
  running := ⟨fun _ => rfl, fun _ => rfl⟩
  version := rfl

theorem outcome_of_outcome? {e : Engine} (h : e.outcome? = some outcome) :
    e.machine.outcome = some outcome := by
  unfold outcome? at h
  split at h
  · exact h
  · cases h

theorem finished_of_outcome? {e : Engine} (h : e.outcome? = some outcome) :
    e.progress = .finished := by
  unfold outcome? at h
  split at h
  · next hp => exact hp
  · cases h

theorem track_machine (e : Engine) (message : InFlight) :
    (e.track message).machine = e.machine := by
  unfold track
  split <;> rfl

theorem track_version (e : Engine) (message : InFlight) :
    (e.track message).version = e.version := by
  unfold track
  split <;> rfl

theorem post_eq (e : Engine) (events : List Event) : ∃ queue, e.post events = { e with queue } := by
  unfold post
  split
  · exact ⟨e.queue, rfl⟩
  · exact ⟨_, rfl⟩

theorem tell_eq (e : Engine) (signal : Signal) : ∃ queue, e.tell signal = { e with queue } := by
  unfold tell
  split
  · exact ⟨e.queue, rfl⟩
  · exact e.post_eq _

theorem Sound.tell {e : Engine} (h : e.Sound) (signal : Signal) : (e.tell signal).Sound := by
  obtain ⟨queue, hq⟩ := e.tell_eq signal
  rw [hq]
  exact ⟨h.decided, h.faithful, h.running, h.version⟩

theorem progress_acknowledge {e : Engine} (h : e.progress ≠ .running) :
    e.acknowledge.progress = .finished := by
  unfold acknowledge
  cases hp : e.progress with
  | running => exact absurd hp h
  | notifying => rfl
  | finished => exact hp

end Engine

namespace Handshake

/-- The machine has reacted to the event, and nothing of what that calls for is done yet. -/
def reacted [Admission σ] (h : Handshake σ) (e : Event) : Handshake σ :=
  let reaction := h.engine.machine.handle h.limiter e
  { h with
    engine := { h.engine with machine := reaction.machine }
    limiter := reaction.limiter }

def actionsOn [Admission σ] (h : Handshake σ) (e : Event) : List Action :=
  (h.engine.machine.handle h.limiter e).actions

theorem reacted_reacts [Admission σ] (h : Handshake σ) (e : Event) :
    h.engine.machine.Reacts (h.engine.machine.grant h.limiter e) e (h.reacted e).engine.machine
      (h.actionsOn e) :=
  h.engine.machine.handle_reacts h.limiter e

/-- Carrying out actions sends messages; this is what it leaves alone. -/
structure Carries (h h' : Handshake σ) : Prop where
  machine : h'.engine.machine = h.engine.machine
  version : h'.engine.version = h.engine.version
  remote : h'.transport.remote = h.transport.remote
  barriers : h'.transport.barriers = h.transport.barriers
  disconnects : h'.transport.disconnects = h.transport.disconnects

theorem perform_carries (h : Handshake σ) (a : Action) : h.Carries (h.perform a).1 := by
  cases a with
  | sendHello => exact ⟨Engine.track_machine _ _, Engine.track_version _ _, rfl, rfl, rfl⟩
  | requestFeatures => exact ⟨Engine.track_machine _ _, Engine.track_version _ _, rfl, rfl, rfl⟩
  | _ => exact ⟨rfl, rfl, rfl, rfl, rfl⟩

theorem performAll_carries (h : Handshake σ) (as : List Action) :
    h.Carries (performAll as h).1 := by
  induction as generalizing h with
  | nil => exact ⟨rfl, rfl, rfl, rfl, rfl⟩
  | cons a as ih =>
    have ha := h.perform_carries a
    have has := ih (h.perform a).1
    exact ⟨has.machine.trans ha.machine, has.version.trans ha.version, has.remote.trans ha.remote,
      has.barriers.trans ha.barriers, has.disconnects.trans ha.disconnects⟩

theorem performAll_notices (h : Handshake σ) (as : List Action) :
    (performAll as h).2 = as.filterMap Action.notice? := by
  induction as generalizing h with
  | nil => rfl
  | cons a as ih =>
    change (h.perform a).2 ++ (performAll as (h.perform a).1).2 = _
    rw [ih]
    cases a <;> rfl

/-- The machine takes in an event, and what it says of the outcome is told. -/
structure Reads (h h' : Handshake σ) (ns : List Notice) : Prop where
  running : h.engine.progress = .running
  reacts : ∃ granted e actions, h.engine.machine.Reacts granted e h'.engine.machine actions ∧
    ns = actions.filterMap Action.notice?
  version : h'.engine.version = (h'.engine.machine.negotiation.settled <|> h.engine.version)
  progress : h'.engine.progress =
    if h'.engine.machine.outcome.isSome then .notifying else .running
  remote : h'.transport.remote = h.transport.remote
  barriers : h'.transport.barriers = h.transport.barriers
  disconnects : h'.transport.disconnects = h.transport.disconnects

/-- One of the requests is answered. -/
def respond (h : Handshake σ) (response : Transport.Response) : Handshake σ :=
  { h with transport := h.transport.respond response }

/-- Nothing is read. The engine can only find that its listener is through. -/
structure Idles (h h' : Handshake σ) : Prop where
  machine : h'.engine.machine = h.engine.machine
  version : h'.engine.version = h.engine.version
  progress : h'.engine.progress = h.engine.progress ∨
    h.engine.progress = .notifying ∧ h'.engine.progress = .finished
  transport : h.transport.Follows h'.transport

/-- Nothing is read, and the listener is not through. -/
structure Keeps (h h' : Handshake σ) : Prop where
  machine : h'.engine.machine = h.engine.machine
  version : h'.engine.version = h.engine.version
  progress : h'.engine.progress = h.engine.progress
  transport : h.transport.Follows h'.transport

theorem Keeps.idles {h : Handshake σ} (hk : h.Keeps h') : h.Idles h' :=
  ⟨hk.machine, hk.version, .inl hk.progress, hk.transport⟩

theorem handle_reads [Admission σ] (h : Handshake σ) (hp : h.engine.progress = .running)
    (e : Event) : h.Reads (h.handle e).1 (h.handle e).2 := by
  have hc := (h.reacted e).performAll_carries (h.actionsOn e)
  have hm : (h.handle e).1.engine.machine = (h.reacted e).engine.machine := hc.machine
  refine ⟨hp, ⟨h.engine.machine.grant h.limiter e, e, h.actionsOn e, ?_, ?_⟩, ?_, ?_,
    hc.remote, hc.barriers, hc.disconnects⟩
  · rw [hm]
    exact h.reacted_reacts e
  · exact (h.reacted e).performAll_notices (h.actionsOn e)
  · rw [hm]
    exact congrArg ((h.reacted e).engine.machine.negotiation.settled <|> ·) hc.version
  · rw [hm]
    rfl

theorem machine_handle [Admission σ] (h : Handshake σ) (e : Event) :
    (h.handle e).1.engine.machine =
      (h.engine.machine.react (h.engine.machine.grant h.limiter e) e).1 := by
  have hc := (h.reacted e).performAll_carries (h.actionsOn e)
  exact hc.machine.trans (h.engine.machine.handle_machine h.limiter e)

theorem read?_of_event [Admission σ] {h : Handshake σ} (hp : h.engine.progress = .running)
    (hq : h.engine.queue = e :: queue) :
    h.read? = some ((h.withEngine { h.engine with queue }).handle e) := by
  simp only [read?, hp, hq]

theorem read?_of_not_isOpen [Admission σ] {h : Handshake σ} (hp : h.engine.progress = .running)
    (hq : h.engine.queue = []) (ho : h.engine.isOpen = false) :
    h.read? = some (h.handle .connectionLost) := by
  simp only [read?, hp, hq, ho, Bool.false_eq_true, if_false]

/-- The event that an engine reads next: a queue that is empty and closed means a lost connection. -/
def nextEvent (h : Handshake σ) : Event := h.engine.queue.headD .connectionLost

/-- An engine that runs can always read, unless its queue is empty and still open. -/
theorem exists_read [Admission σ] {h : Handshake σ} (hp : h.engine.progress = .running)
    (ho : h.engine.queue = [] → h.engine.isOpen = false) :
    ∃ h' ns, h.read? = some (h', ns) ∧ h'.engine.machine =
      (h.engine.machine.react (h.engine.machine.grant h.limiter h.nextEvent) h.nextEvent).1 := by
  cases hq : h.engine.queue with
  | nil =>
    have hm := h.machine_handle .connectionLost
    refine ⟨_, _, read?_of_not_isOpen hp hq (ho hq), ?_⟩
    rw [nextEvent, hq]
    exact hm
  | cons e queue =>
    have hm := (h.withEngine { h.engine with queue }).machine_handle e
    refine ⟨_, _, read?_of_event hp hq, ?_⟩
    rw [nextEvent, hq]
    exact hm

theorem read?_reads [Admission σ] {h : Handshake σ} (hr : h.read? = some (h', ns)) :
    h.Reads h' ns := by
  unfold read? at hr
  cases hp : h.engine.progress with
  | running =>
    rw [hp] at hr
    cases hq : h.engine.queue with
    | nil =>
      simp only [hq] at hr
      split at hr
      · cases hr
      · cases hr
        exact h.handle_reads hp _
    | cons e queue =>
      simp only [hq] at hr
      cases hr
      have hh := (h.withEngine { h.engine with queue }).handle_reads hp e
      exact ⟨hp, hh.reacts, hh.version, hh.progress, hh.remote, hh.barriers, hh.disconnects⟩
  | notifying => rw [hp] at hr; cases hr
  | finished => rw [hp] at hr; cases hr

theorem keeps_withEngine (h : Handshake σ) {e : Engine} (hm : e.machine = h.engine.machine)
    (hv : e.version = h.engine.version) (hp : e.progress = h.engine.progress) :
    h.Keeps (h.withEngine e) :=
  ⟨hm, hv, hp, .refl _⟩

theorem keeps_respond (h : Handshake σ) (response : Transport.Response) :
    h.Keeps (h.respond response) :=
  ⟨rfl, rfl, rfl, h.transport.follows_respond response⟩

theorem idles_acknowledge (h : Handshake σ) : h.Idles (h.withEngine h.engine.acknowledge) := by
  unfold Engine.acknowledge
  split
  · next hp => exact ⟨rfl, rfl, .inr ⟨hp, rfl⟩, .refl _⟩
  · exact ⟨rfl, rfl, .inl rfl, .refl _⟩

theorem deliver?_keeps {h : Handshake σ} (hd : h.deliver? i = some h') : h.Keeps h' := by
  unfold deliver? at hd
  split at hd
  · cases hd
  · next event _ =>
    cases hd
    obtain ⟨queue, hq⟩ :=
      Engine.post_eq { h.engine with inFlight := h.engine.inFlight.eraseIdx i } [event]
    rw [hq]
    exact h.keeps_withEngine rfl rfl rfl

theorem move?_reads_or_keeps [Admission σ] {h : Handshake σ} (hm : h.move? m = some (h', ns))
    (ha : m ≠ .acknowledge) : h.Reads h' ns ∨ h.Keeps h' ∧ ns = [] := by
  cases m with
  | tell signal =>
    cases hm
    obtain ⟨queue, hq⟩ := h.engine.tell_eq signal
    exact .inr ⟨hq ▸ h.keeps_withEngine rfl rfl rfl, rfl⟩
  | cloneHandle =>
    cases hm
    refine .inr ⟨?_, rfl⟩
    unfold Engine.cloneHandle
    split <;> exact h.keeps_withEngine rfl rfl rfl
  | dropHandle =>
    cases hm
    exact .inr ⟨h.keeps_withEngine rfl rfl rfl, rfl⟩
  | disconnect =>
    cases hm
    exact .inr ⟨⟨rfl, rfl, rfl, h.transport.follows_disconnect⟩, rfl⟩
  | completeFeatures result =>
    cases hm
    exact .inr ⟨⟨rfl, rfl, rfl, h.transport.follows_completeFeatures result⟩, rfl⟩
  | completeBarrier result =>
    cases hm
    exact .inr ⟨⟨rfl, rfl, rfl, h.transport.follows_completeBarrier result⟩, rfl⟩
  | read => exact .inl (read?_reads hm)
  | deliver i =>
    obtain ⟨g, hd, hg⟩ := Option.map_eq_some_iff.1 hm
    cases hg
    exact .inr ⟨deliver?_keeps hd, rfl⟩
  | acknowledge => exact absurd rfl ha

theorem move?_reads_or_idles [Admission σ] {h : Handshake σ} (hm : h.move? m = some (h', ns)) :
    h.Reads h' ns ∨ h.Idles h' ∧ ns = [] := by
  by_cases ha : m = .acknowledge
  · rw [ha] at hm
    cases hm
    exact .inr ⟨h.idles_acknowledge, rfl⟩
  · exact (move?_reads_or_keeps hm ha).imp_right (And.imp_left Keeps.idles)

theorem Reads.outcome_eq_none {h : Handshake σ} (hr : h.Reads h' ns) (hs : h.engine.Sound) :
    h.engine.machine.outcome = none :=
  hs.running.1 hr.running

theorem Reads.notices {h : Handshake σ} (hr : h.Reads h' ns) (hs : h.engine.Sound) :
    ns = h'.engine.machine.notices := by
  obtain ⟨_, _, _, hm, hn⟩ := hr.reacts
  rw [hn]
  exact hm.notices (hs.machine_running hr.running)

theorem Reads.version_eq {h : Handshake σ} (hr : h.Reads h' ns) (hs : h.engine.Sound) :
    h'.engine.version = h'.engine.machine.negotiation.settled := by
  obtain ⟨_, _, _, hm, _⟩ := hr.reacts
  rw [hr.version, hs.version]
  cases hv : h.engine.machine.negotiation.settled with
  | none => simp
  | some v => simp [hm.settled hv]

theorem Reads.sound {h : Handshake σ} (hr : h.Reads h' ns) (hs : h.engine.Sound) :
    h'.engine.Sound := by
  have hv := hr.version_eq hs
  obtain ⟨_, _, _, hm, _⟩ := hr.reacts
  refine ⟨hm.decided hs.decided, hm.faithful hs.decided hs.faithful, ?_, hv⟩
  rw [hr.progress]
  cases h'.engine.machine.outcome <;> simp

theorem Idles.sound {h : Handshake σ} (hk : h.Idles h') (hs : h.engine.Sound) :
    h'.engine.Sound := by
  refine ⟨hk.machine ▸ hs.decided, hk.machine ▸ hs.faithful, ?_, ?_⟩
  · rw [hk.machine, ← hs.running]
    rcases hk.progress with hp | ⟨hp, hp'⟩
    · rw [hp]
    · simp [hp, hp']
  · rw [hk.version, hk.machine]
    exact hs.version

end Handshake

end SwitchSession
