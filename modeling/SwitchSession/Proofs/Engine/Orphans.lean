import SwitchSession.Proofs.Engine.Advance
import SwitchSession.Proofs.Engine.Schedule
import SwitchSession.Proofs.Engine.Tracking

namespace SwitchSession

namespace Engine

/-- All handles are gone, and no reply will come. -/
structure Abandoned (e : Engine) : Prop where
  handles : e.handles = 0
  inFlight : e.inFlight = []

namespace Abandoned

variable {e : Engine} (ha : e.Abandoned)
include ha

theorem not_isOpen : e.isOpen = false := by
  rw [isOpen, ha.handles, ha.inFlight]
  rfl

theorem track (message : InFlight) : e.track message = e := by
  rw [Engine.track, ha.not_isOpen]
  rfl

theorem tell (signal : Signal) : e.tell signal = e := by
  rw [Engine.tell, if_pos ha.handles]

theorem cloneHandle : e.cloneHandle = e := by
  rw [Engine.cloneHandle, if_pos ha.handles]

theorem dropHandle : e.dropHandle = e := by
  rw [Engine.dropHandle, ha.handles]
  exact congrArg (fun n => { e with handles := n }) ha.handles.symm

end Abandoned

end Engine

namespace Machine

/-- The machine reads the events until one of them ends it; if none does, the connection counts as
lost. -/
inductive Drains : Machine → List Event → Outcome → Prop
  | lost (m : Machine) : Drains m [] (.failure .connectionClosed)
  | ends (granted : Bool) (ho : (m.react granted e).1.outcome = some o) :
      Drains m (e :: es) o
  | reads (granted : Bool) (ho : (m.react granted e).1.outcome = none)
      (hd : Drains (m.react granted e).1 es o) : Drains m (e :: es) o

theorem react_connectionLost {m : Machine} (hm : m.Running) (granted : Bool) :
    (m.react granted .connectionLost).1.outcome = some (.failure .connectionClosed) := by
  rw [react, hm.phase]
  rfl

theorem Drains.of_some {m : Machine} {es : List Event} (hm : m.Running)
    (ho : (m.react granted (es.headD .connectionLost)).1.outcome = some o) : m.Drains es o := by
  cases es with
  | nil =>
    rw [List.headD_nil, react_connectionLost hm] at ho
    cases ho
    exact .lost m
  | cons e es => exact .ends granted ho

/-- The loss of the connection always ends it, so that there was an event to read. -/
theorem exists_cons_of_none {m : Machine} {es : List Event} (hm : m.Running)
    (ho : (m.react granted (es.headD .connectionLost)).1.outcome = none) :
    ∃ e rest, es = e :: rest ∧ (m.react granted e).1.outcome = none := by
  cases es with
  | nil =>
    rw [List.headD_nil, react_connectionLost hm] at ho
    cases ho
  | cons e es => exact ⟨e, es, rfl, ho⟩

end Machine

namespace Handshake

theorem perform_of_abandoned {h : Handshake σ} (ha : h.engine.Abandoned) (a : Action) :
    (h.perform a).1.engine = h.engine := by
  cases a with
  | sendHello => exact ha.track _
  | requestFeatures => exact ha.track _
  | _ => rfl

theorem performAll_of_abandoned {h : Handshake σ} (ha : h.engine.Abandoned) (as : List Action) :
    (performAll as h).1.engine = h.engine := by
  induction as generalizing h with
  | nil => rfl
  | cons a as ih =>
    have hp := perform_of_abandoned ha a
    rw [← hp] at ha
    exact (ih ha).trans hp

theorem deliver?_of_abandoned {h : Handshake σ} (ha : h.engine.Abandoned) (i : Nat) :
    h.deliver? i = none := by
  simp [deliver?, ha.inFlight]

/-- What an abandoned engine does when it reads: it takes the next event, or the loss of its
connection, and has one event less. -/
structure Reading (h h' : Handshake σ) : Prop where
  abandoned : h'.engine.Abandoned
  queue : h'.engine.queue = h.engine.queue.tail
  machine : ∃ granted, h'.engine.machine =
    (h.engine.machine.react granted (h.engine.queue.headD .connectionLost)).1

theorem Reading.drains {h : Handshake σ} (hr : h.Reading h') (hm : h.engine.machine.Running)
    (ho : h'.engine.machine.outcome = some outcome) :
    h.engine.machine.Drains h.engine.queue outcome := by
  obtain ⟨granted, hg⟩ := hr.machine
  rw [hg] at ho
  exact .of_some hm ho

/-- The engine is still reading, and what it has yet to read decides its outcome. -/
theorem Reading.goes_on {h : Handshake σ} (hr : h.Reading h') (hm : h.engine.machine.Running)
    (ho : h'.engine.machine.outcome = none) :
    h'.engine.queue.length + 1 = h.engine.queue.length ∧
      ∀ outcome, h'.engine.machine.Drains h'.engine.queue outcome →
        h.engine.machine.Drains h.engine.queue outcome := by
  obtain ⟨granted, hg⟩ := hr.machine
  have hq := hr.queue
  rw [hg] at ho
  obtain ⟨e, rest, hes, hn⟩ := Machine.exists_cons_of_none hm ho
  rw [hes, List.tail_cons] at hq
  rw [hes, List.headD_cons] at hg
  rw [hes, hq, hg]
  exact ⟨rfl, fun outcome hd => .reads granted hn hd⟩

variable [Admission σ]

theorem handle_of_abandoned {h : Handshake σ} (ha : h.engine.Abandoned) (e : Event) :
    (h.handle e).1.engine.Abandoned ∧ (h.handle e).1.engine.queue = h.engine.queue ∧
      (h.handle e).1.engine.machine = (h.engine.machine.react
        (h.engine.machine.grant h.limiter e) e).1 := by
  let done := (performAll (h.actionsOn e) (h.reacted e)).1
  have hd : done.engine = (h.reacted e).engine :=
    performAll_of_abandoned (h := h.reacted e) ⟨ha.handles, ha.inFlight⟩ _
  have hhandles : done.engine.handles = 0 := hd ▸ ha.handles
  have hinFlight : done.engine.inFlight = [] := hd ▸ ha.inFlight
  have hqueue : done.engine.queue = h.engine.queue := hd ▸ rfl
  exact ⟨⟨hhandles, hinFlight⟩, hqueue, h.machine_handle e⟩

theorem exists_read_of_abandoned {h : Handshake σ} (ha : h.engine.Abandoned)
    (hp : h.engine.progress = .running) :
    ∃ next, h.read? = some next ∧ h.Reading next.1 := by
  cases hq : h.engine.queue with
  | nil =>
    obtain ⟨ha', hq', hm⟩ := handle_of_abandoned ha .connectionLost
    refine ⟨_, read?_of_not_isOpen hp hq ha.not_isOpen, ha', ?_, ?_⟩
    · rw [hq', hq, List.tail_nil]
    · rw [hq, List.headD_nil]
      exact ⟨_, hm⟩
  | cons e queue =>
    let h₁ := h.withEngine { h.engine with queue }
    obtain ⟨ha', hq', hm⟩ := handle_of_abandoned (h := h₁) ⟨ha.handles, ha.inFlight⟩ e
    refine ⟨_, read?_of_event hp hq, ha', ?_, ?_⟩
    · rw [hq', hq]
      rfl
    · rw [hq, List.headD_cons]
      exact ⟨_, hm⟩

theorem move?_of_abandoned {h : Handshake σ} (ha : h.engine.Abandoned)
    (hp : h.engine.progress = .running) (hm : h.move? m = some (h', ns)) (hr : m ≠ .read) :
    h'.engine = h.engine := by
  cases m with
  | tell signal =>
    cases hm
    exact ha.tell signal
  | cloneHandle =>
    cases hm
    exact ha.cloneHandle
  | dropHandle =>
    cases hm
    exact ha.dropHandle
  | read => exact absurd rfl hr
  | deliver i =>
    rw [move?, deliver?_of_abandoned ha] at hm
    cases hm
  | acknowledge =>
    cases hm
    simp only [withEngine, Engine.acknowledge, hp]
  | _ =>
    cases hm
    rfl

theorem runFor_of_abandoned {h : Handshake σ} (hs : h.engine.Sound) (ha : h.engine.Abandoned)
    (hl : h.engine.queue.length < steps) : (h.runFor steps).1.engine.progress ≠ .running := by
  -- One step for each event, and one for the loss of the connection.
  induction steps generalizing h with
  | zero => exact absurd hl (Nat.not_lt_zero _)
  | succ steps ih =>
    by_cases hp : h.engine.progress = .running
    · obtain ⟨next, hread, hr⟩ := exists_read_of_abandoned ha hp
      have hadv : h.advance? = some next := by
        rw [advance?, hasReply, ha.inFlight, List.any_nil, Bool.and_false]
        exact hread
      have hs' := (read?_reads hread).sound hs
      simp only [runFor, hadv]
      cases ho : next.1.engine.machine.outcome with
      | none =>
        obtain ⟨hlen, -⟩ := hr.goes_on (hs.machine_running hp) ho
        exact ih hs' hr.abandoned (by omega)
      | some outcome =>
        have hstop := hs'.not_running ho
        rwa [((works_runFor steps next.1).advances hs').progress hstop]
    · rwa [((works_runFor (steps + 1) h).advances hs).progress hp]

/-- Nothing is there to be read, nor to be delivered. -/
def Quiescent (h : Handshake σ) : Prop := h.read? = none ∧ ∀ i, h.deliver? i = none

theorem Quiescent.isOpen {h : Handshake σ} (hi : h.Quiescent) (hp : h.engine.progress = .running) :
    h.engine.isOpen = true := by
  have hr := hi.1
  cases hq : h.engine.queue with
  | nil =>
    by_contra ho
    rw [read?_of_not_isOpen hp hq (Bool.eq_false_of_not_eq_true ho)] at hr
    cases hr
  | cons e queue =>
    rw [read?_of_event hp hq] at hr
    cases hr

theorem Quiescent.outstanding {h : Handshake σ} (hi : h.Quiescent)
    (ha : ∀ message ∈ h.engine.inFlight, message.Awaited h.transport)
    (hf : h.engine.inFlight ≠ []) :
    ∃ message ∈ h.engine.inFlight, message.Outstanding h.transport := by
  cases hm : h.engine.inFlight with
  | nil => exact absurd hm hf
  | cons message rest =>
    have hd : h.deliver? ([] : List InFlight).length = none := hi.2 0
    rw [hm] at ha
    have ha := ha message List.mem_cons_self
    refine ⟨message, List.mem_cons_self, ha.outstanding ?_⟩
    cases hr : replyEvent? h.transport message with
    | none => rfl
    | some event =>
      have hdelivers : h.deliver? ([] : List InFlight).length = some _ := deliver?_next hm hr
      rw [hd] at hdelivers
      cases hdelivers

end Handshake

namespace Observed

def Occurrence.isRead : Occurrence σ → Bool
  | .move .read => true
  | _ => false

variable [Admission σ]

theorem tracks_step (o : Observed σ) (x : Occurrence σ) :
    o.handshake.Tracks (o.step x).handshake := by
  cases x with
  | limiter => exact .of_inFlight rfl (List.Subset.refl _)
  | respond response => exact .of_marks (o.handshake.transport.marks_respond response) rfl
  | move move =>
    cases hm : o.handshake.move? move with
    | none =>
      rw [step_of_none hm]
      exact .refl _
    | some next =>
      rw [step_of_some hm]
      exact Handshake.tracks_move hm

theorem tracks_play (o : Observed σ) (schedule : List (Occurrence σ)) :
    o.handshake.Tracks (o.play schedule).handshake := by
  induction schedule generalizing o with
  | nil => exact .refl _
  | cons x schedule ih => exact (o.tracks_step x).trans (ih (o.step x))

theorem engine_step_of_abandoned {o : Observed σ} (ha : o.handshake.engine.Abandoned)
    (hp : o.handshake.engine.progress = .running) {x : Occurrence σ} (hx : x.isRead = false) :
    (o.step x).handshake.engine = o.handshake.engine := by
  cases x with
  | limiter => rfl
  | respond => rfl
  | move move =>
    cases hm : o.handshake.move? move with
    | none => rw [step_of_none hm]
    | some next =>
      rw [step_of_some hm]
      apply Handshake.move?_of_abandoned ha hp hm
      rintro rfl
      cases hx

theorem reading_of_isRead {o : Observed σ} (ha : o.handshake.engine.Abandoned)
    (hp : o.handshake.engine.progress = .running) {x : Occurrence σ} (hx : x.isRead = true) :
    o.handshake.Reading (o.step x).handshake := by
  unfold Occurrence.isRead at hx
  split at hx
  · obtain ⟨next, hread, hr⟩ := Handshake.exists_read_of_abandoned ha hp
    rw [step_of_some (m := .read) hread]
    exact hr
  · cases hx

/-- An engine that nobody can reach any more reads on until its queue has brought an outcome. -/
theorem play_of_abandoned {o : Observed σ} (ht : o.Told) (ha : o.handshake.engine.Abandoned)
    (hp : o.handshake.engine.progress = .running) (later : List (Occurrence σ)) :
    let e := (o.play later).handshake.engine
    (e.progress = .running →
      e.Abandoned ∧ later.countP Occurrence.isRead ≤ o.handshake.engine.queue.length) ∧
    (e.progress ≠ .running → ∃ outcome, e.machine.outcome = some outcome ∧
      o.handshake.engine.machine.Drains o.handshake.engine.queue outcome) := by
  -- Every read starts over with the machine and the queue that it left.
  induction later generalizing o with
  | nil => exact ⟨fun _ => ⟨ha, Nat.zero_le _⟩, fun hn => absurd hp hn⟩
  | cons x later ih =>
    have ht' := ht.turns (o.step_turns x)
    cases hx : x.isRead with
    | false =>
      have he := engine_step_of_abandoned ha hp hx
      have ih := ih ht' (he ▸ ha) (he ▸ hp)
      rw [he] at ih
      rw [List.countP_cons_of_neg (by rw [hx]; decide)]
      exact ih
    | true =>
      have hr := reading_of_isRead ha hp hx
      have hm := ht.sound.machine_running hp
      rw [List.countP_cons_of_pos hx]
      cases ho : (o.step x).handshake.engine.machine.outcome with
      | none =>
        obtain ⟨hlen, hd⟩ := hr.goes_on hm ho
        obtain ⟨hgo, hstop⟩ := ih ht' hr.abandoned (ht'.sound.running.2 ho)
        refine ⟨fun hrun => ⟨(hgo hrun).1, ?_⟩, fun hn => ?_⟩
        · have := (hgo hrun).2
          omega
        · obtain ⟨outcome, h, hdrains⟩ := hstop hn
          exact ⟨outcome, h, hd outcome hdrains⟩
      | some outcome =>
        have hrest := rests_play (ht'.sound.not_running ho) later
        refine ⟨fun hrun => absurd hrun hrest.stopped, fun _ => ⟨outcome, ?_, hr.drains hm ho⟩⟩
        change ((o.step x).play later).handshake.engine.machine.outcome = _
        rw [hrest.machine, ho]

theorem run_of_abandoned {o : Observed σ} (ht : o.Told) (ha : o.handshake.engine.Abandoned) :
    o.run.handshake.engine.progress = .finished := by
  have hr : o.handshake.run.1.engine.progress ≠ .running :=
    Handshake.runFor_of_abandoned ht.sound ha (by omega)
  exact Engine.progress_acknowledge hr

/-- With nothing ready to be done an engine has ended with its one outcome, or it waits for the holder
of a handle, for the reply to a request that it issued while somebody could post, or for its listener.
Once the last handle is gone and no reply is due, nothing keeps it: each read takes one of the queued
events, and it ends with the outcome that they bring or else for the loss of its connection. -/
theorem no_engine_is_orphaned (c : CapabilitySet) (bitmapMode : Bool) (t : Transport) (limiter : σ)
    (earlier : List (Occurrence σ)) :
    let o := (fresh c bitmapMode t limiter).play earlier
    let e := o.handshake.engine
    (o.handshake.Quiescent →
      (∃ outcome, e.outcome? = some outcome ∧ o.notices = outcome.notices) ∨
        0 < e.handles ∨
        (∃ message ∈ e.inFlight, message.Outstanding o.handshake.transport) ∨
        e.progress = .notifying) ∧
    (e.handles = 0 → e.inFlight = [] → e.progress = .running →
      (∃ outcome, e.machine.Drains e.queue outcome ∧
        o.run.handshake.engine.outcome? = some outcome ∧ o.run.notices = outcome.notices) ∧
      ∀ later,
        let o' := o.play later
        let e' := o'.handshake.engine
        (e'.progress = .running →
          o'.handshake.read?.isSome ∧ later.countP Occurrence.isRead ≤ e.queue.length) ∧
        (e'.progress ≠ .running → ∃ outcome, e.machine.Drains e.queue outcome ∧
          e'.machine.outcome = some outcome ∧ o'.notices = outcome.notices)) := by
  intro o e
  have ht : o.Told := (told_fresh c bitmapMode t limiter).play earlier
  refine ⟨fun hi => ?_, fun hh hf hp => ?_⟩
  · cases hp : e.progress with
    | notifying => exact .inr (.inr (.inr rfl))
    | finished =>
      obtain ⟨outcome, ho⟩ : ∃ outcome, e.machine.outcome = some outcome := by
        rw [← Option.ne_none_iff_exists', Ne, ← ht.sound.running, hp]
        decide
      refine .inl ⟨outcome, ?_, ht.notices_eq ho⟩
      rw [Engine.outcome?, hp]
      exact ho
    | running =>
      have haw : ∀ message ∈ e.inFlight, message.Awaited o.handshake.transport := by
        intro message hm
        have htr := (fresh c bitmapMode t limiter).tracks_play earlier
        exact (htr.inFlight message hm).resolve_left List.not_mem_nil
      -- Whatever is queued can be read, and so can the end of a closed queue.
      have ho := hi.isOpen hp
      rw [Engine.isOpen, Bool.or_eq_true, Nat.blt_eq] at ho
      rcases ho with hh | hf
      · exact .inr (.inl hh)
      · refine .inr (.inr (.inl (hi.outstanding haw ?_)))
        rintro hnil
        rw [hnil] at hf
        cases hf
  · have ha : e.Abandoned := ⟨hh, hf⟩
    refine ⟨?_, fun later => ⟨fun hrun => ?_, fun hstop => ?_⟩⟩
    · obtain ⟨schedule, hs⟩ := o.exists_play_eq_run
      have hfin := run_of_abandoned ht ha
      obtain ⟨-, hend⟩ := play_of_abandoned ht ha hp schedule
      rw [hs] at hend
      obtain ⟨outcome, ho, hd⟩ := hend (by rw [hfin]; decide)
      refine ⟨outcome, hd, ?_, (hs ▸ ht.play _ : o.run.Told).notices_eq ho⟩
      rw [Engine.outcome?, hfin]
      exact ho
    · obtain ⟨hgo, -⟩ := play_of_abandoned ht ha hp later
      obtain ⟨ha', hcount⟩ := hgo hrun
      obtain ⟨next, hread, -⟩ := Handshake.exists_read_of_abandoned ha' hrun
      exact ⟨Option.isSome_of_eq_some hread, hcount⟩
    · obtain ⟨-, hend⟩ := play_of_abandoned ht ha hp later
      obtain ⟨outcome, ho, hd⟩ := hend hstop
      exact ⟨outcome, hd, ho, (ht.play later).notices_eq ho⟩

/-- The HELLO has been sent, and its completion is queued, when the last handle goes. -/
example :
    let o := (fresh .fourOne true { remote := "10.0.0.9:6653" } (Limiter.fixed true 0)).play
      [.move (.tell .initiate), .move .read, .move (.deliver 0), .move .dropHandle]
    o.handshake.engine.queue.length = 1 ∧
      o.run.handshake.engine.outcome? = some (.failure .connectionClosed) := by
  decide

end Observed

end SwitchSession
