import Mathlib.Data.List.Induction
import SwitchSession.Engine.Observed
import SwitchSession.Proofs.Engine.Notices
import SwitchSession.Proofs.Engine.Turn

namespace SwitchSession

namespace Observed

/-- What can happen next to a handshake. Any of its requests can be answered, in whatever order, and
the limiter, which is shared, can change at any time. -/
inductive Occurrence (σ : Type)
  | move (move : Handshake.Move)
  | respond (response : Transport.Response)
  | limiter (limiter : σ)

def fresh (c : CapabilitySet) (bitmapMode : Bool) (t : Transport) (limiter : σ) : Observed σ :=
  { handshake := .fresh c bitmapMode t limiter }

variable [Admission σ]

def step (o : Observed σ) : Occurrence σ → Observed σ
  | .move move =>
    match o.handshake.move? move with
    | some (handshake, notices) => { handshake, notices := o.notices ++ notices }
    | none => o
  | .respond response => o.withHandshake (o.handshake.respond response)
  | .limiter limiter => { o with handshake := { o.handshake with limiter } }

def play (o : Observed σ) (schedule : List (Occurrence σ)) : Observed σ := schedule.foldl step o

theorem play_append (o : Observed σ) (earlier later : List (Occurrence σ)) :
    o.play (earlier ++ later) = (o.play earlier).play later :=
  List.foldl_append

theorem step_of_some {o : Observed σ} (hm : o.handshake.move? m = some (h, ns)) :
    o.step (.move m) = { handshake := h, notices := o.notices ++ ns } := by
  simp only [step, hm]

theorem step_of_none {o : Observed σ} (hm : o.handshake.move? m = none) :
    o.step (.move m) = o := by
  simp only [step, hm]

theorem exists_play_works {h h' : Handshake σ} (hw : h.Works h' ns) (told : List Notice) :
    ∃ schedule, play { handshake := h, notices := told } schedule =
      { handshake := h', notices := told ++ ns } := by
  induction hw generalizing told with
  | done => exact ⟨[], by simp [play]⟩
  | read hr _ ih =>
    obtain ⟨schedule, hs⟩ := ih (told ++ _)
    refine ⟨.move .read :: schedule, ?_⟩
    simpa [play, step, Handshake.move?, hr] using hs
  | deliver i hd _ ih =>
    obtain ⟨schedule, hs⟩ := ih told
    refine ⟨.move (.deliver i) :: schedule, ?_⟩
    simpa [play, step, Handshake.move?, hd] using hs

/-- A turn is a schedule like any other. -/
theorem exists_play_eq_run (o : Observed σ) : ∃ schedule, o.play schedule = o.run := by
  obtain ⟨schedule, hs⟩ := exists_play_works o.handshake.works_run o.notices
  refine ⟨schedule ++ [.move .acknowledge], ?_⟩
  rw [play_append, hs]
  change step _ (.move .acknowledge) = _
  rw [step_of_some rfl, List.append_nil]
  rfl

/-- Something was read, or nothing of the engine's own was done. -/
def Turns (o o' : Observed σ) : Prop :=
  (∃ ns, o.handshake.Reads o'.handshake ns ∧ o'.notices = o.notices ++ ns) ∨
    o.handshake.Idles o'.handshake ∧ o'.notices = o.notices

theorem step_turns (o : Observed σ) (x : Occurrence σ) : o.Turns (o.step x) := by
  cases x with
  | limiter => exact .inr ⟨⟨rfl, rfl, .inl rfl, .refl _⟩, rfl⟩
  | respond response => exact .inr ⟨(o.handshake.keeps_respond response).idles, rfl⟩
  | move move =>
    cases hm : o.handshake.move? move with
    | none =>
      rw [step_of_none hm]
      exact .inr ⟨⟨rfl, rfl, .inl rfl, .refl _⟩, rfl⟩
    | some next =>
      obtain ⟨h, ns⟩ := next
      rw [step_of_some hm]
      rcases Handshake.move?_reads_or_idles hm with hr | ⟨hk, rfl⟩
      · exact .inl ⟨ns, hr, rfl⟩
      · exact .inr ⟨hk, List.append_nil _⟩

/-- All that was told is what the machine's outcome calls for. -/
structure Told (o : Observed σ) : Prop where
  sound : o.handshake.engine.Sound
  notices : o.notices = o.handshake.engine.machine.notices

omit [Admission σ] in
theorem told_fresh (c : CapabilitySet) (bitmapMode : Bool) (t : Transport) (limiter : σ) :
    (fresh c bitmapMode t limiter).Told :=
  ⟨Engine.sound_fresh c bitmapMode, rfl⟩

omit [Admission σ] in
theorem Told.turns {o o' : Observed σ} (h : o.Told) (ht : o.Turns o') : o'.Told := by
  rcases ht with ⟨ns, hr, hn⟩ | ⟨hk, hn⟩
  · refine ⟨hr.sound h.sound, ?_⟩
    rw [hn, h.notices, Machine.notices, hr.outcome_eq_none h.sound]
    exact hr.notices h.sound
  · refine ⟨hk.sound h.sound, ?_⟩
    rw [hn, h.notices, hk.machine]

theorem Told.step {o : Observed σ} (h : o.Told) (x : Occurrence σ) : (o.step x).Told :=
  h.turns (o.step_turns x)

theorem Told.play {o : Observed σ} (h : o.Told) (schedule : List (Occurrence σ)) :
    (o.play schedule).Told := by
  induction schedule generalizing o with
  | nil => exact h
  | cons x schedule ih => exact ih (h.step x)

omit [Admission σ] in
theorem Told.notices_eq {o : Observed σ} (h : o.Told)
    (ho : o.handshake.engine.machine.outcome = some outcome) : o.notices = outcome.notices := by
  rw [h.notices, Machine.notices, ho]
  rfl

/-- Once the engine has stopped reading it does nothing more, whatever goes on around it. -/
structure Rests (o o' : Observed σ) : Prop where
  stopped : o'.handshake.engine.progress ≠ .running
  machine : o'.handshake.engine.machine = o.handshake.engine.machine
  notices : o'.notices = o.notices
  traffic : o'.handshake.transport.traffic = o.handshake.transport.traffic

omit [Admission σ] in
theorem Turns.rests {o o' : Observed σ} (ht : o.Turns o')
    (hp : o.handshake.engine.progress ≠ .running) : o.Rests o' := by
  rcases ht with ⟨_, hr, _⟩ | ⟨hk, hn⟩
  · exact absurd hr.running hp
  · refine ⟨?_, hk.machine, hn, hk.transport.traffic⟩
    rcases hk.progress with h | ⟨_, h⟩
    · rwa [h]
    · rw [h]
      decide

omit [Admission σ] in
theorem Rests.trans {o o₁ o₂ : Observed σ} (h : o.Rests o₁) (h' : o₁.Rests o₂) : o.Rests o₂ :=
  ⟨h'.stopped, h'.machine.trans h.machine, h'.notices.trans h.notices, h'.traffic.trans h.traffic⟩

theorem rests_play {o : Observed σ} (hp : o.handshake.engine.progress ≠ .running)
    (schedule : List (Occurrence σ)) : o.Rests (o.play schedule) := by
  induction schedule generalizing o with
  | nil => exact ⟨hp, rfl, rfl, rfl⟩
  | cons x schedule ih =>
    have hx := (o.step_turns x).rests hp
    exact hx.trans (ih hx.stopped)

theorem Told.version_step {o : Observed σ} (h : o.Told)
    (hv : o.handshake.engine.version = some v) (x : Occurrence σ) :
    (o.step x).handshake.engine.version = some v := by
  rcases o.step_turns x with ⟨_, hr, _⟩ | ⟨hk, _⟩
  · obtain ⟨_, _, _, hm, _⟩ := hr.reacts
    rw [hr.version_eq h.sound]
    exact hm.settled (h.sound.version ▸ hv)
  · rw [hk.version, hv]

theorem Told.version_play {o : Observed σ} (h : o.Told)
    (hv : o.handshake.engine.version = some v) (schedule : List (Occurrence σ)) :
    (o.play schedule).handshake.engine.version = some v := by
  induction schedule generalizing o with
  | nil => exact hv
  | cons x schedule ih => exact ih (h.step x) (h.version_step hv x)

/-- An engine that runs ends at the next event if this decides the outcome. -/
theorem Told.ends {o : Observed σ} (h : o.Told) (hp : o.handshake.engine.progress = .running)
    (ho : o.handshake.engine.queue = [] → o.handshake.engine.isOpen = false) {outcome : Outcome}
    (hd : o.handshake.engine.machine.Decides
      (o.handshake.engine.machine.grant o.handshake.limiter o.handshake.nextEvent)
      o.handshake.nextEvent outcome) :
    let next := o.step (.move .read)
    next.handshake.engine.machine.outcome = some outcome ∧ next.notices = outcome.notices := by
  intro next
  obtain ⟨h', ns, hr, hm⟩ := Handshake.exists_read hp ho
  have hnext : next.handshake = h' := congrArg handshake (step_of_some (m := .read) hr)
  have houtcome : next.handshake.engine.machine.outcome = some outcome := by
    rw [hnext, hm]
    exact (hd.react (h.sound.machine_running hp).phase).1
  exact ⟨houtcome, (h.step _).notices_eq houtcome⟩

/-- Under every schedule nothing is told while the engine reads. With the outcome it stops: a success
is told to the listener and a failure first to the error sink, then to the listener, and no schedule
brings another notice or message. The version shown is the settled one, and stays. An engine whose
next event decides the outcome has it once that is read, and ends when its listener is through. -/
theorem one_outcome_told (c : CapabilitySet) (bitmapMode : Bool) (t : Transport) (limiter : σ)
    (earlier later : List (Occurrence σ)) :
    let o := (fresh c bitmapMode t limiter).play earlier
    let o' := o.play later
    let e := o.handshake.engine
    (e.progress = .running → o.notices = [] ∧ e.outcome? = none) ∧
      (e.progress ≠ .running → ∃ outcome, e.machine.outcome = some outcome ∧
        o.notices = outcome.notices ∧ o'.notices = o.notices ∧
        o'.handshake.transport.traffic = o.handshake.transport.traffic ∧
        o'.handshake.engine.machine = e.machine) ∧
      (∀ v features, e.outcome? = some (.success v features) →
        o.notices = [.success features v] ∧ e.version = some v) ∧
      (∀ error, e.outcome? = some (.failure error) → o.notices = [.error error, .failure]) ∧
      e.version = e.machine.negotiation.settled ∧
      (∀ v, e.version = some v → o'.handshake.engine.version = some v) ∧
      (∀ outcome, e.progress = .running → (e.queue = [] → e.isOpen = false) →
        e.machine.Decides (e.machine.grant o.handshake.limiter o.handshake.nextEvent)
          o.handshake.nextEvent outcome →
        let next := o.step (.move .read)
        next.handshake.engine.machine.outcome = some outcome ∧
          next.notices = outcome.notices) ∧
      (e.progress ≠ .running →
        (o.step (.move .acknowledge)).handshake.engine.outcome? = e.machine.outcome) := by
  intro o o' e
  have ht : o.Told := (told_fresh c bitmapMode t limiter).play earlier
  have htold {outcome : Outcome} (h : e.outcome? = some outcome) : o.notices = outcome.notices :=
    ht.notices_eq (Engine.outcome_of_outcome? h)
  refine ⟨fun hp => ⟨?_, ?_⟩, fun hp => ?_, fun v features h => ⟨htold h, ?_⟩, fun error => htold,
    ht.sound.version, fun v hv => ht.version_play hv later, fun outcome hp ho => ht.ends hp ho,
    fun hp => ?_⟩
  · rw [ht.notices, Machine.notices, ht.sound.running.1 hp]
    rfl
  · simp only [Engine.outcome?, hp]
  · have hr := rests_play hp later
    cases ho : e.machine.outcome with
    | none => exact absurd (ht.sound.running.2 ho) hp
    | some outcome => exact ⟨outcome, rfl, ht.notices_eq ho, hr.notices, hr.traffic, hr.machine⟩
  · rw [ht.sound.version]
    exact ht.sound.faithful v features (Engine.outcome_of_outcome? h)
  · have hstep : (o.step (.move .acknowledge)).handshake.engine = e.acknowledge := rfl
    rw [hstep, Engine.outcome?, Engine.progress_acknowledge hp]
    exact congrArg Machine.outcome o.handshake.idles_acknowledge.machine

end Observed

end SwitchSession
