import SwitchSession.Proofs.HandOver.Closing

namespace SwitchSession

namespace HandOver

/-- A hand-over under way, with the answers that its handler has given. -/
structure Call where
  stage : HandOver
  site : Site
  sink : ErrorSink
  answers : List HandlerAnswer := []

namespace Call

/-- What can happen while a hand-over waits. A handler that closes the connection does so before it
answers. -/
inductive Occurrence
  | resume
  | answer (answer : HandlerAnswer)
  | close (propagate : Bool)
  | disconnect
  | completeBarrier (result : Except TransportError Unit)

def begin (features : FeatureSet) (version : Version) (s : Site) (sink : ErrorSink) : Call where
  stage := (start features version s).1
  site := (start features version s).2
  sink

def step (c : Call) : Occurrence → Call
  | .resume =>
    match resume? c.stage c.site with
    | some (stage, site) => { c with stage, site }
    | none => c
  | .answer answer =>
    match answer? answer c.sink c.stage c.site with
    | some (stage, site) => { c with stage, site, answers := c.answers ++ [answer] }
    | none => c
  | .close propagate => { c with site := c.site.close propagate }
  | .disconnect =>
    { c with site := { c.site with transport := c.site.transport.disconnect } }
  | .completeBarrier result =>
    { c with site := { c.site with transport := (c.site.transport.completeBarrier result).2 } }

def play (c : Call) (schedule : List Occurrence) : Call := schedule.foldl step c

theorem exists_play_eq_consult (handler : Handler) (c : Call) :
    ∃ schedule, ((c.play schedule).stage, (c.play schedule).site) =
      consult handler c.sink c.stage c.site := by
  obtain ⟨stage, now, sink, as⟩ := c
  cases stage with
  | awaitingBarrier => exact ⟨[], rfl⟩
  | finished => exact ⟨[], rfl⟩
  | awaitingHandler node =>
    cases hc : handler.closes with
    | none => exact ⟨[.answer handler.answer], by simp [play, step, answer?, consult, hc]⟩
    | some propagate =>
      exact ⟨[.close propagate, .answer handler.answer], by
        simp [play, step, answer?, consult, hc]⟩

/-- A turn of a hand-over, with a handler that does not wait, is a schedule like any other. -/
theorem exists_play_eq_advance (handler : Handler) (c : Call) :
    ∃ schedule, ((c.play schedule).stage, (c.play schedule).site) =
      c.stage.advance handler c.sink c.site := by
  unfold advance
  cases hr : resume? c.stage c.site with
  | none => exact c.exists_play_eq_consult handler
  | some next =>
    obtain ⟨schedule, hs⟩ :=
      exists_play_eq_consult handler { c with stage := next.1, site := next.2 }
    refine ⟨.resume :: schedule, ?_⟩
    simpa [play, step, hr] using hs

variable (device : FeatureSet) (version : Version) (s : Site)

/-- What the handler finds when it is called for this device. -/
def visit : Visit where
  remote := s.transport.remote
  state := .working
  features := some device
  node := some (NodeId.ofDatapath device.datapath)

/-- The handler was called, once, behind a barrier that the device has answered. -/
structure Visited (now : Site) : Prop where
  visits : now.journal.visits = s.journal.visits ++ [visit device s]
  barrier : now.transport.barrierReply? s.transport.barriers.length = some (.ok ())

/-- Where a call stands that began at site `s`, by its stage and the answers it was given. -/
inductive Stands : HandOver → Site → List HandlerAnswer → Prop
  | waits (hs : now.context.state ≠ .handshaking) (hv : now.journal.visits = s.journal.visits) :
    Stands (.awaitingBarrier s.transport.barriers.length (NodeId.ofDatapath device.datapath)) now []
  | visited (hv : Visited device s now) : Stands (.awaitingHandler node) now []
  | dropped (hs : now.context.state = .closed) (hv : now.journal.visits = s.journal.visits) :
    Stands .finished now []
  | judged (hv : Visited device s now) (ha : a = .ok .mayContinue ∨ now.context.state = .closed) :
    Stands .finished now [a]

structure Orderly (c : Call) : Prop where
  remote : c.site.transport.remote = s.transport.remote
  barriers : c.site.transport.traffic.barriers = s.transport.traffic.barriers ++ [⟨version, 0⟩]
  features : c.site.context.features = some device
  identity : c.site.context.node = some (NodeId.ofDatapath device.datapath)
  cut : c.site.Cut
  stands : Stands device s c.stage c.site c.answers

variable {device version s}

theorem orderly_begin (h : s.Cut) (sink : ErrorSink) :
    Orderly device version s (begin device version s sink) where
  remote := rfl
  barriers := barriers_start device version s
  features := rfl
  identity := rfl
  cut := cut_start h device version
  stands := .waits (state_toWorking s.context).1 rfl

theorem Visited.follows (h : Visited device s now) (hf : now.Follows later) :
    Visited device s later :=
  ⟨hf.visits.trans h.visits, hf.transport.barrier _ _ h.barrier⟩

theorem Stands.follows (h : Stands device s p now as) (hf : now.Follows later) :
    Stands device s p later as := by
  cases h with
  | waits hs hv =>
    refine .waits ?_ (hf.visits.trans hv)
    rcases hf.state with h | h <;> simp [h, hs]
  | visited hv => exact .visited (hv.follows hf)
  | dropped hs hv => exact .dropped (hf.closed hs) (hf.visits.trans hv)
  | judged hv ha => exact .judged (hv.follows hf) (ha.imp_right hf.closed)

theorem Orderly.follows {c : Call} (h : Orderly device version s c) (hf : c.site.Follows later)
    (hc : later.Cut) : Orderly device version s { c with site := later } where
  remote := hf.transport.remote.trans h.remote
  barriers := (congrArg Traffic.barriers hf.transport.traffic).trans h.barriers
  features := hf.features.trans h.features
  identity := hf.node.trans h.identity
  cut := hc
  stands := h.stands.follows hf

theorem Orderly.visit_eq {c : Call} (h : Orderly device version s c)
    (hs : c.site.context.state = .working) : c.site.visit = visit device s := by
  simp only [Site.visit, visit, h.remote, hs, h.features, h.identity]

theorem Orderly.resume {c : Call} (h : Orderly device version s c)
    (hr : Resumes c.site c.stage next later) :
    Orderly device version s { c with stage := next, site := later } := by
  have hvisit := h.visit_eq
  have hstands := h.stands
  obtain ⟨stage, now, sink, answers⟩ := c
  cases hr with
  | rejected =>
    cases hstands with
    | waits _ hv =>
      have hf := h.follows (now.follows_close false) (h.cut.close false)
      exact { hf with stands := .dropped (now.state_close false) hv }
  | visits hr hs =>
    cases hstands with
    | waits _ hv =>
      refine { h with stands := .visited ⟨?_, hr⟩ }
      rw [← hvisit hs, ← hv]
  | late hr hs =>
    cases hstands with
    | waits hs' hv =>
      refine { h with stands := .dropped ?_ hv }
      cases hc : now.context.state with
      | closed => rfl
      | handshaking => exact absurd hc hs'
      | working => exact absurd hc hs

theorem Orderly.answer {c : Call} (h : Orderly device version s c)
    (hc : c.stage = .awaitingHandler node) (a : HandlerAnswer) :
    Orderly device version s { c with
      stage := .finished
      site := judge node a c.sink c.site
      answers := c.answers ++ [a] } := by
  obtain ⟨stage, now, sink, answers⟩ := c
  have hj := follows_judge node a sink now
  have hf := h.follows hj (cut_judge h.cut node a sink)
  cases hc
  cases h.stands with
  | visited hv =>
    refine { hf with stands := .judged (hv.follows hj) ?_ }
    by_cases ha : a = .ok .mayContinue
    · exact .inl ha
    · exact .inr (state_judge ha node sink now)

theorem Orderly.step {c : Call} (h : Orderly device version s c) (x : Occurrence) :
    Orderly device version s (c.step x) := by
  cases x with
  | resume =>
    simp only [Call.step]
    split
    · next hr => exact h.resume (resume?_resumes hr)
    · exact h
  | answer a =>
    simp only [Call.step]
    split
    · next hr =>
      obtain ⟨node, hc, rfl, rfl⟩ := answer?_eq_some hr
      exact h.answer hc a
    · exact h
  | close propagate => exact h.follows (c.site.follows_close propagate) (h.cut.close propagate)
  | disconnect =>
    exact h.follows (.of_transport _ c.site.transport.follows_disconnect) fun _ =>
      c.site.transport.isDisconnected_disconnect
  | completeBarrier result =>
    exact h.follows (.of_transport _ (c.site.transport.follows_completeBarrier result)) h.cut

theorem Orderly.play {c : Call} (h : Orderly device version s c) (schedule : List Occurrence) :
    Orderly device version s (c.play schedule) := by
  induction schedule generalizing c with
  | nil => exact h
  | cons x schedule ih => exact ih (h.step x)

theorem Stands.unvisited_or_visited (h : Stands device s p now as) :
    now.journal.visits = s.journal.visits ∧ as = [] ∨ Visited device s now := by
  cases h with
  | waits _ hv => exact .inl ⟨hv, rfl⟩
  | visited hv => exact .inr hv
  | dropped _ hv => exact .inl ⟨hv, rfl⟩
  | judged hv => exact .inr hv

theorem Stands.accepted_or_closed (h : Stands device s .finished now as) :
    Visited device s now ∧ as = [.ok .mayContinue] ∨ now.context.state = .closed := by
  cases h with
  | dropped hs => exact .inr hs
  | judged hv ha => exact ha.imp_left fun ha => ⟨hv, by rw [ha]⟩

/-- A connection when the success of its handshake is announced: untouched so far, or closed. -/
def announced (t : Transport) (j : Journal) : Option Bool → Site
  | none => { transport := t, journal := j }
  | some propagate => Site.close { transport := t, journal := j } propagate

theorem cut_announced (t : Transport) (j : Journal) (closed : Option Bool) :
    (announced t j closed).Cut := by
  have hfresh : Site.Cut { transport := t, journal := j } := by rintro ⟨⟩
  cases closed with
  | none => exact hfresh
  | some propagate => exact hfresh.close propagate

/-- A call goes on as soon as what it waits for is there: the reply to its barrier leads to the handler
or ends it, and an answer of the handler ends it. -/
structure GoesOn (c : Call) : Prop where
  rejected : ∀ index node cause, c.stage = .awaitingBarrier index node →
    c.site.transport.barrierReply? index = some (.error cause) → (c.step .resume).stage = .finished
  flushed : ∀ index node, c.stage = .awaitingBarrier index node →
    c.site.transport.barrierReply? index = some (.ok ()) → (c.step .resume).stage =
      if c.site.context.state = .working then .awaitingHandler node else .finished
  answered : ∀ node answer, c.stage = .awaitingHandler node →
    (c.step (.answer answer)).stage = .finished ∧
      (c.step (.answer answer)).answers = c.answers ++ [answer]

theorem goesOn (c : Call) : c.GoesOn where
  rejected index node cause hc hr := by
    simp only [step, resume?, hc, hr]
  flushed index node hc hr := by
    simp only [step, resume?, hc, hr]
    by_cases hs : c.site.context.state = .working
    · simp only [hs, if_true]
    · simp only [hs, if_false]
  answered node answer hc := by
    simp only [step, answer?, hc, and_self]

/-- Whatever happens while a call waits, the handler is called at most once, after the device has
answered the barrier and while the connection works with this device's features and node. A call
that ends leaves the connection open only if the handler let it continue; any other connection is
closed, and its transport is cut. A call does not stay where it is once it can go on. -/
theorem handed_over_behind_barrier (device : FeatureSet) (version : Version) (t : Transport)
    (j : Journal) (closed : Option Bool) (sink : ErrorSink) (schedule : List Occurrence) :
    let s := announced t j closed
    let call := (begin device version s sink).play schedule
    let now := call.site
    let visited := now.journal.visits = j.visits ++
      [⟨t.remote, .working, some device, some (NodeId.ofDatapath device.datapath)⟩]
    (now.journal.visits = j.visits ∧ call.answers = [] ∨
      visited ∧ now.transport.barrierReply? s.transport.barriers.length = some (.ok ())) ∧
    now.transport.traffic.barriers = s.transport.traffic.barriers ++ [⟨version, 0⟩] ∧
    (call.stage = .finished → now.context.state ≠ .closed →
      visited ∧ call.answers = [.ok .mayContinue]) ∧
    (call.stage = .finished → ¬(visited ∧ call.answers = [.ok .mayContinue]) →
      now.context.state = .closed) ∧
    (now.context.state = .closed → now.transport.isDisconnected) ∧
    call.GoesOn := by
  intro s call now visited
  have h : Orderly device version s call := (orderly_begin (cut_announced t j closed) sink).play _
  have hj : s.journal.visits = j.visits := by cases closed <;> rfl
  have ht : s.transport.remote = t.remote := by
    cases closed with
    | none => rfl
    | some propagate => exact (Site.follows_close _ propagate).transport.remote
  have hvisited (hv : Visited device s now) : visited := by
    change _ = _
    rw [hv.visits, hj, visit, ht]
  have hend (hp : call.stage = .finished) :
      visited ∧ call.answers = [.ok .mayContinue] ∨ now.context.state = .closed :=
    (hp ▸ h.stands).accepted_or_closed.imp_left (And.imp_left hvisited)
  refine ⟨?_, h.barriers, fun hp => (hend hp).resolve_right, fun hp => (hend hp).resolve_left,
    h.cut, call.goesOn⟩
  rcases h.stands.unvisited_or_visited with ⟨hv, ha⟩ | hv
  · exact .inl ⟨hv.trans hj, ha⟩
  · exact .inr ⟨hvisited hv, hv.barrier⟩

/-- A handler that closes the connection and then lets it continue leaves it closed. -/
example (device : FeatureSet) (version : Version) :
    let s := announced { remote := "10.0.0.9:6653" } {} none
    let schedule := [.resume, .close true, .answer (.ok .mayContinue)]
    let call := (begin device version s .errors).play schedule
    call.stage = .finished ∧ call.site.context.closedWith = some true :=
  ⟨rfl, rfl⟩

end Call

end HandOver

end SwitchSession
