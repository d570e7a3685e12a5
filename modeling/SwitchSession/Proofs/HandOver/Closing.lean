import SwitchSession.HandOver
import SwitchSession.Proofs.Transport.Traffic

namespace SwitchSession

theorem Journal.statistics_report (j : Journal) (error : HandshakeError) (sink : ErrorSink) :
    (j.report error sink).statistics = j.statistics := by
  cases sink <;> rfl

theorem Journal.visits_report (j : Journal) (error : HandshakeError) (sink : ErrorSink) :
    (j.report error sink).visits = j.visits := by
  cases sink <;> rfl

namespace Site

theorem close_of_closed {s : Site} (h : s.context.state = .closed) (propagate : Bool) :
    s.close propagate = s := by
  simp [close, Context.close, h, Journal.write]

theorem close_of_open {s : Site} (h : s.context.state ≠ .closed) (propagate : Bool) :
    s.close propagate =
      { context := { s.context with state := .closed, closedWith := some propagate }
        transport := s.transport.disconnect
        journal := s.journal.write
          [.device (.disconnect (s.context.label s.transport.remote) propagate)] } := by
  unfold close Context.close
  cases hs : s.context.state with
  | closed => exact absurd hs h
  | handshaking => rfl
  | working => rfl

@[simp] theorem state_close (s : Site) (propagate : Bool) :
    (s.close propagate).context.state = .closed := by
  by_cases h : s.context.state = .closed
  · rw [close_of_closed h, h]
  · rw [close_of_open h]

theorem closedWith_close (s : Site) (propagate : Bool) :
    (s.close propagate).context.closedWith =
      if s.context.state = .closed then s.context.closedWith else some propagate := by
  split
  · next h => rw [close_of_closed h]
  · next h => rw [close_of_open h]

@[simp] theorem features_close (s : Site) (propagate : Bool) :
    (s.close propagate).context.features = s.context.features := by
  by_cases h : s.context.state = .closed
  · rw [close_of_closed h]
  · rw [close_of_open h]

@[simp] theorem node_close (s : Site) (propagate : Bool) :
    (s.close propagate).context.node = s.context.node := by
  by_cases h : s.context.state = .closed
  · rw [close_of_closed h]
  · rw [close_of_open h]

@[simp] theorem statistics_close (s : Site) (propagate : Bool) :
    (s.close propagate).journal.statistics = s.journal.statistics := rfl

/-- The second site is the first some time later: nothing was sent or stored, nobody visited. -/
structure Follows (s s' : Site) : Prop where
  transport : s.transport.Follows s'.transport
  state : s'.context.state = s.context.state ∨ s'.context.state = .closed
  features : s'.context.features = s.context.features
  node : s'.context.node = s.context.node
  visits : s'.journal.visits = s.journal.visits

theorem follows_close (s : Site) (propagate : Bool) : s.Follows (s.close propagate) where
  transport := by
    by_cases h : s.context.state = .closed
    · rw [close_of_closed h]
      exact .refl _
    · rw [close_of_open h]
      exact s.transport.follows_disconnect
  state := .inr (s.state_close propagate)
  features := s.features_close propagate
  node := s.node_close propagate
  visits := rfl

theorem Follows.of_transport (s : Site) {t : Transport} (h : s.transport.Follows t) :
    s.Follows { s with transport := t } :=
  ⟨h, .inl rfl, rfl, rfl, rfl⟩

theorem Follows.closed {s : Site} (h : s.Follows s') (hs : s.context.state = .closed) :
    s'.context.state = .closed :=
  h.state.elim (·.trans hs) id

/-- A closed connection has no transport any more. -/
def Cut (s : Site) : Prop := s.context.state = .closed → s.transport.isDisconnected

theorem Cut.close {s : Site} (h : s.Cut) (propagate : Bool) : (s.close propagate).Cut := by
  intro _
  by_cases hs : s.context.state = .closed
  · rw [close_of_closed hs]
    exact h hs
  · rw [close_of_open hs]
    exact s.transport.isDisconnected_disconnect

end Site

theorem refusal?_eq_none_iff {answer : HandlerAnswer} :
    refusal? answer = none ↔ answer = .ok .mayContinue := by
  cases answer with
  | error => simp [refusal?]
  | ok verdict => cases verdict <;> simp [refusal?]

namespace HandOver

theorem state_toWorking (c : Context) :
    c.toWorking.state ≠ .handshaking ∧ (c.toWorking.state = .closed → c.state = .closed) := by
  unfold Context.toWorking
  cases hs : c.state <;> simp [hs]

theorem closed_toWorking_iff (c : Context) :
    c.toWorking.state = .closed ↔ c.state = .closed := by
  unfold Context.toWorking
  cases hs : c.state <;> simp [hs]

theorem toWorking_eq (c : Context) : c.toWorking = { c with state := c.toWorking.state } := by
  unfold Context.toWorking
  cases c.state <;> rfl

theorem barriers_start (features : FeatureSet) (version : Version) (s : Site) :
    (start features version s).2.transport.traffic.barriers =
      s.transport.traffic.barriers ++ [⟨version, 0⟩] := by
  simp [start, Transport.traffic, Transport.requestBarrier]

theorem cut_start {s : Site} (h : s.Cut) (features : FeatureSet) (version : Version) :
    (start features version s).2.Cut :=
  fun hs => h ((state_toWorking s.context).2 hs)

theorem follows_abandon (s : Site) : s.Follows (abandon s) := by
  have h := Site.follows_close
    { s with journal := s.journal.record s.transport.remote .handshakeFailed } false
  exact ⟨h.transport, h.state, h.features, h.node, h.visits⟩

theorem cut_abandon {s : Site} (h : s.Cut) : (abandon s).Cut :=
  Site.Cut.close
    (s := { s with journal := s.journal.record s.transport.remote .handshakeFailed }) h false

/-- How a hand-over goes on when the barrier is answered. -/
inductive Resumes (s : Site) : HandOver → HandOver → Site → Prop
  | rejected (hr : s.transport.barrierReply? index = some (.error cause)) :
    Resumes s (.awaitingBarrier index node) .finished (s.close false)
  | visits (hr : s.transport.barrierReply? index = some (.ok ()))
      (hs : s.context.state = .working) :
    Resumes s (.awaitingBarrier index node) (.awaitingHandler node)
      { s with journal := { s.journal with visits := s.journal.visits ++ [s.visit] } }
  | late (hr : s.transport.barrierReply? index = some (.ok ()))
      (hs : s.context.state ≠ .working) :
    Resumes s (.awaitingBarrier index node) .finished s

theorem resume?_resumes {stage : HandOver} (h : resume? stage s = some (stage', s')) :
    Resumes s stage stage' s' := by
  unfold resume? at h
  split at h
  · split at h
    · cases h
    · next hr =>
      cases h
      exact .rejected hr
    · next hr =>
      split at h
      · next hs =>
        cases h
        exact .visits hr hs
      · next hs =>
        cases h
        exact .late hr hs
  · cases h

theorem judge_mayContinue (node : NodeId) (sink : ErrorSink) (s : Site) :
    judge node (.ok .mayContinue) sink s =
      { s with
        journal := (s.journal.record node.text .created).write [.device (.connect node)] } :=
  rfl

/-- A refused device is reported, its connection closed and counted. -/
theorem exists_judge_eq {a : HandlerAnswer} (ha : a ≠ .ok .mayContinue) (node : NodeId)
    (sink : ErrorSink) (s : Site) :
    ∃ reason, refusal? a = some reason ∧
      judge node a sink s =
        let s := { s with
          journal := s.journal.report (.deviceRefused node.text reason) sink }.close true
        { s with journal := s.journal.record node.text .disconnectedByController } := by
  cases hr : refusal? a with
  | none => exact absurd (refusal?_eq_none_iff.1 hr) ha
  | some reason => exact ⟨reason, rfl, by simp only [judge, hr]⟩

theorem follows_judge (node : NodeId) (a : HandlerAnswer) (sink : ErrorSink) (s : Site) :
    s.Follows (judge node a sink s) := by
  by_cases ha : a = .ok .mayContinue
  · rw [ha, judge_mayContinue]
    exact ⟨.refl _, .inl rfl, rfl, rfl, rfl⟩
  · obtain ⟨reason, _, hj⟩ := exists_judge_eq ha node sink s
    rw [hj]
    have h := Site.follows_close
      { s with journal := s.journal.report (.deviceRefused node.text reason) sink } true
    exact ⟨h.transport, h.state, h.features, h.node,
      h.visits.trans (s.journal.visits_report _ sink)⟩

theorem state_judge {a : HandlerAnswer} (ha : a ≠ .ok .mayContinue) (node : NodeId)
    (sink : ErrorSink) (s : Site) : (judge node a sink s).context.state = .closed := by
  obtain ⟨_, _, hj⟩ := exists_judge_eq ha node sink s
  rw [hj]
  exact Site.state_close _ _

theorem cut_judge {s : Site} (h : s.Cut) (node : NodeId) (a : HandlerAnswer) (sink : ErrorSink) :
    (judge node a sink s).Cut := by
  by_cases ha : a = .ok .mayContinue
  · rw [ha]
    exact h
  · obtain ⟨reason, _, hj⟩ := exists_judge_eq ha node sink s
    rw [hj]
    exact Site.Cut.close
      (s := { s with journal := s.journal.report (.deviceRefused node.text reason) sink }) h true

theorem answer?_eq_some {stage : HandOver} (h : answer? a sink stage s = some (stage', s')) :
    ∃ node, stage = .awaitingHandler node ∧ stage' = .finished ∧ s' = judge node a sink s := by
  unfold answer? at h
  split at h
  · cases h
    exact ⟨_, rfl, rfl, rfl⟩
  · cases h

/-- What a hand-over leaves alone at every step: it counts no handshake as failed. -/
structure Serves (s s' : Site) : Prop where
  transport : s.transport.Continues s'.transport
  cut : s.Cut → s'.Cut
  failures : ∀ device, s'.journal.statistics.count device .handshakeFailed =
    s.journal.statistics.count device .handshakeFailed

theorem Serves.refl (s : Site) : Serves s s :=
  ⟨(Transport.Follows.refl _).continues, id, fun _ => rfl⟩

theorem Serves.trans (h : Serves s s') (h' : Serves s' s'') : Serves s s'' :=
  ⟨h.transport.trans h'.transport, h'.cut ∘ h.cut, fun device =>
    (h'.failures device).trans (h.failures device)⟩

theorem serves_close (s : Site) (propagate : Bool) : Serves s (s.close propagate) :=
  ⟨(s.follows_close propagate).transport.continues, fun h => h.close propagate, fun _ => rfl⟩

theorem Resumes.serves (h : Resumes s stage stage' s') : Serves s s' := by
  cases h with
  | rejected => exact serves_close s false
  | visits => exact ⟨(Transport.Follows.refl _).continues, id, fun _ => rfl⟩
  | late => exact .refl s

theorem serves_judge (node : NodeId) (a : HandlerAnswer) (sink : ErrorSink) (s : Site) :
    Serves s (judge node a sink s) := by
  refine ⟨(follows_judge node a sink s).transport.continues, fun h => cut_judge h node a sink,
    fun device => ?_⟩
  by_cases ha : a = .ok .mayContinue
  · rw [ha, judge_mayContinue]
    simp [Journal.write, Journal.record, Statistics.count_record]
  · obtain ⟨reason, _, hj⟩ := exists_judge_eq ha node sink s
    rw [hj]
    simp [Journal.record, Statistics.count_record, Journal.statistics_report]

theorem serves_consult (handler : Handler) (sink : ErrorSink) (stage : HandOver) (s : Site) :
    Serves s (consult handler sink stage s).2 := by
  unfold consult
  split
  · split
    · next propagate _ => exact (serves_close _ propagate).trans (serves_judge _ _ _ _)
    · exact serves_judge _ _ _ _
  · exact .refl _

theorem serves_advance (handler : Handler) (sink : ErrorSink) (stage : HandOver) (s : Site) :
    Serves s (advance handler sink stage s).2 := by
  unfold advance
  split
  · next h => exact (resume?_resumes h).serves.trans (serves_consult _ _ _ _)
  · exact serves_consult _ _ _ _

theorem retains_close (s : Site) (propagate : Bool) :
    s.transport.Retains (s.close propagate).transport := by
  by_cases h : s.context.state = .closed
  · rw [Site.close_of_closed h]
    exact .refl _
  · rw [Site.close_of_open h]
    exact s.transport.retains_disconnect

theorem retains_start (features : FeatureSet) (version : Version) (s : Site) :
    s.transport.Retains (start features version s).2.transport :=
  ⟨.refl _, .refl _⟩

theorem retains_abandon (s : Site) : s.transport.Retains (abandon s).transport :=
  retains_close { s with journal := s.journal.record s.transport.remote .handshakeFailed } false

theorem retains_judge (node : NodeId) (a : HandlerAnswer) (sink : ErrorSink) (s : Site) :
    s.transport.Retains (judge node a sink s).transport := by
  by_cases ha : a = .ok .mayContinue
  · rw [ha]
    exact .refl _
  · obtain ⟨reason, _, hj⟩ := exists_judge_eq ha node sink s
    rw [hj]
    exact retains_close
      { s with journal := s.journal.report (.deviceRefused node.text reason) sink } true

theorem Resumes.retains (h : Resumes s stage stage' s') : s.transport.Retains s'.transport := by
  cases h with
  | rejected => exact retains_close s false
  | visits => exact .refl _
  | late => exact .refl _

theorem retains_consult (handler : Handler) (sink : ErrorSink) (stage : HandOver) (s : Site) :
    s.transport.Retains (consult handler sink stage s).2.transport := by
  unfold consult
  split
  · split
    · next propagate _ => exact (retains_close _ propagate).trans (retains_judge _ _ _ _)
    · exact retains_judge _ _ _ _
  · exact .refl _

theorem retains_advance (handler : Handler) (sink : ErrorSink) (stage : HandOver) (s : Site) :
    s.transport.Retains (advance handler sink stage s).2.transport := by
  unfold advance
  split
  · next h => exact (resume?_resumes h).retains.trans (retains_consult _ _ _ _)
  · exact retains_consult _ _ _ _

end HandOver

end SwitchSession
