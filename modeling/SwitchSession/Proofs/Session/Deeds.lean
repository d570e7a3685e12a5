import SwitchSession.Proofs.Session.Failure
import SwitchSession.Proofs.Session.Trail

namespace SwitchSession

/-- What a close writes to the log: the first one says that the connection is gone. -/
def Site.closing (s : Site) (propagate : Bool) : List LogRecord :=
  (s.context.close s.transport propagate).2.2

theorem Site.closing_eq (s : Site) (propagate : Bool) :
    s.closing propagate = if s.context.state = .closed then []
      else [.device (.disconnect (s.context.label s.transport.remote) propagate)] := by
  unfold closing Context.close
  cases s.context.state <;> rfl

@[simp] theorem Site.connects_closing (s : Site) (propagate : Bool) :
    (s.closing propagate).filterMap LogRecord.connected? = [] := by
  rw [closing_eq]
  split <;> rfl

@[simp] theorem Site.errors_closing (s : Site) (propagate : Bool) :
    (s.closing propagate).filterMap LogRecord.error? = [] := by
  rw [closing_eq]
  split <;> rfl

theorem Site.disconnects_closing (s : Site) (propagate : Bool) :
    Disconnects (s.closing propagate) ↔ s.context.state ≠ .closed := by
  rw [closing_eq]
  split <;> simp_all [Disconnects, LogRecord.isDisconnect]

def ErrorSink.trail (error : HandshakeError) : ErrorSink → Trail
  | .errors => { errors := [error] }
  | .log remote => { log := [.handshakeError remote error] }

/-- The second journal is the first with the trail of one connection. -/
structure Trail.Extends (t : Trail) (j j' : Journal) : Prop where
  log : j'.log = j.log ++ t.log
  errors : j'.errors = j.errors ++ t.errors
  created : ∀ device, j'.statistics.count device .created =
    j.statistics.count device .created + t.connects.countP (·.text = device)

theorem Trail.extends_empty (j : Journal) : Trail.Extends {} j j :=
  ⟨(List.append_nil _).symm, (List.append_nil _).symm, fun _ => rfl⟩

theorem Trail.Extends.append {t u : Trail} (h : t.Extends j j₁) (h' : u.Extends j₁ j₂) :
    (t ++ u).Extends j j₂ where
  log := by rw [h'.log, h.log, List.append_assoc, log_append]
  errors := by rw [h'.errors, h.errors, List.append_assoc, errors_append]
  created device := by
    rw [h'.created, h.created, connects_append, List.countP_append, Nat.add_assoc]

theorem ErrorSink.extends_report (j : Journal) (error : HandshakeError) (sink : ErrorSink) :
    (sink.trail error).Extends j (j.report error sink) := by
  cases sink with
  | errors => exact ⟨(List.append_nil _).symm, rfl, fun _ => rfl⟩
  | log => exact ⟨rfl, (List.append_nil _).symm, fun _ => rfl⟩

theorem Site.extends_close (s : Site) (propagate : Bool) (answers : List HandlerAnswer)
    (closes interruptions : List Bool) :
    Trail.Extends { log := s.closing propagate, answers, closes, interruptions } s.journal
      (s.close propagate).journal :=
  ⟨rfl, (List.append_nil _).symm, fun device => by simp [Trail.connects]⟩

theorem Trail.Extends.record {t : Trail} (h : t.Extends j j') (device : String)
    {event : SessionEvent} (he : event ≠ .created) : t.Extends j (j'.record device event) where
  log := h.log
  errors := h.errors
  created d := by
    rw [← h.created]
    simp [Journal.record, Statistics.count_record, he.symm]

/-- How far a connection has come. -/
structure Standing where
  outcome : Option Outcome
  handOver : Option HandOver
  site : Site

/-- What a connection does at a time, with the trail of it. -/
inductive Deed (sink : ErrorSink) : Standing → Standing → Trail → Prop
  | waits (ht : s.transport.Continues t) :
      Deed sink ⟨outcome, stage, s⟩ ⟨outcome, stage, { s with transport := t }⟩ {}
  | closes (propagate : Bool) :
      Deed sink ⟨outcome, stage, s⟩ ⟨outcome, stage, s.close propagate⟩
        { log := s.closing propagate
          closes := [propagate]
          interruptions := if stage.any HandOver.isConsulting then [propagate] else [] }
  | fails :
      Deed sink ⟨none, none, s⟩
        ⟨some (.failure error), some .finished,
          HandOver.abandon { s with journal := s.journal.report error sink }⟩
        (sink.trail error ++ { log := s.closing false })
  | succeeds :
      Deed sink ⟨none, none, s⟩
        ⟨some (.success version features), some (HandOver.start features version s).1,
          (HandOver.start features version s).2⟩
        { log := [.device (.handshakeSuccessful (NodeId.ofDatapath features.datapath)
            s.transport.remote version features.auxiliary)] }
  | rejected (hr : s.transport.barrierReply? index = some (.error cause)) :
      Deed sink ⟨outcome, some (.awaitingBarrier index node), s⟩
        ⟨outcome, some .finished, s.close false⟩ { log := s.closing false }
  | visits (hr : s.transport.barrierReply? index = some (.ok ()))
      (hs : s.context.state = .working) :
      Deed sink ⟨outcome, some (.awaitingBarrier index node), s⟩
        ⟨outcome, some (.awaitingHandler node),
          { s with journal := { s.journal with visits := s.journal.visits ++ [s.visit] } }⟩ {}
  | late (hr : s.transport.barrierReply? index = some (.ok ()))
      (hs : s.context.state ≠ .working) :
      Deed sink ⟨outcome, some (.awaitingBarrier index node), s⟩ ⟨outcome, some .finished, s⟩ {}
  | accepts :
      Deed sink ⟨outcome, some (.awaitingHandler node), s⟩
        ⟨outcome, some .finished, HandOver.judge node (.ok .mayContinue) sink s⟩
        { log := [.device (.connect node)]
          answers := [.ok .mayContinue]
          sightings := [s.context.state] }
  | refuses (ha : refusal? answer = some reason) :
      Deed sink ⟨outcome, some (.awaitingHandler node), s⟩
        ⟨outcome, some .finished, HandOver.judge node answer sink s⟩
        (sink.trail (.deviceRefused node.text reason) ++
          { log := s.closing true, answers := [answer] })

theorem HandOver.judge_of_refusal {a : HandlerAnswer} (ha : refusal? a = some reason)
    (node : NodeId) (sink : ErrorSink) (s : Site) :
    judge node a sink s =
      let s := { s with
        journal := s.journal.report (.deviceRefused node.text reason) sink }.close true
      { s with journal := s.journal.record node.text .disconnectedByController } := by
  simp only [judge, ha]

theorem Deed.written (h : Deed sink p q tr) : tr.Extends p.site.journal q.site.journal := by
  cases h with
  | waits => exact Trail.extends_empty _
  | @closes _ _ s propagate => exact s.extends_close propagate _ _ _
  | @fails s error =>
    have hr := ErrorSink.extends_report s.journal error sink
    have hc := Site.extends_close
      { s with journal := (s.journal.report error sink).record s.transport.remote .handshakeFailed }
      false [] [] []
    exact (hr.record _ (by decide)).append hc
  | succeeds => exact ⟨rfl, (List.append_nil _).symm, fun _ => rfl⟩
  | rejected => exact Site.extends_close _ false _ _ _
  | visits => exact ⟨(List.append_nil _).symm, (List.append_nil _).symm, fun _ => rfl⟩
  | late => exact Trail.extends_empty _
  | @accepts _ node s =>
    refine ⟨rfl, (List.append_nil _).symm, fun device => ?_⟩
    rw [HandOver.judge_mayContinue]
    simp [Journal.record, Journal.write, Statistics.count_record, Trail.connects,
      LogRecord.connected?, List.countP_cons, eq_comm]
  | @refuses a reason _ node s ha =>
    rw [HandOver.judge_of_refusal ha]
    have hr := ErrorSink.extends_report s.journal (.deviceRefused node.text reason) sink
    have hc := Site.extends_close
      { s with journal := s.journal.report (.deviceRefused node.text reason) sink } true [a] [] []
    exact (hr.append hc).record _ (by decide)

/-- Several deeds, one after the other. -/
inductive Deeds (sink : ErrorSink) : Standing → Standing → Trail → Prop
  | nil (p : Standing) : Deeds sink p p {}
  | cons (hd : Deed sink p q t) (hs : Deeds sink q r u) : Deeds sink p r (t ++ u)

theorem Deed.deeds (h : Deed sink p q t) : Deeds sink p q t := by
  have := Deeds.cons h (.nil q)
  rwa [Trail.append_empty] at this

theorem Deeds.written (h : Deeds sink p q tr) : tr.Extends p.site.journal q.site.journal := by
  induction h with
  | nil => exact Trail.extends_empty _
  | cons hd _ ih => exact hd.written.append ih

/-- What a trail has to show for an act, apart from what stands in the journal. -/
structure Trail.Shows (t : Trail) (answers : List HandlerAnswer) (closes interruptions : List Bool)
    (state : ConnectionState) : Prop where
  answers : t.answers = answers
  closes : t.closes = closes
  interruptions : t.interruptions = interruptions
  sightings : t.sightings = t.connects.map fun _ => state

theorem Trail.Shows.append {t u : Trail} (h : t.Shows as cs is state') (ht : t.connects = [])
    (h' : u.Shows as' cs' is' state) :
    (t ++ u).Shows (as ++ as') (cs ++ cs') (is ++ is') state where
  answers := by rw [answers_append, h.answers, h'.answers]
  closes := by rw [closes_append, h.closes, h'.closes]
  interruptions := by rw [interruptions_append, h.interruptions, h'.interruptions]
  sightings := by
    rw [sightings_append, h.sightings, h'.sightings, connects_append, ht, List.map_nil,
      List.nil_append, List.nil_append]

@[simp] theorem ErrorSink.connects_trail (error : HandshakeError) (sink : ErrorSink) :
    (sink.trail error).connects = [] := by
  cases sink <;> rfl

theorem ErrorSink.shows_trail (error : HandshakeError) (state : ConnectionState)
    (sink : ErrorSink) : (sink.trail error).Shows [] [] [] state := by
  cases sink <;> exact ⟨rfl, rfl, rfl, rfl⟩

theorem Site.shows_closing (s : Site) (propagate : Bool) (closes interruptions : List Bool)
    (state : ConnectionState) :
    Trail.Shows { log := s.closing propagate, closes, interruptions } [] closes interruptions
      state :=
  ⟨rfl, rfl, rfl, by simp [Trail.connects]⟩

namespace HandOver

/-- The deed that a verdict is, with its trail. -/
theorem exists_deed_judge (outcome : Option Outcome) (node : NodeId) (a : HandlerAnswer)
    (sink : ErrorSink) (s : Site) :
    ∃ t, Deed sink ⟨outcome, some (.awaitingHandler node), s⟩
        ⟨outcome, some .finished, judge node a sink s⟩ t ∧
      t.Shows [a] [] [] (judge node a sink s).context.state := by
  by_cases ha : a = .ok .mayContinue
  · rw [ha]
    exact ⟨_, .accepts, ⟨rfl, rfl, rfl, rfl⟩⟩
  · obtain ⟨reason, hr, -⟩ := exists_judge_eq ha node sink s
    exact ⟨_, .refuses hr, (sink.shows_trail _ s.context.state).append (sink.connects_trail _)
      ⟨rfl, rfl, rfl, by simp [Trail.connects]⟩⟩

/-- A handler that closes the connection before it answers adds one deed. -/
theorem exists_deeds_consult (outcome : Option Outcome) (handler : Handler) (sink : ErrorSink)
    (node : NodeId) (s : Site) :
    ∃ t, Deeds sink ⟨outcome, some (.awaitingHandler node), s⟩
        ⟨outcome, some .finished, (consult handler sink (.awaitingHandler node) s).2⟩ t ∧
      t.Shows [handler.answer] handler.closes.toList handler.closes.toList
        (consult handler sink (.awaitingHandler node) s).2.context.state := by
  cases hc : handler.closes with
  | none =>
    obtain ⟨t, hd, hs⟩ := exists_deed_judge outcome node handler.answer sink s
    refine ⟨t, ?_⟩
    simp only [consult, hc]
    exact ⟨hd.deeds, hs⟩
  | some propagate =>
    obtain ⟨t, hd, hs⟩ :=
      exists_deed_judge outcome node handler.answer sink (s.close propagate)
    have hclose := s.shows_closing propagate [propagate] [propagate] .closed
    have hshows := hclose.append (s.connects_closing propagate) hs
    simp only [consult, hc]
    exact ⟨_, .cons (.closes propagate) hd.deeds, hshows⟩

end HandOver

namespace Session

def standing (s : Session σ) : Standing :=
  ⟨s.handshake.engine.machine.outcome, s.handOver, s.site⟩

theorem standing_withHandOver (s : Session σ) (stage : HandOver) (site : Site) :
    ((s.withSite site).withHandOver stage).standing =
      ⟨s.handshake.engine.machine.outcome, some stage, site⟩ := by
  rw [standing, machine_withHandOver, handOver_withHandOver, site_withHandOver]
  rfl

theorem Step.trail_eq {x : Step σ} (hw : t.Extends x.before.journal x.after.journal)
    (hs : t.Shows x.answers x.closes (if x.isWithHandler then x.closes else [])
      x.after.context.state) : x.trail = t := by
  have hl : x.log = t.log := by rw [Step.log, hw.log, List.drop_left]
  have he : x.errors = t.errors := by rw [Step.errors, hw.errors, List.drop_left]
  ext1
  · exact hl
  · exact he
  · exact hs.answers.symm
  · exact hs.closes.symm
  · exact hs.interruptions.symm
  · rw [hs.sightings, Trail.connects, ← hl]
    rfl

/-- The deeds of an act leave what the act has left. -/
theorem deeds_of_shows {s s' : Session σ} (hd : Deeds s.sink s.standing s'.standing t)
    (hs : t.Shows (Step.mk act s s').answers (Step.mk act s s').closes
      (if (Step.mk act s s').isWithHandler then (Step.mk act s s').closes else [])
      s'.context.state) :
    Deeds s.sink s.standing s'.standing (Step.mk act s s').trail := by
  rw [Step.trail_eq hd.written hs]
  exact hd

/-- An act that neither closes nor answers. -/
theorem deeds_of_quiet {s s' : Session σ} (hd : Deeds s.sink s.standing s'.standing t)
    (ha : (Step.mk act s s').answers = []) (hc : (Step.mk act s s').closes = [])
    (hs : t.Shows [] [] [] s'.context.state) :
    Deeds s.sink s.standing s'.standing (Step.mk act s s').trail := by
  apply deeds_of_shows hd
  rw [ha, hc, ite_self]
  exact hs

/-- The engine goes on, and what it tells is heeded at once. -/
theorem Accounted.exists_deeds_advance {s : Session σ} (h : Accounted s H) {g : Handshake σ}
    (ha : s.handshake.Advances g ns) :
    ∃ t, Deeds s.sink s.standing ({ s with handshake := g }.heedAll ns).standing t ∧
      t.Shows [] [] [] ({ s with handshake := g }.heedAll ns).context.state := by
  have hwaits : Deed s.sink s.standing
      ⟨s.handshake.engine.machine.outcome, s.handOver,
        { s.site with transport := g.transport }⟩ {} :=
    .waits ha.transport
  rcases ha.quiet_or_ends h.regular.sound with ⟨rfl, ho⟩ | ⟨ho, outcome, hg, rfl⟩
  · refine ⟨{}, ?_, ⟨rfl, rfl, rfl, rfl⟩⟩
    rw [← ho] at hwaits
    exact hwaits.deeds
  · have hstands := h.stands
    rw [ho] at hstands hwaits
    rw [hstands.handOver] at hwaits
    cases outcome with
    | failure error =>
      let s₁ : Session σ :=
        { s with handshake := g, journal := s.journal.report error s.sink }
      have hd : Deed s.sink ⟨none, none, { s.site with transport := g.transport }⟩
          ((s₁.withSite (HandOver.abandon s₁.site)).withHandOver .finished).standing
          (s.sink.trail error ++ { log := s₁.site.closing false }) := by
        rw [standing_withHandOver, show s₁.handshake.engine.machine.outcome = _ from hg]
        exact .fails
      exact ⟨_, .cons hwaits hd.deeds, (s.sink.shows_trail error .closed).append
        (s.sink.connects_trail error) (s₁.site.shows_closing false [] [] _)⟩
    | success version features =>
      let s₁ : Session σ := { s with handshake := g }
      let greeting : LogRecord := .device (.handshakeSuccessful
        (NodeId.ofDatapath features.datapath) g.transport.remote version features.auxiliary)
      have hd : Deed s.sink ⟨none, none, { s.site with transport := g.transport }⟩
          ((s₁.withSite (HandOver.start features version s₁.site).2).withHandOver
            (HandOver.start features version s₁.site).1).standing { log := [greeting] } := by
        rw [standing_withHandOver, show s₁.handshake.engine.machine.outcome = _ from hg]
        exact .succeeds
      exact ⟨_, .cons hwaits hd.deeds, ⟨rfl, rfl, rfl, rfl⟩⟩

theorem Step.isWithHandler_eq {x : Step σ} (vs : List Visit)
    (hv : x.after.journal.visits = x.before.journal.visits ++ vs) :
    x.isWithHandler = (x.before.handOver.any HandOver.isConsulting || !vs.isEmpty) := by
  rw [isWithHandler, Step.visits, hv, List.drop_left]

theorem deeds_close (s : Session σ) (propagate : Bool) :
    Deeds s.sink s.standing (s.close propagate).standing
      (Step.mk (.move (.close propagate)) s (s.close propagate)).trail := by
  have hd : Deed s.sink s.standing (s.close propagate).standing _ := .closes propagate
  apply deeds_of_shows hd.deeds
  rw [Step.isWithHandler_eq [] (List.append_nil _).symm, List.isEmpty_nil, Bool.not_true,
    Bool.or_false]
  exact s.site.shows_closing propagate _ _ _

theorem deeds_handOver {s : Session σ} (hh : s.handOver = some stage) {site : Site}
    {next : HandOver} {act : Act} {t : Trail}
    (hd : Deeds s.sink ⟨s.handshake.engine.machine.outcome, some stage, s.site⟩
      ⟨s.handshake.engine.machine.outcome, some next, site⟩ t)
    (hs : let x := Step.mk act s ((s.withSite site).withHandOver next)
      t.Shows x.answers x.closes (if x.isWithHandler then x.closes else []) site.context.state) :
    Deeds s.sink s.standing ((s.withSite site).withHandOver next).standing
      (Step.mk act s ((s.withSite site).withHandOver next)).trail := by
  have hstanding := s.standing_withHandOver next site
  apply deeds_of_shows (t := t)
  · rw [hstanding, standing, hh]
    exact hd
  · have : ((s.withSite site).withHandOver next).context.state = site.context.state :=
      congrArg (·.site.context.state) hstanding
    rw [this]
    exact hs

end Session

namespace HandOver

theorem Resumes.exists_deed (h : Resumes s stage next s') (outcome : Option Outcome)
    (sink : ErrorSink) :
    ∃ t, Deed sink ⟨outcome, some stage, s⟩ ⟨outcome, some next, s'⟩ t ∧ t.connects = [] ∧
      t.Shows [] [] [] s'.context.state := by
  cases h with
  | rejected hr => exact ⟨_, .rejected hr, by simp [Trail.connects], s.shows_closing _ _ _ _⟩
  | visits hr hs => exact ⟨_, .visits hr hs, rfl, rfl, rfl, rfl, rfl⟩
  | late hr hs => exact ⟨_, .late hr hs, rfl, rfl, rfl, rfl, rfl⟩

theorem Resumes.visits_eq (h : Resumes s stage next s') :
    stage.isConsulting = false ∧
      s'.journal.visits = s.journal.visits ++ if next.isConsulting then [s.visit] else [] := by
  cases h with
  | rejected => exact ⟨rfl, (List.append_nil _).symm⟩
  | visits => exact ⟨rfl, rfl⟩
  | late => exact ⟨rfl, (List.append_nil _).symm⟩

theorem visits_consult (handler : Handler) (sink : ErrorSink) (node : NodeId) (s : Site) :
    (consult handler sink (.awaitingHandler node) s).2.journal.visits = s.journal.visits := by
  unfold consult
  cases handler.closes with
  | none => exact (follows_judge node handler.answer sink s).visits
  | some propagate =>
    exact (follows_judge node handler.answer sink (s.close propagate)).visits

/-- How a turn of a hand-over goes. -/
inductive Attends (handler : Handler) (sink : ErrorSink) (s : Site) :
    HandOver → HandOver → Site → Prop
  | rests (hs : stage.isConsulting = false) : Attends handler sink s stage stage s
  | resumes (hr : Resumes s stage next s') (hs : next.isConsulting = false) :
      Attends handler sink s stage next s'
  | consults : Attends handler sink s (.awaitingHandler node) .finished
      (consult handler sink (.awaitingHandler node) s).2
  | visits (hr : Resumes s stage (.awaitingHandler node) s') :
      Attends handler sink s stage .finished (consult handler sink (.awaitingHandler node) s').2

theorem consult_of_not_isConsulting {stage : HandOver} (h : stage.isConsulting = false)
    (handler : Handler) (sink : ErrorSink) (s : Site) :
    consult handler sink stage s = (stage, s) := by
  cases stage with
  | awaitingHandler => cases h
  | _ => rfl

theorem advance_attends (handler : Handler) (sink : ErrorSink) (stage : HandOver) (s : Site) :
    Attends handler sink s stage (advance handler sink stage s).1
      (advance handler sink stage s).2 := by
  unfold advance
  split
  · next next s' hr =>
    have hr := resume?_resumes hr
    by_cases hc : next.isConsulting = false
    · rw [consult_of_not_isConsulting hc]
      exact .resumes hr hc
    · cases next with
      | awaitingHandler node => exact .visits hr
      | _ => exact absurd rfl hc
  · by_cases hc : stage.isConsulting = false
    · rw [consult_of_not_isConsulting hc]
      exact .rests hc
    · cases stage with
      | awaitingHandler node => exact .consults
      | _ => exact absurd rfl hc

/-- The trail of a turn. The handler answers in it if the connection is with the handler. -/
theorem Attends.exists_deeds (h : Attends handler sink s stage next s')
    (outcome : Option Outcome) :
    ∃ t, Deeds sink ⟨outcome, some stage, s⟩ ⟨outcome, some next, s'⟩ t ∧
      ∃ visits, s'.journal.visits = s.journal.visits ++ visits ∧
        if stage.isConsulting || !visits.isEmpty then
          t.Shows [handler.answer] handler.closes.toList handler.closes.toList s'.context.state
        else t.Shows [] [] [] s'.context.state := by
  cases h with
  | rests hs =>
    refine ⟨_, .nil _, [], (List.append_nil _).symm, ?_⟩
    rw [hs]
    exact ⟨rfl, rfl, rfl, rfl⟩
  | resumes hr hs =>
    obtain ⟨t, hd, -, ht⟩ := hr.exists_deed outcome sink
    obtain ⟨hc, hv⟩ := hr.visits_eq
    rw [hs] at hv
    refine ⟨t, hd.deeds, [], hv, ?_⟩
    rw [hc]
    exact ht
  | consults =>
    obtain ⟨t, hd, ht⟩ := exists_deeds_consult outcome handler sink _ s
    exact ⟨t, hd, [], (visits_consult ..).trans (List.append_nil _).symm, ht⟩
  | @visits _ node s' hr =>
    obtain ⟨t, hd, hn, ht⟩ := hr.exists_deed outcome sink
    obtain ⟨u, hd', hu⟩ := exists_deeds_consult outcome handler sink node s'
    obtain ⟨-, hv⟩ := hr.visits_eq
    refine ⟨t ++ u, .cons hd hd', [s.visit], (visits_consult ..).trans hv, ?_⟩
    rw [List.isEmpty_cons, Bool.not_false, Bool.or_true]
    exact ht.append hn hu

end HandOver

namespace Session

/-- The hand-over goes on by a turn. -/
theorem deeds_attend {s : Session σ} (hh : s.handOver = some stage) (handler : Handler) :
    Deeds s.sink s.standing (s.advanceHandOver handler).standing
      (Step.mk (.attend handler) s (s.advanceHandOver handler)).trail := by
  rw [advanceHandOver_of_some hh]
  have ha := HandOver.advance_attends handler s.sink stage s.site
  obtain ⟨t, hd, visits, hv, ht⟩ := ha.exists_deeds s.handshake.engine.machine.outcome
  apply deeds_handOver hh hd
  intro x
  have hvisits : x.after.journal.visits = s.journal.visits ++ visits :=
    (congrArg (·.site.journal.visits) (s.standing_withHandOver _ _)).trans hv
  have hw : x.isWithHandler = (stage.isConsulting || !visits.isEmpty) := by
    rw [Step.isWithHandler_eq visits hvisits, show x.before.handOver = some stage from hh]
    rfl
  rw [show x.answers = if x.isWithHandler then [handler.answer] else [] from rfl,
    show x.closes = if x.isWithHandler then handler.closes.toList else [] from rfl, hw]
  split
  · next h =>
    rwa [if_pos h] at ht
  · next h =>
    rwa [if_neg h] at ht

variable [Admission σ]

/-- What a connection does comes down to deeds, whose trail the act has left. -/
theorem Accounted.deeds {s : Session σ} (h : Accounted s H) {act : Act}
    (ha : s.act? act = some s') :
    Deeds s.sink s.standing s'.standing (Step.mk act s s').trail := by
  cases act with
  | move move =>
    cases move with
    | handshake move =>
      obtain ⟨hm, g, ns, hg, rfl⟩ := move?_handshake_eq_some ha
      obtain ⟨t, hd, hs⟩ :=
        h.exists_deeds_advance (Handshake.move?_advances hg hm h.regular.sound)
      exact deeds_of_quiet hd rfl rfl hs
    | close propagate =>
      cases ha
      exact s.deeds_close propagate
    | resume =>
      obtain ⟨stage, next, site, hh, hr, rfl⟩ := stepHandOver_eq_some ha
      obtain ⟨t, hd, -, hs⟩ := (HandOver.resume?_resumes hr).exists_deed
        s.handshake.engine.machine.outcome s.sink
      refine deeds_handOver hh hd.deeds ?_
      simp only [Step.answers, Step.closes, ite_self]
      exact hs
    | answer a =>
      obtain ⟨stage, next, site, hh, hr, rfl⟩ := stepHandOver_eq_some ha
      obtain ⟨node, rfl, rfl, rfl⟩ := HandOver.answer?_eq_some hr
      obtain ⟨t, hd, hs⟩ := HandOver.exists_deed_judge s.handshake.engine.machine.outcome node a
        s.sink s.site
      refine deeds_handOver hh hd.deeds ?_
      simp only [Step.answers, Step.closes, ite_self]
      exact hs
  | respond response =>
    cases ha
    obtain ⟨t, hd, hs⟩ :=
      h.exists_deeds_advance ((s.handshake.keeps_respond response).advances h.regular.sound)
    exact deeds_of_quiet hd rfl rfl hs
  | work =>
    cases ha
    obtain ⟨t, hd, hs⟩ :=
      h.exists_deeds_advance (s.handshake.works_run.advances h.regular.sound)
    exact deeds_of_quiet hd rfl rfl hs
  | attend handler =>
    cases ha
    cases hh : s.handOver with
    | some stage => exact deeds_attend hh handler
    | none =>
      rw [advanceHandOver_of_none hh]
      have hw : (Step.mk (.attend handler) s s).isWithHandler = false := by
        rw [Step.isWithHandler_eq [] (List.append_nil _).symm]
        simp [hh]
      refine deeds_of_quiet (.nil _) ?_ ?_ ⟨rfl, rfl, rfl, rfl⟩
      · simp [Step.answers, hw]
      · simp [Step.closes, hw]

end Session

end SwitchSession
