import SwitchSession.Proofs.Session.Deeds

namespace SwitchSession

namespace Trail

/-- No device is written down as connected. This was reported, and these answers came. -/
structure Unconnected (t : Trail) (reports : List HandshakeError) (answers : List HandlerAnswer) :
    Prop where
  connects : t.connects = []
  sightings : t.sightings = []
  reports : t.reports = reports
  answers : t.answers = answers

abbrev Quiet (t : Trail) : Prop := t.Unconnected [] []

theorem quiet_empty : Quiet {} := ⟨rfl, rfl, rfl, rfl⟩

theorem reports_append_of_nil (t : Trail) {u : Trail} (h : u.reports = []) :
    (t ++ u).reports = t.reports := by
  obtain ⟨he, hl⟩ := List.append_eq_nil_iff.1 h
  simp [reports, he, hl]

theorem append_reports_of_nil {t : Trail} (u : Trail) (h : t.reports = []) :
    (t ++ u).reports = u.reports := by
  obtain ⟨he, hl⟩ := List.append_eq_nil_iff.1 h
  simp [reports, he, hl]

theorem Unconnected.append_quiet {t u : Trail} (h : t.Unconnected rs as) (h' : u.Quiet) :
    (t ++ u).Unconnected rs as where
  connects := by rw [connects_append, h.connects, h'.connects]; rfl
  sightings := by rw [sightings_append, h.sightings, h'.sightings]; rfl
  reports := by rw [reports_append_of_nil t h'.reports, h.reports]
  answers := by rw [answers_append, h.answers, h'.answers, List.append_nil]

theorem Quiet.append {t u : Trail} (h : t.Quiet) (h' : u.Unconnected rs as) :
    (t ++ u).Unconnected rs as where
  connects := by rw [connects_append, h.connects, h'.connects]; rfl
  sightings := by rw [sightings_append, h.sightings, h'.sightings]; rfl
  reports := by rw [append_reports_of_nil u h.reports, h'.reports]
  answers := by rw [answers_append, h.answers, h'.answers, List.nil_append]

/-- The handler let the device continue, and it was written down as connected, once. The connection
worked then, unless it was closed while the handler had it. -/
inductive Connected (t : Trail) (node : NodeId) : Prop
  | once (hl : t.log = earlier ++ .device (.connect node) :: later)
      (he : earlier.filterMap LogRecord.connected? = [])
      (hl' : later.filterMap LogRecord.connected? = [])
      (hi : Disconnects earlier ↔ t.interruptions ≠ [])
      (hv : t.sightings = [state]) (hw : state = .working ↔ t.interruptions = [])
      (ha : t.answers = [.ok .mayContinue]) (hr : t.reports = []) : Connected t node

theorem Connected.append_quiet {t u : Trail} (h : t.Connected node) (hu : u.Quiet)
    (hi : u.interruptions = []) : (t ++ u).Connected node := by
  have hs : (t ++ u).interruptions = t.interruptions := by
    rw [interruptions_append, hi, List.append_nil]
  have hsightings : (t ++ u).sightings = t.sightings := by
    rw [sightings_append, hu.sightings, List.append_nil]
  obtain ⟨hl, he, hl', hi, hv, hw, ha, hr⟩ := h
  have hlog := congrArg (· ++ u.log) hl
  simp only [List.append_assoc, List.cons_append] at hlog
  refine .once hlog he ?_ (hs ▸ hi) (hsightings.trans hv) (hs ▸ hw) ?_ ?_
  · rw [List.filterMap_append, hl']
    exact hu.connects
  · rw [answers_append, hu.answers, ha, List.append_nil]
  · rw [reports_append_of_nil t hu.reports, hr]

end Trail

theorem Site.quiet_closing (s : Site) (propagate : Bool) (closes interruptions : List Bool) :
    Trail.Quiet { log := s.closing propagate, closes, interruptions } :=
  ⟨s.connects_closing propagate, rfl, s.errors_closing propagate, rfl⟩

/-- The trail of a report and the close that comes with it. -/
theorem ErrorSink.unconnected_closing (error : HandshakeError) (sink : ErrorSink) (s : Site)
    (propagate : Bool) (answers : List HandlerAnswer) :
    (sink.trail error ++ { log := s.closing propagate, answers }).Unconnected [error] answers where
  connects := by
    rw [Trail.connects_append, connects_trail]
    exact s.connects_closing propagate
  sightings := by cases sink <;> rfl
  reports := by
    have hr : Trail.reports { log := s.closing propagate, answers } = [] :=
      s.errors_closing propagate
    rw [Trail.reports_append_of_nil _ hr]
    cases sink <;> rfl
  answers := by cases sink <;> rfl

theorem ErrorSink.not_disconnects_trail (error : HandshakeError) (sink : ErrorSink) :
    ¬ Disconnects (sink.trail error).log := by
  cases sink <;> simp [trail, Disconnects, LogRecord.isDisconnect]

theorem Site.closed_close_iff (s : Site) (propagate : Bool) :
    (s.close propagate).context.state = .closed ↔
      s.context.state = .closed ∨ Disconnects (s.closing propagate) := by
  rw [disconnects_closing, state_close, eq_self, true_iff]
  exact Classical.em _

/-- A connection is closed by what its log calls a disconnect, and by nothing else. -/
theorem Deed.closed (h : Deed sink p q t) : q.site.context.state = .closed ↔
    p.site.context.state = .closed ∨ Disconnects t.log := by
  cases h with
  | waits => exact (or_iff_left not_disconnects_nil).symm
  | closes propagate => exact Site.closed_close_iff _ propagate
  | @fails s error =>
    rw [Trail.log_append, disconnects_append,
      or_iff_right (ErrorSink.not_disconnects_trail error sink)]
    exact Site.closed_close_iff _ false
  | @succeeds s =>
    refine Iff.trans ?_ (or_iff_left (by simp [Disconnects, LogRecord.isDisconnect])).symm
    exact HandOver.closed_toWorking_iff s.context
  | rejected => exact Site.closed_close_iff _ false
  | visits => exact (or_iff_left not_disconnects_nil).symm
  | late => exact (or_iff_left not_disconnects_nil).symm
  | accepts => exact (or_iff_left (by simp [Disconnects, LogRecord.isDisconnect])).symm
  | @refuses _ reason _ node s ha =>
    rw [Trail.log_append, disconnects_append,
      or_iff_right (ErrorSink.not_disconnects_trail _ sink), HandOver.judge_of_refusal ha]
    exact Site.closed_close_iff _ true

/-- A stage of a connection whose barrier is the `b`-th of its transport, with its trail. Before the
end of its hand-over only closes from outside close it. -/
inductive Course (b : Nat) : Standing → Trail → Prop
  | negotiating (hb : s.transport.barriers.length = b) (hq : t.Quiet) (hi : t.interruptions = [])
      (hc : s.context.state = .closed → t.closes ≠ []) : Course b ⟨none, none, s⟩ t
  | failed (hs : s.context.state = .closed) (hr : t.Unconnected [error] []) :
      Course b ⟨some (.failure error), some .finished, s⟩ t
  | flushing (hs : s.context.state ≠ .handshaking) (hq : t.Quiet) (hi : t.interruptions = [])
      (hc : s.context.state = .closed → t.closes ≠ []) :
      Course b ⟨some (.success version features),
        some (.awaitingBarrier b (NodeId.ofDatapath features.datapath)), s⟩ t
  | handling (hs : s.context.state ≠ .handshaking)
      (hr : s.transport.barrierReply? b = some (.ok ()))
      (hq : t.Quiet) (hi : s.context.state = .closed ↔ t.interruptions ≠ [])
      (hc : s.context.state = .closed → t.closes ≠ []) :
      Course b ⟨some (.success version features),
        some (.awaitingHandler (NodeId.ofDatapath features.datapath)), s⟩ t
  | dropped (hs : s.context.state = .closed) (hq : t.Quiet) (hi : t.interruptions = [])
      (hr : (∃ cause, s.transport.barrierReply? b = some (.error cause)) ∨
        s.transport.barrierReply? b = some (.ok ()) ∧ t.closes ≠ []) :
      Course b ⟨some (.success version features), some .finished, s⟩ t
  | accepted (hb : s.transport.barrierReply? b = some (.ok ()))
      (ht : t.Connected (NodeId.ofDatapath features.datapath))
      (hc : s.context.state = .closed → t.closes ≠ []) :
      Course b ⟨some (.success version features), some .finished, s⟩ t
  | refused (hs : s.context.state = .closed) (hb : s.transport.barrierReply? b = some (.ok ()))
      (ha : refusal? answer = some reason)
      (hr : t.Unconnected [.deviceRefused (NodeId.ofDatapath features.datapath).text reason]
        [answer]) :
      Course b ⟨some (.success version features), some .finished, s⟩ t

/-- What can happen to a connection without its doing: its transport goes on, or it is closed. -/
structure Standing.Passes (p : Standing) (s : Site) (u : Trail) : Prop where
  transport : p.site.transport.Continues s.transport
  quiet : u.Quiet
  closed : p.site.context.state = .closed → s.context.state = .closed
  handshaking : p.site.context.state ≠ .handshaking → s.context.state ≠ .handshaking
  closes : s.context.state = .closed → p.site.context.state = .closed ∨ u.closes ≠ []
  undisturbed : p.handOver.any HandOver.isConsulting = false → u.interruptions = []
  disturbed : p.handOver.any HandOver.isConsulting →
    (s.context.state = .closed ↔ p.site.context.state = .closed ∨ u.interruptions ≠ [])

theorem Standing.passes_of_context (p : Standing) {s : Site}
    (ht : p.site.transport.Continues s.transport) (hs : s.context = p.site.context) :
    p.Passes s {} where
  transport := ht
  quiet := Trail.quiet_empty
  closed h := hs ▸ h
  handshaking h := hs ▸ h
  closes h := .inl (hs ▸ h)
  undisturbed _ := rfl
  disturbed _ := hs ▸ (or_iff_left fun h => h rfl).symm

theorem Standing.passes_close (p : Standing) (propagate : Bool) :
    p.Passes (p.site.close propagate)
      { log := p.site.closing propagate
        closes := [propagate]
        interruptions :=
          if p.handOver.any HandOver.isConsulting then [propagate] else [] } where
  transport := (p.site.follows_close propagate).transport.continues
  quiet := p.site.quiet_closing propagate _ _
  closed _ := p.site.state_close propagate
  handshaking _ := by
    rw [p.site.state_close]
    decide
  closes _ := .inr (List.cons_ne_nil _ _)
  undisturbed h := by rw [h]; rfl
  disturbed h := by
    rw [p.site.state_close, if_pos h]
    simp

theorem Course.passes {p : Standing} (h : Course b p t) (hp : p.Passes site u) :
    Course b { p with site } (t ++ u) := by
  have hne (xs ys : List Bool) : xs ++ ys ≠ [] ↔ xs ≠ [] ∨ ys ≠ [] := by
    rw [Ne, List.append_eq_nil_iff, not_and_or]
  have hcloses (hc : p.site.context.state = .closed → t.closes ≠ [])
      (hs : site.context.state = .closed) : (t ++ u).closes ≠ [] :=
    (hne _ _).2 ((hp.closes hs).imp_left hc)
  have hundisturbed (hs : p.handOver.any HandOver.isConsulting = false) :
      (t ++ u).interruptions = t.interruptions := by
    rw [Trail.interruptions_append, hp.undisturbed hs, List.append_nil]
  have hbarrier := hp.transport.barrier
  cases h with
  | negotiating hb hq hi hc =>
    refine .negotiating ?_ (hq.append hp.quiet) ((hundisturbed rfl).trans hi) (hcloses hc)
    have := congrArg List.length hp.transport.barriers
    simpa [Transport.traffic, hb] using this
  | failed hs hr => exact .failed (hp.closed hs) (hr.append_quiet hp.quiet)
  | flushing hs hq hi hc =>
    exact .flushing (hp.handshaking hs) (hq.append hp.quiet) ((hundisturbed rfl).trans hi)
      (hcloses hc)
  | handling hs hr hq hi hc =>
    refine .handling (hp.handshaking hs) (hbarrier _ _ hr) (hq.append hp.quiet) ?_ (hcloses hc)
    exact (hp.disturbed rfl).trans ((or_congr_left hi).trans (hne _ _).symm)
  | dropped hs hq hi hr =>
    refine .dropped (hp.closed hs) (hq.append hp.quiet) ((hundisturbed rfl).trans hi) ?_
    refine hr.imp (Exists.imp fun _ => hbarrier _ _) (And.imp (hbarrier _ _) fun hc => ?_)
    exact hcloses (fun _ => hc) (hp.closed hs)
  | accepted hb ht hc =>
    exact .accepted (hbarrier _ _ hb) (ht.append_quiet hp.quiet (hp.undisturbed rfl)) (hcloses hc)
  | refused hs hb ha hr =>
    exact .refused (hp.closed hs) (hbarrier _ _ hb) ha (hr.append_quiet hp.quiet)

theorem closed_of_not_working {state : ConnectionState} (h : state ≠ .handshaking)
    (h' : state ≠ .working) : state = .closed := by
  cases state with
  | handshaking => exact absurd rfl h
  | working => exact absurd rfl h'
  | closed => rfl

/-- The handler lets a device continue: what it has seen of the connection by then is in the log. -/
theorem Trail.Quiet.connected {t : Trail} (h : t.Quiet) {state : ConnectionState}
    (hs : state ≠ .handshaking) (hc : state = .closed ↔ Disconnects t.log)
    (hi : state = .closed ↔ t.interruptions ≠ []) (node : NodeId) :
    (t ++ { log := [.device (.connect node)]
            answers := [.ok .mayContinue]
            sightings := [state] }).Connected node := by
  have hsightings : t.sightings ++ [state] = [state] := by rw [h.sightings]; rfl
  refine .once (log_append _ _) h.connects rfl ?_ hsightings ?_ ?_ ?_
  · rw [← hc, interruptions_append, List.append_nil]
    exact hi
  · rw [interruptions_append, List.append_nil, ← not_iff_not]
    refine Iff.trans ⟨closed_of_not_working hs, fun h => ?_⟩ hi
    rw [h]
    decide
  · rw [answers_append, h.answers]
    rfl
  · rw [append_reports_of_nil _ h.reports]
    rfl

/-- A deed leads from one stage to the next. What the log says of a disconnect is known. -/
theorem Course.deed {p : Standing} (h : Course b p t) (hd : Deed sink p q u)
    (hc : p.site.context.state = .closed ↔ Disconnects t.log) : Course b q (t ++ u) := by
  cases hd with
  | waits ht => exact h.passes (Standing.passes_of_context _ ht rfl)
  | closes propagate => exact h.passes (Standing.passes_close _ propagate)
  | @fails s error =>
    cases h with
    | negotiating _ hq =>
      exact .failed (Site.state_close _ false)
        (hq.append (ErrorSink.unconnected_closing error sink s false []))
  | succeeds =>
    cases h with
    | negotiating hb hq hi hc' =>
      subst hb
      refine .flushing (HandOver.state_toWorking _).1 (hq.append ⟨rfl, rfl, rfl, rfl⟩)
        (by simp [hi]) fun hs => ?_
      simpa using hc' ((HandOver.closed_toWorking_iff _).1 hs)
  | rejected hr =>
    cases h with
    | flushing hs hq hi hc' =>
      have hbarrier := (Site.follows_close _ false).transport.barrier _ _ hr
      exact .dropped (Site.state_close _ false) (hq.append (Site.quiet_closing _ false [] []))
        (by simp [hi]) (.inl ⟨_, hbarrier⟩)
  | visits hr hs =>
    rw [Trail.append_empty]
    cases h with
    | flushing hs' hq hi hc' => exact .handling hs' hr hq (by simp [hi, hs]) hc'
  | late hr hs =>
    rw [Trail.append_empty]
    cases h with
    | flushing hs' hq hi hc' =>
      have hclosed := closed_of_not_working hs' hs
      exact .dropped hclosed hq hi (.inr ⟨hr, hc' hclosed⟩)
  | @accepts _ node s =>
    cases h with
    | handling hs hr hq hi hc' =>
      refine .accepted hr (hq.connected hs hc hi _) fun h => ?_
      rw [Trail.closes_append, List.append_nil]
      exact hc' h
  | @refuses answer reason _ node s ha =>
    cases h with
    | handling hs hr hq hi hc' =>
      have hne : answer ≠ .ok .mayContinue := by
        rintro rfl
        cases ha
      exact .refused (HandOver.state_judge hne _ sink s)
        ((HandOver.follows_judge _ answer sink s).transport.barrier _ _ hr) ha
        (hq.append (ErrorSink.unconnected_closing _ sink s true [answer]))

theorem Course.deeds {p : Standing} (h : Course b p t) (hd : Deeds sink p q u)
    (hc : p.site.context.state = .closed ↔ Disconnects t.log) :
    Course b q (t ++ u) ∧ (q.site.context.state = .closed ↔ Disconnects (t ++ u).log) := by
  induction hd generalizing t with
  | nil =>
    rw [Trail.append_empty]
    exact ⟨h, hc⟩
  | cons hd _ ih =>
    rw [← Trail.append_assoc]
    apply ih (h.deed hd hc)
    rw [hd.closed, hc, Trail.log_append, disconnects_append]

namespace Session

/-- What the trail of a life says of the connection. -/
structure Charted (s : Session σ) (H : History σ) : Prop where
  course : Course H.opened.barriers.length s.standing H.trail
  closed : s.context.state = .closed ↔ Disconnects H.trail.log
  created : ∀ device,
    H.recorded device .created = H.trail.connects.countP (·.text = device)

theorem Charted.deeds {s : Session σ} (h : Charted s H) {act : Act} {s' : Session σ}
    (hd : Deeds s.sink s.standing s'.standing (Step.mk act s s').trail) :
    Charted s' (H.add ⟨act, s, s'⟩) := by
  obtain ⟨hcourse, hclosed⟩ := h.course.deeds hd h.closed
  rw [← History.trail_add] at hcourse hclosed
  refine ⟨hcourse, hclosed, fun device => ?_⟩
  have hcount : s'.journal.statistics.count device .created = _ := hd.written.created device
  rw [History.recorded_add, Step.recorded, h.created, hcount, History.trail_add,
    Trail.connects_append, List.countP_append]
  exact congrArg _ (Nat.add_sub_cancel_left ..)

theorem charted_of_lives [Admission σ] {s : Session σ} (h : Lives s H) : Charted s H := by
  induction h with
  | accepted c bitmapMode t limiter sink journal =>
    refine ⟨.negotiating rfl Trail.quiet_empty rfl ?_, ?_, fun _ => rfl⟩
    · rintro ⟨⟩
    · exact iff_of_false (by rintro ⟨⟩) not_disconnects_nil
  | acts hl _ ha ih => exact ih.deeds ((accounted_of_lives hl).deeds ha)
  | elsewhere _ limiter journal ih =>
    refine ⟨?_, ih.closed, ih.created⟩
    have := ih.course.passes (Standing.passes_of_context _ (s := ⟨_, _, journal⟩)
      (Transport.Follows.refl _).continues rfl)
    rwa [Trail.append_empty] at this

end Session

end SwitchSession
