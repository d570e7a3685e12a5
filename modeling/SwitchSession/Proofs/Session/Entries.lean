import SwitchSession.Proofs.Session.Course
import SwitchSession.Proofs.Statistics.Ledger
import Mathlib.Data.Nat.Digits.Lemmas

namespace SwitchSession

/-- Different devices have different ids, down to the text. -/
@[simp] theorem NodeId.text_ofDatapath_inj {d d' : DatapathId} :
    (ofDatapath d).text = (ofDatapath d').text ↔ d = d' := by
  refine ⟨fun h => ?_, fun h => by rw [h]⟩
  have htext : d.toNat.repr = d'.toNat.repr := (String.append_right_inj scheme).1 h
  have hdigits : Nat.toDigits 10 d.toNat = Nat.toDigits 10 d'.toNat := by
    rw [← Nat.toList_repr, htext, Nat.toList_repr]
  apply UInt64.toNat_inj.1
  calc d.toNat = Nat.ofDigitChars 10 (Nat.toDigits 10 d.toNat) 0 :=
        Nat.ofDigitChars_ten_toDigits.symm
    _ = Nat.ofDigitChars 10 (Nat.toDigits 10 d'.toNat) 0 := by rw [hdigits]
    _ = d'.toNat := Nat.ofDigitChars_ten_toDigits

/-- The handler lets the device continue. -/
def letsContinue : HandlerAnswer → Bool
  | .ok .mayContinue => true
  | _ => false

theorem letsContinue_of_refusal {answer : HandlerAnswer} (h : refusal? answer = some reason) :
    letsContinue answer = false := by
  unfold letsContinue
  split
  · cases h
  · rfl

/-- What is counted for a device, as its handler lets it continue or not. -/
def verdictEvent (continues : Bool) : SessionEvent :=
  if continues then .created else .disconnectedByController

@[simp] theorem verdictEvent_true : verdictEvent true = .created := rfl

@[simp] theorem verdictEvent_false : verdictEvent false = .disconnectedByController := rfl

@[simp] theorem verdictEvent_inj {b b' : Bool} : verdictEvent b = verdictEvent b' ↔ b = b' := by
  cases b <;> cases b' <;> decide

@[simp] theorem verdictEvent_ne_handshakeFailed (b : Bool) :
    verdictEvent b ≠ .handshakeFailed := by
  cases b <;> decide

/-- What a connection enters that has come to this outcome, and to these answers of the handler. -/
def entered (outcome : Option Outcome) (remote : String) (answers : List HandlerAnswer) :
    List Entry :=
  match outcome with
  | none => []
  | some (.failure _) => [(remote, .handshakeFailed)]
  | some (.success _ features) =>
    answers.map fun answer =>
      ((NodeId.ofDatapath features.datapath).text, verdictEvent (letsContinue answer))

namespace Standing

def entered (p : Standing) (t : Trail) : List Entry :=
  SwitchSession.entered p.outcome p.site.transport.remote t.answers

/-- The connection has recorded just what its entries have grown by. -/
def Books (p q : Standing) (t u : Trail) : Prop :=
  ∃ entries, q.entered (t ++ u) = p.entered t ++ entries ∧
    q.site.journal.statistics = p.site.journal.statistics.recordAll entries

theorem Books.of_nothing {p q : Standing} (ho : q.outcome = p.outcome)
    (hr : q.site.transport.remote = p.site.transport.remote) (ha : u.answers = [])
    (hs : q.site.journal.statistics = p.site.journal.statistics) : Books p q t u := by
  refine ⟨[], ?_, hs⟩
  rw [entered, entered, ho, hr, Trail.answers_append, ha, List.append_nil, List.append_nil]

theorem Books.trans {p q r : Standing} (h : Books p q t u) (h' : Books q r (t ++ u) w) :
    Books p r t (u ++ w) := by
  obtain ⟨entries, he, hs⟩ := h
  obtain ⟨more, he', hs'⟩ := h'
  refine ⟨entries ++ more, ?_, ?_⟩
  · rw [← Trail.append_assoc, he', he, List.append_assoc]
  · rw [hs', hs, Statistics.recordAll_append]

theorem Books.of_answer {s s' : Site} {features : FeatureSet} (ht : t.answers = [])
    (hu : u.answers = [answer])
    (hs : s'.journal.statistics = s.journal.statistics.record
      (NodeId.ofDatapath features.datapath).text (verdictEvent (letsContinue answer))) :
    Books ⟨some (.success version features), stage, s⟩
      ⟨some (.success version features), stage', s'⟩ t u := by
  let entry : Entry :=
    ((NodeId.ofDatapath features.datapath).text, verdictEvent (letsContinue answer))
  refine ⟨[entry], ?_, hs⟩
  simp only [entered, SwitchSession.entered, Trail.answers_append, ht, hu]
  rfl

end Standing

/-- What the handler answers is counted for the device. -/
theorem HandOver.statistics_judge (node : NodeId) (answer : HandlerAnswer) (sink : ErrorSink)
    (s : Site) : (judge node answer sink s).journal.statistics =
      s.journal.statistics.record node.text (verdictEvent (letsContinue answer)) := by
  by_cases ha : answer = .ok .mayContinue
  · rw [ha, judge_mayContinue]
    rfl
  · obtain ⟨reason, hr, hj⟩ := exists_judge_eq ha node sink s
    rw [hj, letsContinue_of_refusal hr]
    exact congrArg (·.record node.text .disconnectedByController)
      (s.journal.statistics_report _ sink)

theorem Course.books {p : Standing} (h : Course b p t) (hd : Deed sink p q u) :
    p.Books q t u := by
  cases hd with
  | waits ht => exact .of_nothing rfl ht.remote rfl rfl
  | @closes _ _ s propagate =>
    exact .of_nothing rfl (s.follows_close propagate).transport.remote rfl rfl
  | @fails s error =>
    let s₁ : Site := { s with journal := s.journal.report error sink }
    refine ⟨[(s.transport.remote, .handshakeFailed)], ?_, ?_⟩
    · change [((HandOver.abandon s₁).transport.remote, SessionEvent.handshakeFailed)] = _
      rw [(HandOver.follows_abandon s₁).transport.remote]
      rfl
    · change (s₁.journal.statistics.record _ _) = _
      rw [s.journal.statistics_report error sink]
      rfl
  | succeeds =>
    cases h with
    | negotiating hb hq =>
      refine ⟨[], ?_, rfl⟩
      rw [Standing.entered, entered, Trail.answers_append, hq.answers]
      rfl
  | rejected => exact .of_nothing rfl (Site.follows_close _ false).transport.remote rfl rfl
  | visits => exact .of_nothing rfl rfl rfl rfl
  | late => exact .of_nothing rfl rfl rfl rfl
  | accepts =>
    cases h with
    | handling _ _ hq => exact .of_answer hq.answers rfl (HandOver.statistics_judge ..)
  | @refuses answer _ _ _ _ ha =>
    cases h with
    | handling _ _ hq =>
      refine .of_answer hq.answers ?_ (HandOver.statistics_judge ..)
      cases sink <;> rfl

theorem Course.deeds_books {p : Standing} (h : Course b p t) (hd : Deeds sink p q u)
    (hc : p.site.context.state = .closed ↔ Disconnects t.log) : p.Books q t u := by
  induction hd generalizing t with
  | nil => exact .of_nothing rfl rfl rfl rfl
  | cons hd _ ih =>
    refine (h.books hd).trans (ih (h.deed hd hc) ?_)
    rw [hd.closed, hc, Trail.log_append, disconnects_append]

namespace Session

def entered (s : Session σ) (H : History σ) : List Entry := s.standing.entered H.trail

variable [Admission σ]

/-- An act adds to the entries what it records. -/
theorem Lives.books {s : Session σ} (hl : Lives s H) {act : Act} (ha : s.act? act = some s') :
    ∃ entries, s'.entered (H.add ⟨act, s, s'⟩) = s.entered H ++ entries ∧
      s'.journal.statistics = s.journal.statistics.recordAll entries := by
  have hchart := charted_of_lives hl
  have hb := hchart.course.deeds_books ((accounted_of_lives hl).deeds ha) hchart.closed
  rw [Standing.Books, ← History.trail_add] at hb
  exact hb

/-- The entries of a connection are what it has recorded itself. -/
theorem recorded_of_lives {s : Session σ} (hl : Lives s H) (device : String)
    (event : SessionEvent) : H.recorded device event = (s.entered H).count (device, event) := by
  induction hl with
  | accepted => rfl
  | @acts s H s' hl act ha ih =>
    obtain ⟨entries, he, hs⟩ := hl.books ha
    rw [History.recorded_add, ih, Step.recorded, hs, Statistics.count_recordAll,
      Nat.add_sub_cancel_left, he, List.count_append]
  | elsewhere _ _ _ ih => exact ih

omit [Admission σ] in
theorem Accounted.not_running {s : Session σ} (h : Accounted s H) (hh : s.handOver = some stage) :
    s.handshake.engine.progress ≠ .running := by
  intro hp
  have hstands := h.stands
  rw [h.regular.sound.running.1 hp] at hstands
  rw [hstands.handOver] at hh
  cases hh

/-- A connection that is through with its hand-over has an engine that has ended. -/
def Paced (s : Session σ) : Prop :=
  s.handOver = some .finished → s.handshake.engine.progress = .finished

omit [Admission σ] in
theorem paced_withHandOver {s : Session σ} (hp : s.handshake.engine.progress ≠ .running)
    (stage : HandOver) (site : Site) : ((s.withSite site).withHandOver stage).Paced := by
  intro hh
  rw [handOver_withHandOver] at hh
  cases hh
  exact Engine.progress_acknowledge hp

omit [Admission σ] in
/-- The engine goes on, and what it tells is heeded at once. -/
theorem Paced.advances {s : Session σ} (h : s.Paced) (hs : s.handshake.engine.Sound)
    {g : Handshake σ} (ha : s.handshake.Advances g ns) :
    ({ s with handshake := g }.heedAll ns).Paced := by
  rcases ha.quiet_or_ends hs with ⟨rfl, -⟩ | ⟨-, outcome, hg, rfl⟩
  · intro hh
    have hp := h hh
    rw [← hp]
    exact ha.progress (by rw [hp]; decide)
  · have hp := ha.sound.not_running hg
    cases outcome with
    | failure error =>
      let s₁ : Session σ :=
        { s with handshake := g, journal := s.journal.report error s.sink }
      exact paced_withHandOver (s := s₁) hp .finished (HandOver.abandon s₁.site)
    | success version features =>
      let s₁ : Session σ := { s with handshake := g }
      let start := HandOver.start features version s₁.site
      exact paced_withHandOver (s := s₁) hp start.1 start.2

theorem Paced.act {s : Session σ} (h : s.Paced) (hacc : Accounted s H) {act : Act}
    (ha : s.act? act = some s') : s'.Paced := by
  have hs := hacc.regular.sound
  cases act with
  | move move =>
    cases move with
    | handshake move =>
      obtain ⟨hm, g, ns, hg, rfl⟩ := move?_handshake_eq_some ha
      exact h.advances hs (Handshake.move?_advances hg hm hs)
    | close propagate =>
      cases ha
      exact h
    | resume =>
      obtain ⟨stage, next, site, hh, -, rfl⟩ := stepHandOver_eq_some ha
      exact paced_withHandOver (hacc.not_running hh) next site
    | answer a =>
      obtain ⟨stage, next, site, hh, -, rfl⟩ := stepHandOver_eq_some ha
      exact paced_withHandOver (hacc.not_running hh) next site
  | respond response =>
    cases ha
    exact h.advances hs ((s.handshake.keeps_respond response).advances hs)
  | work =>
    cases ha
    exact h.advances hs (s.handshake.works_run.advances hs)
  | attend handler =>
    cases ha
    cases hh : s.handOver with
    | none =>
      rw [advanceHandOver_of_none hh]
      exact h
    | some stage =>
      rw [advanceHandOver_of_some hh]
      exact paced_withHandOver (hacc.not_running hh) _ _

theorem paced_of_lives {s : Session σ} (h : Lives s H) : s.Paced := by
  induction h with
  | accepted => rintro ⟨⟩
  | acts hl _ ha ih => exact ih.act (accounted_of_lives hl) ha
  | elsewhere _ _ _ ih => exact ih

end Session

def Outcome.isFailure : Outcome → Bool
  | .failure _ => true
  | .success .. => false

def Outcome.device? : Outcome → Option DatapathId
  | .failure _ => none
  | .success _ features => some features.datapath

namespace Engine

/-- Its handshake has ended in a failure. -/
def hasFailed (e : Engine) : Bool := e.outcome?.any Outcome.isFailure

/-- The device with which its handshake has ended in a success. -/
def device? (e : Engine) : Option DatapathId := e.outcome?.bind Outcome.device?

end Engine

/-- One connection and its entries: nothing, its failure, or the one answer of the handler. -/
inductive Accounts (e : Engine) (remote : String) (answers : List HandlerAnswer) :
    List Entry → Prop
  | nothing (hf : e.hasFailed = false) (ha : e.device? = none ∨ answers = []) :
      Accounts e remote answers []
  | failed (hf : e.hasFailed = true) (hd : e.device? = none) :
      Accounts e remote answers [(remote, .handshakeFailed)]
  | answered (hf : e.hasFailed = false) (hd : e.device? = some d) (ha : answers = [answer]) :
      Accounts e remote answers [((NodeId.ofDatapath d).text, verdictEvent (letsContinue answer))]

theorem Accounts.of_none {e : Engine} (h : e.machine.outcome = none) (remote : String)
    (answers : List HandlerAnswer) : Accounts e remote answers [] := by
  have ho : e.outcome? = none := by
    unfold Engine.outcome?
    split
    · exact h
    · rfl
  exact .nothing (by rw [Engine.hasFailed, ho]; rfl) (.inl (by rw [Engine.device?, ho]; rfl))

theorem Accounts.of_success {e : Engine} (h : e.machine.outcome = some (.success version features))
    (remote : String) : Accounts e remote [] [] := by
  refine .nothing ?_ (.inr rfl)
  rw [Engine.hasFailed, Engine.outcome?]
  split
  · rw [h]
    rfl
  · rfl

theorem Accounts.of_answer {e : Engine} (h : e.outcome? = some (.success version features))
    (remote : String) (answer : HandlerAnswer) :
    Accounts e remote [answer]
      [((NodeId.ofDatapath features.datapath).text, verdictEvent (letsContinue answer))] :=
  .answered (by rw [Engine.hasFailed, h]; rfl) (by rw [Engine.device?, h]; rfl) rfl

namespace Session

variable [Admission σ]

theorem accounts_of_lives {s : Session σ} (hl : Lives s H) :
    Accounts s.handshake.engine s.handshake.transport.remote H.trail.answers (s.entered H) := by
  have hcourse := (charted_of_lives hl).course
  have hends {outcome : Outcome} (ho : s.handshake.engine.machine.outcome = some outcome)
      (hh : s.handOver = some .finished) : s.handshake.engine.outcome? = some outcome := by
    rw [Engine.outcome?, paced_of_lives hl hh]
    exact ho
  rw [entered, Standing.entered]
  generalize hp : s.standing = p at hcourse ⊢
  have ho : s.handshake.engine.machine.outcome = p.outcome := congrArg Standing.outcome hp
  have hh : s.handOver = p.handOver := congrArg Standing.handOver hp
  have hr : s.handshake.transport.remote = p.site.transport.remote :=
    congrArg (·.site.transport.remote) hp
  rw [← hr]
  cases hcourse with
  | negotiating => exact .of_none ho _ _
  | failed hs hr =>
    have he := hends ho hh
    exact .failed (by rw [Engine.hasFailed, he]; rfl) (by rw [Engine.device?, he]; rfl)
  | flushing _ hq =>
    rw [hq.answers]
    exact .of_success ho _
  | handling _ _ hq =>
    rw [hq.answers]
    exact .of_success ho _
  | dropped _ hq =>
    rw [hq.answers]
    exact .of_success ho _
  | accepted _ ht =>
    obtain ⟨-, -, -, -, -, -, ha, -⟩ := ht
    rw [ha]
    exact .of_answer (hends ho hh) _ _
  | refused _ _ _ hr =>
    rw [hr.answers]
    exact .of_answer (hends ho hh) _ _

end Session

end SwitchSession
