import SwitchSession.Proofs.Engine.Provenance
import SwitchSession.Proofs.Session.Course
import SwitchSession.Proofs.Session.Service

namespace SwitchSession

namespace Session

/-- What the connection was told by the peer and by those who hold its handle. -/
def Step.signal? (x : Step σ) : Option Signal :=
  match x.act with
  | .move (.handshake move) => move.signal?
  | _ => none

def History.told (H : History σ) : List Signal := H.steps.filterMap Step.signal?

theorem History.told_add (H : History σ) (x : Step σ) :
    (H.add x).told = H.told ++ x.signal?.toList := by
  cases hx : x.signal? <;> simp [told, add, hx]

/-- A connection whose engine has ended is through with its hand-over, and all that its engine has
taken in has an origin. -/
structure Founded (s : Session σ) (told : List Signal) : Prop where
  backed : s.handshake.Backed told
  paced : s.handshake.engine.progress = .finished → s.handOver = some .finished

theorem founded_withHandOver {s : Session σ} (hb : s.handshake.Backed told) {site : Site}
    (ht : s.handshake.transport.Retains site.transport) {stage : HandOver}
    (hp : s.handshake.engine.progress = .finished → stage = .finished) :
    ((s.withSite site).withHandOver stage).Founded told := by
  have hsite : (s.withSite site).handshake.Backed told :=
    hb.rests ⟨ht, List.Subset.refl _, id⟩ rfl rfl rfl
  unfold withHandOver
  split
  · next hf =>
    refine ⟨hsite.acknowledge, fun _ => ?_⟩
    cases stage with
    | finished => rfl
    | _ => cases hf
  · exact ⟨hsite, fun h => congrArg some (hp h)⟩

/-- The engine goes on, and what it tells is heeded at once. -/
theorem Founded.advances {s : Session σ} (h : s.Founded told) (hs : s.handshake.engine.Sound)
    {g : Handshake σ} (ha : s.handshake.Advances g ns) (hb : g.Backed told')
    (hp : g.engine.progress = .finished → s.handshake.engine.progress = .finished) :
    ({ s with handshake := g }.heedAll ns).Founded told' := by
  rcases ha.quiet_or_ends hs with ⟨rfl, -⟩ | ⟨ho, outcome, -, rfl⟩
  · exact ⟨hb, h.paced ∘ hp⟩
  · have hg : g.engine.progress ≠ .finished := fun hf => by
      rw [hs.running.2 ho] at hp
      cases hp hf
    cases outcome with
    | failure error =>
      let s₁ : Session σ :=
        { s with handshake := g, journal := s.journal.report error s.sink }
      exact founded_withHandOver (s := s₁) hb (HandOver.retains_abandon s₁.site) fun _ => rfl
    | success version features =>
      let s₁ : Session σ := { s with handshake := g }
      let start := HandOver.start features version s₁.site
      have hstart : ((s₁.withSite start.2).withHandOver start.1).Founded told' :=
        founded_withHandOver hb (HandOver.retains_start features version s₁.site)
          fun hf => absurd hf hg
      exact hstart

/-- A step of the hand-over, which leaves a finished one finished. -/
theorem Founded.serves {s : Session σ} (h : s.Founded told) (hh : s.handOver = some stage)
    {site : Site} (ht : s.handshake.transport.Retains site.transport) {next : HandOver}
    (hf : stage = .finished → next = .finished) :
    ((s.withSite site).withHandOver next).Founded told :=
  founded_withHandOver h.backed ht fun hp => hf (Option.some.inj (hh.symm.trans (h.paced hp)))

variable [Admission σ]

omit [Admission σ] in
theorem Founded.untold {s : Session σ} (h : s.Founded told) {x : Step σ} (hx : x.signal? = none) :
    s.Founded (told ++ x.signal?.toList) := by
  rw [hx, Option.toList_none, List.append_nil]
  exact h

theorem Founded.act {s : Session σ} (h : s.Founded told) (hs : s.handshake.engine.Sound)
    {act : Act} (ha : s.act? act = some s') :
    s'.Founded (told ++ (Step.mk act s s').signal?.toList) := by
  cases act with
  | move move =>
    cases move with
    | handshake move =>
      obtain ⟨hm, g, ns, hg, rfl⟩ := move?_handshake_eq_some ha
      exact h.advances hs (Handshake.move?_advances hg hm hs) (h.backed.move hs hg)
        (Handshake.move?_progress hg hm)
    | close propagate =>
      cases ha
      refine Founded.untold ?_ rfl
      refine ⟨h.backed.rests ⟨?_, List.Subset.refl _, id⟩ rfl rfl rfl, h.paced⟩
      exact HandOver.retains_close s.site propagate
    | resume =>
      obtain ⟨stage, next, site, hh, hr, rfl⟩ := stepHandOver_eq_some ha
      have hr := HandOver.resume?_resumes hr
      refine (h.serves hh hr.retains fun hf => ?_).untold rfl
      subst hf
      cases hr
    | answer a =>
      obtain ⟨stage, next, site, hh, hr, rfl⟩ := stepHandOver_eq_some ha
      obtain ⟨node, rfl, rfl, rfl⟩ := HandOver.answer?_eq_some hr
      exact (h.serves hh (HandOver.retains_judge node a s.sink s.site) fun _ => rfl).untold rfl
  | respond response =>
    cases ha
    have hk := s.handshake.keeps_respond response
    exact (h.advances hs (hk.advances hs) (h.backed.respond response) id).untold rfl
  | work =>
    cases ha
    have hw := s.handshake.works_run
    exact (h.advances hs (hw.advances hs) (h.backed.works hs hw) hw.progress).untold rfl
  | attend handler =>
    cases ha
    refine Founded.untold ?_ rfl
    cases hh : s.handOver with
    | none =>
      rw [advanceHandOver_of_none hh]
      exact h
    | some stage =>
      rw [advanceHandOver_of_some hh]
      exact h.serves hh (HandOver.retains_advance handler s.sink stage s.site)
        (by rintro rfl; rfl)

theorem founded_of_lives {s : Session σ} (h : Lives s H) : s.Founded H.told := by
  induction h with
  | accepted c bitmapMode t limiter sink journal =>
    have hfresh : Handshake.Backed (Handshake.fresh c bitmapMode t limiter) [] :=
      ⟨by rintro _ ⟨⟩, by rintro _ ⟨⟩, by rintro _ ⟨⟩⟩
    refine ⟨hfresh.post fun e he => ?_, by rintro ⟨⟩⟩
    rw [List.mem_singleton.1 he]
    trivial
  | acts hl _ ha ih =>
    rw [History.told_add]
    exact ih.act (accounted_of_lives hl).regular.sound ha
  | elsewhere _ limiter journal ih =>
    exact ⟨ih.backed.rests (.refl _) rfl rfl rfl, ih.paced⟩

end Session

theorem Course.of_failure {p : Standing} (h : Course b p t)
    (ho : p.outcome = some (.failure error)) :
    p.site.context.state = .closed ∧ t.reports = [error] := by
  cases h with
  | failed hs hr =>
    cases ho
    exact ⟨hs, hr.reports⟩
  | _ => cases ho

/-- After a success the reports are those of refused devices. -/
theorem Course.of_success {p : Standing} (h : Course b p t)
    (ho : p.outcome = some (.success version features)) (hh : p.handOver = some .finished) :
    (p.site.context.state ≠ .closed → t.reports = []) ∧
      (t.closes = [] → p.site.context.state = .closed →
        (∃ cause, p.site.transport.barrierReply? b = some (.error cause)) ∧ t.reports = [] ∨
        p.site.transport.barrierReply? b = some (.ok ()) ∧ ∃ answer reason, t.answers = [answer] ∧
          refusal? answer = some reason ∧ t.reports =
            [.deviceRefused (NodeId.ofDatapath features.datapath).text reason]) := by
  cases h with
  | negotiating => cases ho
  | failed => cases ho
  | flushing => cases hh
  | handling => cases hh
  | dropped hs hq hi hr =>
    refine ⟨fun hn => absurd hs hn, fun hc _ => .inl ⟨?_, hq.reports⟩⟩
    exact hr.resolve_right fun h => h.2 hc
  | accepted hb ht hc =>
    obtain ⟨-, -, -, -, -, -, -, hr⟩ := ht
    exact ⟨fun _ => hr, fun hn hs => absurd hn (hc hs)⟩
  | refused hs hb ha hr =>
    cases ho
    exact ⟨fun hn => absurd hs hn,
      fun _ _ => .inr ⟨hb, _, _, hr.answers, ha, hr.reports⟩⟩

namespace Service

variable [Admission σ]

/-- However the acts of all connections are interleaved: when a handshake has failed, its connection
is closed, and one error was reported, which names what went wrong. When one has succeeded and
nobody else closes the connection, then at the end of its hand-over nothing was reported if it is
open; if it is closed, either its handler refused the device, which was reported once with the
reason, or its barrier failed, and nothing was reported. -/
theorem reported_once_unless_barrier_fails (a : Acceptor σ) (schedule : List (Occurrence σ))
    (i : Nat) (c : Connection)
    (hc : ((opened a).play schedule).acceptor.connections[i]? = some c) :
    ∃ H, ((opened a).play schedule).histories[i]? = some H ∧
      (∀ error, c.engine.outcome? = some (.failure error) →
        c.context.state = .closed ∧ H.trail.reports = [error] ∧
        error.Explained ⟨c.transport, H.told, c.engine.handles⟩ c.engine.machine) ∧
      (∀ version features, c.engine.outcome? = some (.success version features) →
        let barrier := c.transport.barrierReply? H.opened.barriers.length
        (c.context.state ≠ .closed → H.trail.reports = []) ∧
        (H.trail.closes = [] → c.context.state = .closed →
          (∃ cause, barrier = some (.error cause)) ∧ H.trail.reports = [] ∨
          barrier = some (.ok ()) ∧ ∃ answer reason, H.trail.answers = [answer] ∧
            refusal? answer = some reason ∧ H.trail.reports =
              [.deviceRefused (NodeId.ofDatapath features.datapath).text reason])) := by
  obtain ⟨H, hH, hl⟩ := exists_lives a schedule hc
  have hf := Session.founded_of_lives hl
  have hcourse := (Session.charted_of_lives hl).course
  refine ⟨H, hH, fun error ho => ?_, fun version features ho => ?_⟩
  · have ho := Engine.outcome_of_outcome? ho
    obtain ⟨hs, hr⟩ := hcourse.of_failure ho
    exact ⟨hs, hr, hf.backed.failure error ho⟩
  · exact hcourse.of_success (Engine.outcome_of_outcome? ho)
      (hf.paced (Engine.finished_of_outcome? ho))

/-- A connection whose device does not answer the barrier. -/
def unflushed : List (Occurrence Limiter) :=
  [.accept { remote := "10.0.0.9:6653", barrierPlan := .immediate (.error (.channel "reset")) },
    .act 0 .work, .act 0 (.move (.handshake (.tell (.hello ⟨4, 1, []⟩)))), .act 0 .work,
    .act 0 (.attend {})]

theorem reported_once_unless_barrier_fails_unflushed :
    ∃ c, ((opened station).play unflushed).acceptor.connections[0]? = some c ∧
      c.engine.outcome? = some (.success 4 { datapath := 1 }) ∧ c.context.state = .closed ∧
      c.transport.barrierReply? 0 = some (.error (.channel "reset")) ∧
      ∃ H, ((opened station).play unflushed).histories[0]? = some H ∧ H.trail.closes = [] ∧
        H.trail.reports = [] := by
  obtain ⟨H, hH, -, hs⟩ := reported_once_unless_barrier_fails station unflushed 0 _ rfl
  have hcloses : H.trail.closes = [] := by
    cases hH
    rfl
  have hbarriers : H.opened.barriers.length = 0 := by
    cases hH
    rfl
  refine ⟨_, rfl, rfl, rfl, rfl, H, hH, hcloses, ?_⟩
  obtain ⟨-, hr⟩ := hs 4 { datapath := 1 } rfl
  rcases hr hcloses rfl with ⟨-, hr⟩ | ⟨hb, -⟩
  · exact hr
  · rw [hbarriers] at hb
    cases hb

end Service

end SwitchSession
