import SwitchSession.Proofs.Engine.Advance
import SwitchSession.Proofs.HandOver.Closing
import SwitchSession.Proofs.Session.History

namespace SwitchSession

namespace Session

@[simp] theorem handOver_withHandOver (s : Session σ) (stage : HandOver) :
    (s.withHandOver stage).handOver = some stage := by
  unfold withHandOver
  split <;> rfl

@[simp] theorem site_withHandOver (s : Session σ) (stage : HandOver) :
    (s.withHandOver stage).site = s.site := by
  unfold withHandOver
  split <;> rfl

theorem idles_withHandOver (s : Session σ) (stage : HandOver) :
    s.handshake.Idles (s.withHandOver stage).handshake := by
  unfold withHandOver
  split
  · exact s.handshake.idles_acknowledge
  · exact ⟨rfl, rfl, .inl rfl, .refl _⟩

/-- A connection whose handshake has no outcome yet has stored and left behind nothing. -/
structure Negotiating (s : Session σ) (H : History σ) : Prop where
  handOver : s.handOver = none
  barriers : s.handshake.transport.traffic.barriers = H.opened.traffic.barriers
  features : s.context.features = none
  node : s.context.node = none
  closed : s.context.state = .closed ↔ H.closes ≠ []
  closedWith : s.context.closedWith = H.closes.head?
  recorded : ∀ device event, H.recorded device event = 0
  visits : H.visits = []

structure Failed (s : Session σ) (H : History σ) : Prop where
  handOver : s.handOver = some .finished
  progress : s.handshake.engine.progress = .finished
  barriers : s.handshake.transport.traffic.barriers = H.opened.traffic.barriers
  features : s.context.features = none
  node : s.context.node = none
  closed : s.context.state = .closed
  closedWith : s.context.closedWith = some (H.closes.headD false)
  recorded : ∀ device event, H.recorded device event =
    if device = H.opened.remote ∧ event = .handshakeFailed then 1 else 0
  visits : H.visits = []

structure Succeeded (version : Version) (s : Session σ) (H : History σ) : Prop where
  handOver : ∃ stage, s.handOver = some stage
  barriers : s.handshake.transport.traffic.barriers =
    H.opened.traffic.barriers ++ [⟨version, 0⟩]
  recorded : ∀ device, H.recorded device .handshakeFailed = 0

def Stands (s : Session σ) (H : History σ) : Option Outcome → Prop
  | none => Negotiating s H
  | some (.failure _) => Failed s H
  | some (.success version _) => Succeeded version s H

structure Regular (s : Session σ) (remote : String) : Prop where
  sound : s.handshake.engine.Sound
  remote : s.handshake.transport.remote = remote
  cut : s.site.Cut

structure Accounted (s : Session σ) (H : History σ) : Prop where
  regular : s.Regular H.opened.remote
  stands : Stands s H s.handshake.engine.machine.outcome

theorem Regular.advances {s : Session σ} (h : s.Regular r) (ha : s.handshake.Advances g ns) :
    { s with handshake := g }.Regular r where
  sound := ha.sound
  remote := ha.transport.remote.trans h.remote
  cut := ha.transport.disconnected ∘ h.cut

theorem Regular.withHandOver {s : Session σ} (h : s.Regular r) (stage : HandOver) {site : Site}
    (hr : site.transport.remote = r) (hc : site.Cut) :
    ((s.withSite site).withHandOver stage).Regular r where
  sound := ((s.withSite site).idles_withHandOver stage).sound h.sound
  remote := ((s.withSite site).idles_withHandOver stage).transport.remote.trans hr
  cut := by
    rw [site_withHandOver]
    exact hc

theorem machine_withHandOver (s : Session σ) (stage : HandOver) (site : Site) :
    ((s.withSite site).withHandOver stage).handshake.engine.machine = s.handshake.engine.machine :=
  ((s.withSite site).idles_withHandOver stage).machine

/-- What the account of a connection depends on. -/
structure Same (s s' : Session σ) : Prop where
  handOver : s'.handOver = s.handOver
  progress : s.handshake.engine.progress = .finished → s'.handshake.engine.progress = .finished
  barriers : s'.handshake.transport.traffic.barriers = s.handshake.transport.traffic.barriers
  context : s'.context = s.context

theorem Stands.same {s : Session σ} (h : Stands s H o) (hs : s.Same s') : Stands s' H o := by
  cases o with
  | none =>
    exact ⟨hs.handOver.trans h.handOver, hs.barriers.trans h.barriers, hs.context ▸ h.features,
      hs.context ▸ h.node, hs.context ▸ h.closed, hs.context ▸ h.closedWith, h.recorded, h.visits⟩
  | some outcome =>
    cases outcome with
    | failure =>
      exact ⟨hs.handOver.trans h.handOver, hs.progress h.progress, hs.barriers.trans h.barriers,
        hs.context ▸ h.features, hs.context ▸ h.node, hs.context ▸ h.closed,
        hs.context ▸ h.closedWith, h.recorded, h.visits⟩
    | success => exact ⟨hs.handOver ▸ h.handOver, hs.barriers.trans h.barriers, h.recorded⟩

/-- An act that writes nothing and closes nothing does not change the account. -/
theorem Stands.add {s : Session σ} (h : Stands s H o) {x : Step σ}
    (hj : x.after.journal = x.before.journal) (hx : x.close? = none) : Stands s (H.add x) o := by
  have hr (device : String) (event : SessionEvent) :
      (H.add x).recorded device event = H.recorded device event := by
    simp [Step.recorded, hj]
  have hv : (H.add x).visits = H.visits := by simp [Step.visits, hj]
  have hc : (H.add x).closes = H.closes := by simp [hx]
  cases o with
  | none =>
    exact ⟨h.handOver, h.barriers, h.features, h.node, hc ▸ h.closed, hc ▸ h.closedWith,
      fun device event => (hr device event).trans (h.recorded device event), hv.trans h.visits⟩
  | some outcome =>
    cases outcome with
    | failure =>
      exact ⟨h.handOver, h.progress, h.barriers, h.features, h.node, h.closed, hc ▸ h.closedWith,
        fun device event => (hr device event).trans (h.recorded device event), hv.trans h.visits⟩
    | success =>
      exact ⟨h.handOver, h.barriers, fun device => (hr device _).trans (h.recorded device)⟩

/-- The flag of the first close stays, whoever closes next. -/
theorem Negotiating.closedWith_close {s : Session σ} (h : Negotiating s H) (site : Site)
    (hs : site.context = s.context) (propagate : Bool) :
    (site.close propagate).context.closedWith = some (H.closes.headD propagate) := by
  rw [Site.closedWith_close, hs]
  cases hc : H.closes with
  | nil =>
    rw [if_neg fun hs => h.closed.1 hs hc]
    rfl
  | cons first rest =>
    rw [if_pos (h.closed.2 (hc ▸ List.cons_ne_nil first rest)), h.closedWith, hc]
    rfl

/-- The handshake has just failed. -/
theorem Negotiating.fails {s : Session σ} (h : Negotiating s H) {g : Handshake σ}
    (ht : s.handshake.transport.Continues g.transport) (hp : g.engine.progress ≠ .running)
    (hremote : s.handshake.transport.remote = H.opened.remote) (error : HandshakeError)
    {act : Act} {s' : Session σ}
    (hs' : s' = { s with handshake := g }.heedAll [.error error, .failure])
    (hx : (Step.mk act s s').close? = none) : Failed s' (H.add ⟨act, s, s'⟩) := by
  let s₁ : Session σ :=
    { s with handshake := g, journal := s.journal.report error s.sink }
  have he : s' = (s₁.withSite (HandOver.abandon s₁.site)).withHandOver .finished := hs'
  have hsite : s'.site = HandOver.abandon s₁.site := by rw [he, site_withHandOver]; rfl
  have hcontext : s'.context = (HandOver.abandon s₁.site).context := congrArg Site.context hsite
  have htransport : s'.handshake.transport = (HandOver.abandon s₁.site).transport :=
    congrArg Site.transport hsite
  have hjournal : s'.journal = (HandOver.abandon s₁.site).journal := congrArg Site.journal hsite
  have hstatistics : s'.journal.statistics =
      s.journal.statistics.record H.opened.remote .handshakeFailed := by
    rw [hjournal, ← hremote, ← ht.remote, ← s.journal.statistics_report error s.sink]
    rfl
  have hf := HandOver.follows_abandon s₁.site
  refine ⟨by rw [he, handOver_withHandOver], ?_, ?_, ?_, ?_, ?_, ?_, fun device event => ?_, ?_⟩
  · rw [he]
    exact Engine.progress_acknowledge hp
  · rw [htransport, hf.transport.continues.barriers]
    exact ht.barriers.trans h.barriers
  · rw [hcontext, hf.features]
    exact h.features
  · rw [hcontext, hf.node]
    exact h.node
  · rw [hcontext]
    exact Site.state_close _ false
  · have hcloses : (H.add ⟨act, s, s'⟩).closes = H.closes := by simp [hx]
    rw [hcontext, hcloses]
    exact h.closedWith_close _ rfl false
  · rw [History.recorded_add, h.recorded, Step.recorded, hstatistics, Statistics.count_record,
      Nat.zero_add, Nat.add_sub_cancel_left]
    rfl
  · have : s'.journal.visits = s.journal.visits := by
      rw [hjournal]
      exact hf.visits.trans (s.journal.visits_report error s.sink)
    simp [Step.visits, this, h.visits]

theorem Negotiating.succeeds {s : Session σ} (h : Negotiating s H) {g : Handshake σ}
    (ht : s.handshake.transport.Continues g.transport) (features : FeatureSet) (version : Version)
    {act : Act} {s' : Session σ}
    (hs' : s' = { s with handshake := g }.heedAll [.success features version]) :
    Succeeded version s' (H.add ⟨act, s, s'⟩) := by
  let s₁ : Session σ := { s with handshake := g }
  let stage := (HandOver.start features version s₁.site).1
  let site := (HandOver.start features version s₁.site).2
  have he : s' = (s₁.withSite site).withHandOver stage := hs'
  have hsite : s'.site = site := by rw [he, site_withHandOver]; rfl
  refine ⟨⟨stage, by rw [he, handOver_withHandOver]⟩, ?_, fun device => ?_⟩
  · have : s'.handshake.transport = site.transport := congrArg Site.transport hsite
    rw [this, HandOver.barriers_start, History.opened_add, ← h.barriers, ← ht.barriers]
    rfl
  · have : s'.journal.statistics = s.journal.statistics :=
      congrArg (·.journal.statistics) hsite
    simp [Step.recorded, this, h.recorded]

/-- Without a notice the account stays as it is. -/
theorem Accounted.quiet {s : Session σ} (h : Accounted s H) {g : Handshake σ}
    (ha : s.handshake.Advances g [])
    (ho : g.engine.machine.outcome = s.handshake.engine.machine.outcome)
    (hp : s.handshake.engine.progress = .finished → g.engine.progress = .finished) {act : Act}
    (hx : (Step.mk act s { s with handshake := g }).close? = none) :
    Accounted { s with handshake := g } (H.add ⟨act, s, { s with handshake := g }⟩) := by
  have hsame : s.Same { s with handshake := g } := ⟨rfl, hp, ha.transport.barriers, rfl⟩
  exact ⟨h.regular.advances ha, (ho ▸ h.stands.same hsame).add rfl hx⟩

theorem Accounted.fails {s : Session σ} (h : Accounted s H) (hn : Negotiating s H)
    {g : Handshake σ} (ha : s.handshake.Advances g [.error error, .failure])
    (hg : g.engine.machine.outcome = some (.failure error)) {act : Act} {s' : Session σ}
    (hs' : s' = { s with handshake := g }.heedAll [.error error, .failure])
    (hx : (Step.mk act s s').close? = none) : Accounted s' (H.add ⟨act, s, s'⟩) := by
  let s₁ : Session σ :=
    { s with handshake := g, journal := s.journal.report error s.sink }
  have hr : s₁.Regular H.opened.remote :=
    ⟨ha.sound, (h.regular.advances ha).remote, (h.regular.advances ha).cut⟩
  have hsite := HandOver.follows_abandon s₁.site
  have hm : s'.handshake.engine.machine = g.engine.machine :=
    hs' ▸ machine_withHandOver s₁ .finished _
  refine ⟨hs' ▸ hr.withHandOver .finished (hsite.transport.remote.trans hr.remote)
    (HandOver.cut_abandon hr.cut), ?_⟩
  rw [hm, hg]
  exact hn.fails ha.transport (ha.sound.not_running hg) h.regular.remote error hs' hx

theorem Accounted.succeeds {s : Session σ} (h : Accounted s H) (hn : Negotiating s H)
    {g : Handshake σ} (ha : s.handshake.Advances g [.success features version])
    (hg : g.engine.machine.outcome = some (.success version features)) {act : Act}
    {s' : Session σ} (hs' : s' = { s with handshake := g }.heedAll [.success features version]) :
    Accounted s' (H.add ⟨act, s, s'⟩) := by
  let s₁ : Session σ := { s with handshake := g }
  let stage := (HandOver.start features version s₁.site).1
  have hr : s₁.Regular H.opened.remote := h.regular.advances ha
  have hm : s'.handshake.engine.machine = g.engine.machine :=
    hs' ▸ machine_withHandOver s₁ stage _
  refine ⟨hs' ▸ hr.withHandOver stage hr.remote (HandOver.cut_start hr.cut features version), ?_⟩
  rw [hm, hg]
  exact hn.succeeds ha.transport features version hs'

/-- The engine goes on, and what it tells is heeded at once. -/
theorem Accounted.advances {s : Session σ} (h : Accounted s H) {g : Handshake σ}
    (ha : s.handshake.Advances g ns) {act : Act} {s' : Session σ}
    (hs' : s' = { s with handshake := g }.heedAll ns)
    (hx : (Step.mk act s s').close? = none) : Accounted s' (H.add ⟨act, s, s'⟩) := by
  have ht := ha.told
  cases ho : s.handshake.engine.machine.outcome with
  | some outcome =>
    have hp := h.regular.sound.not_running ho
    rw [ha.machine hp, List.self_eq_append_right] at ht
    subst ht hs'
    exact h.quiet ha (congrArg Machine.outcome (ha.machine hp)) (ha.progress hp).trans hx
  | none =>
    have hn : Negotiating s H := by
      have := h.stands
      rwa [ho] at this
    rw [Machine.notices, Machine.notices, ho] at ht
    cases hg : g.engine.machine.outcome with
    | none =>
      rw [hg] at ht
      cases ht
      subst hs'
      refine h.quiet ha (hg.trans ho.symm) (fun hf => ?_) hx
      rw [h.regular.sound.running.2 ho] at hf
      cases hf
    | some outcome =>
      rw [hg] at ht
      cases outcome with
      | failure error =>
        cases ht
        exact h.fails hn ha hg hs' hx
      | success version features =>
        cases ht
        exact h.succeeds hn ha hg hs'

theorem Succeeded.serves {s : Session σ} (h : Succeeded version s H) (act : Act)
    (s' : Session σ) (hs : HandOver.Serves s.site s'.site) (hh : s'.handOver = some stage) :
    Succeeded version s' (H.add ⟨act, s, s'⟩) := by
  refine ⟨⟨stage, hh⟩, hs.transport.barriers.trans h.barriers, fun device => ?_⟩
  have := hs.failures device
  rw [History.recorded_add, h.recorded, Step.recorded]
  simp only [site] at this
  rw [this, Nat.sub_self]

/-- A close from outside. Before the handshake has ended it is noted, and the first one decides. -/
theorem Accounted.close {s : Session σ} (h : Accounted s H) (propagate : Bool) :
    Accounted (s.close propagate) (H.add ⟨.move (.close propagate), s, s.close propagate⟩) := by
  have hf := s.site.follows_close propagate
  refine ⟨⟨h.regular.sound, hf.transport.remote.trans h.regular.remote, h.regular.cut.close _⟩, ?_⟩
  have hstands := h.stands
  change Stands _ _ s.handshake.engine.machine.outcome
  cases ho : s.handshake.engine.machine.outcome with
  | none =>
    rw [ho] at hstands
    let x : Step σ := ⟨.move (.close propagate), s, s.close propagate⟩
    have hc : (H.add x).closes = H.closes ++ [propagate] := by
      have hx : x.close? = some propagate := by
        simp [x, Step.close?, Engine.outcome?, h.regular.sound.running.2 ho]
      rw [History.closes_add, hx]
      rfl
    refine ⟨hstands.handOver, hf.transport.continues.barriers.trans hstands.barriers,
      hf.features.trans hstands.features, hf.node.trans hstands.node, ?_, ?_,
      fun device event => ?_, ?_⟩
    · rw [hc]
      exact ⟨fun _ => by simp, fun _ => s.site.state_close propagate⟩
    · refine (hstands.closedWith_close s.site rfl propagate).trans ?_
      rw [hc]
      cases H.closes <;> rfl
    · rw [History.recorded_add, hstands.recorded, Nat.zero_add]
      exact Nat.sub_self _
    · rw [History.visits_add, hstands.visits]
      exact List.drop_length
  | some outcome =>
    rw [ho] at hstands
    cases outcome with
    | failure =>
      have hs : s.close propagate = s := by
        rw [Session.close, Site.close_of_closed hstands.closed]
        rfl
      have hx : (Step.mk (.move (.close propagate)) s s).close? = none := by
        simp [Step.close?, Engine.outcome?, hstands.progress, ho]
      rw [hs]
      exact hstands.add rfl hx
    | success =>
      obtain ⟨stage, hh⟩ := hstands.handOver
      exact hstands.serves _ (s.close propagate) (HandOver.serves_close s.site propagate) hh

/-- A step of the hand-over. After a failed handshake there is none left to take. -/
theorem Accounted.serves {s : Session σ} (h : Accounted s H) (hh : s.handOver = some stage)
    {site : Site} (hs : HandOver.Serves s.site site) {next : HandOver}
    (hf : stage = .finished → site = s.site ∧ next = .finished) {act : Act}
    (hx : (Step.mk act s ((s.withSite site).withHandOver next)).close? = none) :
    Accounted ((s.withSite site).withHandOver next)
      (H.add ⟨act, s, (s.withSite site).withHandOver next⟩) := by
  have hm := s.machine_withHandOver next site
  have hsite : ((s.withSite site).withHandOver next).site = site := by
    rw [site_withHandOver]
    rfl
  refine ⟨h.regular.withHandOver next (hs.transport.remote.trans h.regular.remote)
    (hs.cut h.regular.cut), ?_⟩
  have hstands := h.stands
  rw [hm]
  cases ho : s.handshake.engine.machine.outcome with
  | none =>
    rw [ho] at hstands
    rw [hstands.handOver] at hh
    cases hh
  | some outcome =>
    rw [ho] at hstands
    cases outcome with
    | failure =>
      have hfinished := hstands.handOver
      rw [hh] at hfinished
      cases hfinished
      obtain ⟨rfl, rfl⟩ := hf rfl
      have hp : s.handshake.engine.progress ≠ .running := by
        rw [hstands.progress]
        decide
      have hsame : s.Same ((s.withSite s.site).withHandOver .finished) :=
        ⟨hh.symm, fun _ => Engine.progress_acknowledge hp, rfl, rfl⟩
      exact (hstands.same hsame).add rfl hx
    | success => exact hstands.serves act _ (hsite.symm ▸ hs) (handOver_withHandOver _ next)

variable [Admission σ]

theorem move?_handshake_eq_some {s : Session σ} (h : s.move? (.handshake m) = some s') :
    m ≠ .acknowledge ∧ ∃ g ns, s.handshake.move? m = some (g, ns) ∧
      s' = { s with handshake := g }.heedAll ns := by
  by_cases hm : m = .acknowledge
  · rw [hm] at h
    cases h
  · have h' : (s.handshake.move? m).map
        (fun r => { s with handshake := r.1 }.heedAll r.2) = some s' := by
      cases m <;> first | exact h | exact absurd rfl hm
    obtain ⟨⟨g, ns⟩, hg, rfl⟩ := Option.map_eq_some_iff.1 h'
    exact ⟨hm, g, ns, hg, rfl⟩

omit [Admission σ] in
theorem stepHandOver_eq_some {s : Session σ} (h : s.stepHandOver f = some s') :
    ∃ stage next site, s.handOver = some stage ∧ f stage s.site = some (next, site) ∧
      s' = (s.withSite site).withHandOver next := by
  unfold stepHandOver at h
  split at h
  · cases h
  · next stage hh =>
    obtain ⟨⟨next, site⟩, hf, rfl⟩ := Option.map_eq_some_iff.1 h
    exact ⟨stage, next, site, hh, hf, rfl⟩

omit [Admission σ] in
theorem advanceHandOver_of_none {s : Session σ} (hh : s.handOver = none) (handler : Handler) :
    s.advanceHandOver handler = s := by
  simp only [advanceHandOver, hh]

omit [Admission σ] in
theorem advanceHandOver_of_some {s : Session σ} (hh : s.handOver = some stage) (handler : Handler) :
    s.advanceHandOver handler =
      (s.withSite (stage.advance handler s.sink s.site).2).withHandOver
        (stage.advance handler s.sink s.site).1 := by
  simp only [advanceHandOver, hh]

theorem Accounted.act {s : Session σ} (h : Accounted s H) {act : Act} (ha : s.act? act = some s') :
    Accounted s' (H.add ⟨act, s, s'⟩) := by
  cases act with
  | move move =>
    cases move with
    | handshake move =>
      obtain ⟨hm, g, ns, hg, hs'⟩ := move?_handshake_eq_some ha
      exact h.advances (Handshake.move?_advances hg hm h.regular.sound) hs' rfl
    | close propagate =>
      cases ha
      exact h.close propagate
    | resume =>
      obtain ⟨stage, next, site, hh, hr, rfl⟩ := stepHandOver_eq_some ha
      have hr := HandOver.resume?_resumes hr
      refine h.serves hh hr.serves (fun hf => ?_) rfl
      rw [hf] at hr
      cases hr
    | answer a =>
      obtain ⟨stage, next, site, hh, hr, rfl⟩ := stepHandOver_eq_some ha
      obtain ⟨node, rfl, rfl, rfl⟩ := HandOver.answer?_eq_some hr
      exact h.serves hh (HandOver.serves_judge node a s.sink s.site) (fun hf => by cases hf) rfl
  | respond response =>
    cases ha
    exact h.advances ((s.handshake.keeps_respond response).advances h.regular.sound) rfl rfl
  | work =>
    cases ha
    exact h.advances (s.handshake.works_run.advances h.regular.sound) rfl rfl
  | attend handler =>
    cases ha
    cases hh : s.handOver with
    | none =>
      rw [advanceHandOver_of_none hh]
      exact ⟨h.regular, h.stands.add rfl rfl⟩
    | some stage =>
      rw [advanceHandOver_of_some hh]
      exact h.serves hh (HandOver.serves_advance handler s.sink stage s.site)
        (by rintro rfl; exact ⟨rfl, rfl⟩) rfl

theorem accounted_of_lives {s : Session σ} (h : Lives s H) : Accounted s H := by
  induction h with
  | accepted c bitmapMode t limiter sink journal =>
    refine ⟨⟨(Engine.sound_fresh c bitmapMode).tell .initiate, rfl, by rintro ⟨⟩⟩, ?_⟩
    exact ⟨rfl, rfl, rfl, rfl, ⟨by rintro ⟨⟩, fun h => absurd rfl h⟩, rfl, fun _ _ => rfl, rfl⟩
  | acts _ act ha ih => exact ih.act ha
  | elsewhere _ limiter journal ih =>
    exact ⟨⟨ih.regular.sound, ih.regular.remote, ih.regular.cut⟩,
      ih.stands.same ⟨rfl, id, rfl, rfl⟩⟩

end Session

end SwitchSession
