import SwitchSession.Proofs.Handshake.Causes
import SwitchSession.Proofs.Handshake.Phases
import SwitchSession.Proofs.Handshake.Success

namespace SwitchSession

/-- A limiter that writes down its answers. -/
structure Audited (σ : Type) where
  limiter : σ
  answers : List Bool := []

instance [Admission σ] : Admission (Audited σ) where
  tryAcquire a :=
    let (granted, limiter) := Admission.tryAcquire a.limiter
    (granted, { limiter, answers := a.answers ++ [granted] })

/-- The answer of the limiter that an outcome rests on. -/
def Outcome.permit? : Outcome → Option Bool
  | .success .. => some true
  | .failure (.admissionDenied _) => some false
  | .failure _ => none

namespace Machine

def permit? (m : Machine) : Option Bool := m.outcome.bind Outcome.permit?

theorem permit?_eq_some_iff (m : Machine) :
    (m.permit? = some true ↔ m.outcome matches some (.success ..)) ∧
      (m.permit? = some false ↔ m.outcome matches some (.failure (.admissionDenied _))) := by
  unfold permit? Outcome.permit?
  cases m.outcome with
  | none => simp
  | some outcome =>
    cases outcome with
    | success => simp
    | failure error => cases error <;> simp

/-- What the limiter answers while the machine handles an event. -/
def answers [Admission σ] (m : Machine) (limiter : σ) (e : Event) : List Bool :=
  (m.handle ({ limiter } : Audited σ) e).limiter.answers

theorem handle_of_asks [Admission σ] {m : Machine} (ha : m.asksAdmission e = true) (limiter : σ) :
    m.handle limiter e =
      { machine := (m.react (Admission.tryAcquire limiter).1 e).1
        limiter := (Admission.tryAcquire limiter).2
        actions := (m.react (Admission.tryAcquire limiter).1 e).2 } := by
  simp only [handle, ha, if_true]

theorem handle_of_not_asks [Admission σ] {m : Machine} (ha : m.asksAdmission e = false)
    (limiter : σ) :
    m.handle limiter e =
      { machine := (m.react true e).1, limiter, actions := (m.react true e).2 } := by
  simp only [handle, ha, Bool.false_eq_true, if_false]

theorem answers_of_asks [Admission σ] {m : Machine} (ha : m.asksAdmission e = true) (limiter : σ) :
    m.answers limiter e = [(Admission.tryAcquire limiter).1] := by
  rw [answers, handle_of_asks ha]
  rfl

theorem answers_of_not_asks [Admission σ] {m : Machine} (ha : m.asksAdmission e = false)
    (limiter : σ) : m.answers limiter e = [] := by
  rw [answers, handle_of_not_asks ha]

/-- Writing the answers down changes nothing else. -/
theorem handle_audited [Admission σ] (m : Machine) (limiter : σ) (e : Event) :
    m.handle ({ limiter } : Audited σ) e =
      { machine := (m.handle limiter e).machine
        limiter := ⟨(m.handle limiter e).limiter, m.answers limiter e⟩
        actions := (m.handle limiter e).actions } := by
  cases ha : m.asksAdmission e with
  | true =>
    rw [handle_of_asks ha, handle_of_asks ha, answers_of_asks ha]
    rfl
  | false => rw [handle_of_not_asks ha, handle_of_not_asks ha, answers_of_not_asks ha]

theorem asksAdmission_eq_true_iff {m : Machine} (h : m.Coherent) :
    m.asksAdmission e = true ↔
      ∃ x features, e = .features x (.ok features) ∧ m.pendingXid = some x := by
  constructor
  · intro ha
    unfold asksAdmission at ha
    split at ha
    · next x features =>
      simp only [Bool.and_eq_true, decide_eq_true_eq] at ha
      exact ⟨x, features, rfl, ha.1.2⟩
    · cases ha
  · rintro ⟨x, features, rfl, hx⟩
    obtain ⟨ht, v, hv⟩ := h.settled_of_pending hx
    exact asksAdmission_of_pending ht hx hv features

/-- The reply to the open request is decided by the limiter, one way or the other. -/
theorem Handles.permit_of_pending {m : Machine}
    (hh : m.Handles granted (.features x (.ok features)) t) (h : m.Coherent)
    (hx : m.pendingXid = some x) :
    (granted = true ∧ t.failure = none ∧ t.machine.permit? = some true) ∨
      granted = false ∧ t.failure = some (.admissionDenied features.datapath) := by
  cases hh with
  | ignores hi => exact absurd hx hi
  | negotiates _ hn => cases hn
  | unasked _ hs =>
    obtain ⟨_, v, hv⟩ := h.settled_of_pending hx
    rw [hs] at hv
    cases hv
  | denied _ _ hg => exact .inr ⟨hg, rfl⟩
  | admits _ _ hg => exact .inl ⟨hg, rfl, rfl⟩

theorem permit?_of_running {m : Machine} (h : m.Running) : m.permit? = none := by
  rw [permit?, h.outcome]
  rfl

theorem Quits.permit? {m : Machine} (hq : m.Quits e left error) :
    Outcome.permit? (.failure error) = none := by
  cases hq <;> rfl

/-- Any other event leaves the limiter without a say in the outcome. -/
theorem Handles.permit_of_not_asks {m : Machine} (hh : m.Handles granted e t) (hm : m.Running)
    (ha : m.asksAdmission e = false) :
    t.machine.permit? = none ∧
      ∀ error, t.failure = some error → Outcome.permit? (.failure error) = none := by
  have hasks {x : Xid} {v : Version} {features : FeatureSet} (hx : m.pendingXid = some x)
      (hs : m.negotiation.settled = some v) : m.asksAdmission (.features x (.ok features)) = true :=
    asksAdmission_of_pending hm.phase hx hs features
  cases hh with
  | ignores => exact ⟨permit?_of_running hm, fun _ hf => by cases hf⟩
  | negotiates _ hn =>
    exact ⟨permit?_of_running (hn.quiet hm).running, fun _ hf => (hn.quits hf).permit?⟩
  | unsent => exact ⟨permit?_of_running hm, fun _ hf => by cases hf; rfl⟩
  | unanswered => exact ⟨permit?_of_running hm.forgetting, fun _ hf => by cases hf; rfl⟩
  | unasked => exact ⟨permit?_of_running hm.forgetting, fun _ hf => by cases hf⟩
  | denied hx hs =>
    rw [hasks hx hs] at ha
    cases ha
  | admits hx hs =>
    rw [hasks hx hs] at ha
    cases ha
  | loses => exact ⟨permit?_of_running hm, fun _ hf => by cases hf; rfl⟩

theorem Reacts.permit_of_pending {m : Machine}
    (hr : m.Reacts granted (.features x (.ok features)) m' actions) (h : m.Coherent)
    (hx : m.pendingXid = some x) : m'.permit? = some granted := by
  cases hr with
  | ended ht =>
    rw [h.idle ht] at hx
    cases hx
  | goes _ hh hf =>
    rcases hh.permit_of_pending h hx with ⟨rfl, _, hp⟩ | ⟨_, hd⟩
    · exact hp
    · rw [hf] at hd
      cases hd
  | fails _ hh hf =>
    rcases hh.permit_of_pending h hx with ⟨_, hn, _⟩ | ⟨rfl, hd⟩
    · rw [hf] at hn
      cases hn
    · rw [hf] at hd
      cases hd
      rfl

theorem Reacts.permit_of_not_asks {m : Machine} (hr : m.Reacts granted e m' actions)
    (hd : m.Decided) (ha : m.asksAdmission e = false) : m'.permit? = m.permit? := by
  cases hr with
  | ended => rfl
  | goes ht hh =>
    rw [permit?_of_running (hd.running ht)]
    exact (hh.permit_of_not_asks (hd.running ht) ha).1
  | fails ht hh hf =>
    rw [permit?_of_running (hd.running ht)]
    exact (hh.permit_of_not_asks (hd.running ht) ha).2 _ hf

theorem permit?_of_pending {m : Machine} (h : m.Coherent) (hd : m.Decided)
    (hx : m.pendingXid = some x) : m.permit? = none :=
  permit?_of_running (hd.running (h.settled_of_pending hx).1)

/-- The answers of the limiter while an event is handled become part of the outcome. -/
theorem permit?_handle [Admission σ] {m : Machine} (h : m.Coherent) (hd : m.Decided)
    (limiter : σ) (e : Event) :
    (m.handle limiter e).machine.permit?.toList = m.permit?.toList ++ m.answers limiter e := by
  have hr := m.handle_reacts limiter e
  cases ha : m.asksAdmission e with
  | true =>
    obtain ⟨x, features, rfl, hx⟩ := (asksAdmission_eq_true_iff h).1 ha
    rw [hr.permit_of_pending h hx, permit?_of_pending h hd hx, answers_of_asks ha, grant, if_pos ha]
    rfl
  | false => rw [hr.permit_of_not_asks hd ha, answers_of_not_asks ha, List.append_nil]

end Machine

/-- Machines that share a limiter. -/
structure Fleet (σ : Type) where
  machines : List Machine
  limiter : σ
  /-- All calls of the limiter: which machine made it, and the answer. -/
  ledger : List (Nat × Bool) := []

namespace Fleet

/-- What can happen next: an event for one of the machines, or a change of the limiter, such as the
passing of time. -/
inductive Occurrence (σ : Type)
  | event (i : Nat) (e : Event)
  | limiter (limiter : σ)

def fresh (members : List (CapabilitySet × Bool)) (limiter : σ) : Fleet σ where
  machines := members.map fun (c, bitmapMode) => .fresh c bitmapMode
  limiter

/-- The calls that one machine made. -/
def answersTo (f : Fleet σ) (i : Nat) : List Bool :=
  (f.ledger.filter fun call => call.1 = i).map Prod.snd

variable [Admission σ]

def feed (f : Fleet σ) (i : Nat) (e : Event) : Fleet σ :=
  match f.machines[i]? with
  | none => f
  | some m =>
    let reaction := m.handle ({ limiter := f.limiter } : Audited σ) e
    { machines := f.machines.set i reaction.machine
      limiter := reaction.limiter.limiter
      ledger := f.ledger ++ reaction.limiter.answers.map (i, ·) }

def step (f : Fleet σ) : Occurrence σ → Fleet σ
  | .event i e => f.feed i e
  | .limiter limiter => { f with limiter }

def play (f : Fleet σ) (schedule : List (Occurrence σ)) : Fleet σ := schedule.foldl step f

theorem feed_of_some {f : Fleet σ} (hm : f.machines[i]? = some m) (e : Event) :
    f.feed i e =
      { machines := f.machines.set i (m.handle f.limiter e).machine
        limiter := (m.handle f.limiter e).limiter
        ledger := f.ledger ++ (m.answers f.limiter e).map (i, ·) } := by
  simp only [feed, hm, m.handle_audited]

theorem answersTo_feed {f : Fleet σ} (hm : f.machines[i]? = some m) (e : Event) (j : Nat) :
    (f.feed i e).answersTo j =
      f.answersTo j ++ if i = j then m.answers f.limiter e else [] := by
  rw [feed_of_some hm]
  simp only [answersTo, List.filter_append, List.map_append, List.filter_map, List.map_map]
  congr 1
  by_cases hij : i = j <;> simp [hij, Function.comp_def]

/-- The books are balanced: every machine's answers are those that its outcome rests on. -/
structure Balanced (f : Fleet σ) : Prop where
  regular : ∀ m ∈ f.machines, m.Coherent ∧ m.Decided
  own : ∀ (i : Nat) m, f.machines[i]? = some m → f.answersTo i = m.permit?.toList
  total : (f.ledger.map Prod.snd).Perm (f.machines.filterMap Machine.permit?)

omit [Admission σ] in
theorem balanced_fresh (members : List (CapabilitySet × Bool)) (limiter : σ) :
    (fresh members limiter).Balanced := by
  have hfresh {m : Machine} (hm : m ∈ (fresh members limiter).machines) :
      m.Coherent ∧ m.Decided ∧ m.permit? = none := by
    obtain ⟨⟨c, bitmapMode⟩, _, rfl⟩ := List.mem_map.1 hm
    exact ⟨Machine.coherent_fresh c bitmapMode, rfl, rfl⟩
  refine ⟨fun m hm => ⟨(hfresh hm).1, (hfresh hm).2.1⟩, fun i m hm => ?_, ?_⟩
  · rw [(hfresh (List.mem_of_getElem? hm)).2.2]
    rfl
  · rw [List.filterMap_eq_nil_iff.2 fun m hm => (hfresh hm).2.2]
    rfl

theorem Balanced.total_feed {f : Fleet σ} (h : f.Balanced) (hm : f.machines[i]? = some m)
    (e : Event) :
    ((f.feed i e).ledger.map Prod.snd).Perm ((f.feed i e).machines.filterMap Machine.permit?) := by
  obtain ⟨hc, hd⟩ := h.regular m (List.mem_of_getElem? hm)
  obtain ⟨hi, hmi⟩ := List.getElem?_eq_some_iff.1 hm
  obtain ⟨before, after, hl, -, hset⟩ : ∃ before after,
      f.machines = before ++ f.machines[i] :: after ∧ before.length = i ∧
        f.machines.set i (m.handle f.limiter e).machine =
          before ++ (m.handle f.limiter e).machine :: after :=
    List.exists_of_set hi
  have hcons (x : Machine) : (x :: after).filterMap Machine.permit? =
      x.permit?.toList ++ after.filterMap Machine.permit? := by
    cases hx : x.permit? <;> simp [hx]
  have hbooks := h.total
  rw [hl, hmi, List.filterMap_append, hcons] at hbooks
  rw [feed_of_some hm, hset, List.filterMap_append, hcons, m.permit?_handle hc hd, List.map_append,
    List.map_map]
  refine (hbooks.append_right _).trans ?_
  simp only [List.append_assoc, Function.comp_def, List.map_id']
  exact (List.perm_append_comm.append_left _).append_left _

theorem Balanced.feed {f : Fleet σ} (h : f.Balanced) (hm : f.machines[i]? = some m) (e : Event) :
    (f.feed i e).Balanced := by
  obtain ⟨hc, hd⟩ := h.regular m (List.mem_of_getElem? hm)
  obtain ⟨hi, hmi⟩ := List.getElem?_eq_some_iff.1 hm
  have hr := m.handle_reacts f.limiter e
  have hp := m.permit?_handle hc hd f.limiter e
  refine ⟨fun m' hm' => ?_, fun j m' hm' => ?_, h.total_feed hm e⟩
  · rw [feed_of_some hm] at hm'
    rcases List.mem_or_eq_of_mem_set hm' with hm' | rfl
    · exact h.regular m' hm'
    · exact ⟨(hr.coherent hc).1, hr.decided hd⟩
  · rw [answersTo_feed hm]
    rw [feed_of_some hm] at hm'
    by_cases hij : i = j
    · subst hij
      rw [List.getElem?_set_self hi] at hm'
      cases hm'
      rw [if_pos rfl, h.own i m hm, hp]
    · rw [List.getElem?_set_ne hij] at hm'
      rw [if_neg hij, List.append_nil, h.own j m' hm']

theorem Balanced.step {f : Fleet σ} (h : f.Balanced) (x : Occurrence σ) : (f.step x).Balanced := by
  cases x with
  | event i e =>
    cases hm : f.machines[i]? with
    | none =>
      have hf : f.step (.event i e) = f := by simp only [Fleet.step, Fleet.feed, hm]
      rw [hf]
      exact h
    | some m => exact h.feed hm e
  | limiter => exact ⟨h.regular, h.own, h.total⟩

theorem Balanced.play {f : Fleet σ} (h : f.Balanced) (schedule : List (Occurrence σ)) :
    (f.play schedule).Balanced := by
  induction schedule generalizing f with
  | nil => exact h
  | cons x schedule ih => exact ih (h.step x)

omit [Admission σ] in
theorem Balanced.count {f : Fleet σ} (h : f.Balanced) (granted : Bool) :
    f.ledger.countP (·.2 = granted) = f.machines.countP (·.permit? = some granted) := by
  have hc := h.total.count_eq granted
  rw [List.count_filterMap, List.count_eq_countP, List.countP_map] at hc
  simpa [Function.comp_def, beq_eq_decide] using hc

theorem feed_of_asks {f : Fleet σ} (hm : f.machines[i]? = some m) (ha : m.asksAdmission e = true) :
    (f.feed i e).ledger = f.ledger ++ [(i, (Admission.tryAcquire f.limiter).1)] ∧
      (f.feed i e).limiter = (Admission.tryAcquire f.limiter).2 := by
  rw [feed_of_some hm, Machine.answers_of_asks ha, Machine.handle_of_asks ha]
  exact ⟨rfl, rfl⟩

theorem feed_of_not_asks {f : Fleet σ} (hm : f.machines[i]? = some m)
    (ha : m.asksAdmission e = false) :
    (f.feed i e).ledger = f.ledger ∧ (f.feed i e).limiter = f.limiter := by
  rw [feed_of_some hm, Machine.answers_of_not_asks ha, Machine.handle_of_not_asks ha]
  exact ⟨List.append_nil _, rfl⟩

/-- However the events of the machines are interleaved, a machine asks the limiter when the reply to
its open request arrives, and at no other event. It asks once at most, and its outcome is a success
if it was granted a permit and a denial if not. So there are as many successes as permits granted,
and as many denials as permits denied. -/
theorem permits_balance (members : List (CapabilitySet × Bool)) (limiter : σ)
    (schedule : List (Occurrence σ)) :
    let f := (fresh members limiter).play schedule
    (f.ledger.countP (·.2 = true) =
        f.machines.countP fun m => m.outcome matches some (.success ..)) ∧
      (f.ledger.countP (·.2 = false) =
        f.machines.countP fun m => m.outcome matches some (.failure (.admissionDenied _))) ∧
      ∀ (i : Nat) m, f.machines[i]? = some m →
        f.answersTo i = m.permit?.toList ∧ (f.answersTo i).length ≤ 1 ∧
        ∀ e, (f.feed i e).machines = f.machines.set i (m.handle f.limiter e).machine ∧
          ((∃ x features, e = .features x (.ok features) ∧ m.pendingXid = some x) →
            (f.feed i e).ledger = f.ledger ++ [(i, (Admission.tryAcquire f.limiter).1)] ∧
            (f.feed i e).limiter = (Admission.tryAcquire f.limiter).2) ∧
          ((¬ ∃ x features, e = .features x (.ok features) ∧ m.pendingXid = some x) →
            (f.feed i e).ledger = f.ledger ∧ (f.feed i e).limiter = f.limiter) := by
  intro f
  have h : f.Balanced := (balanced_fresh members limiter).play schedule
  refine ⟨?_, ?_, fun i m hm => ⟨h.own i m hm, ?_, fun e => ⟨?_, fun he => ?_, fun he => ?_⟩⟩⟩
  · rw [h.count]
    simp only [(Machine.permit?_eq_some_iff _).1, Bool.decide_eq_true]
  · rw [h.count]
    simp only [(Machine.permit?_eq_some_iff _).2, Bool.decide_eq_true]
  · rw [h.own i m hm]
    cases m.permit? <;> simp
  · rw [feed_of_some hm]
  · have hc := (h.regular m (List.mem_of_getElem? hm)).1
    exact feed_of_asks hm ((Machine.asksAdmission_eq_true_iff hc).2 he)
  · have hc := (h.regular m (List.mem_of_getElem? hm)).1
    rw [← Machine.asksAdmission_eq_true_iff hc, Bool.not_eq_true] at he
    exact feed_of_not_asks hm he

/-- Two switches reply in the same minute, and there is one permit a minute. -/
example :
    let f := (fresh [(.fourOne, true), (.fourOne, true)] (Limiter.perMinute 1 0)).play
      [.event 0 .initiate, .event 1 .initiate, .event 1 (.hello ⟨4, 7, []⟩),
        .event 0 (.hello ⟨4, 7, []⟩), .event 1 (.features 22 (.ok { datapath := 2 })),
        .event 0 (.features 22 (.ok { datapath := 1 }))]
    f.ledger = [(1, true), (0, false)] := by
  decide

end Fleet

end SwitchSession
