import SwitchSession.Proofs.Session.Entries
import SwitchSession.Proofs.Session.Service

namespace SwitchSession

theorem flatMap_set_perm {xs : List α} {i : Nat} (f : α → List β) (hx : xs[i]? = some x)
    (hf : f y = f x ++ more) : ((xs.set i y).flatMap f).Perm (xs.flatMap f ++ more) := by
  induction xs generalizing i with
  | nil => cases hx
  | cons z zs ih =>
    cases i with
    | zero =>
      cases hx
      rw [List.set_cons_zero, List.flatMap_cons, List.flatMap_cons, hf, List.append_assoc,
        List.append_assoc]
      exact List.perm_append_comm.append_left (f x)
    | succ i =>
      rw [List.set_cons_succ, List.flatMap_cons, List.flatMap_cons, List.append_assoc]
      exact (ih hx).append_left (f z)

theorem zip_set_modify {ys : List β} {i : Nat} (xs : List α) (x : α) (g : β → β)
    (hy : ys[i]? = some y) : (xs.set i x).zip (ys.modify i g) = (xs.zip ys).set i (x, g y) := by
  induction xs generalizing ys i with
  | nil => rfl
  | cons z zs ih =>
    cases ys with
    | nil => cases hy
    | cons w ws =>
      cases i with
      | zero =>
        cases hy
        rfl
      | succ i => exact congrArg ((z, w) :: ·) (ih hy)

/-- Each has at most one that counts. -/
theorem countP_flatMap_of_toNat {xs : List α} {f : α → List β} {p : β → Bool} {q : α → Bool}
    (h : ∀ x ∈ xs, (f x).countP p = (q x).toNat) : (xs.flatMap f).countP p = xs.countP q := by
  induction xs with
  | nil => rfl
  | cons x xs ih =>
    have hx := h x List.mem_cons_self
    have hxs := ih fun y hy => h y (List.mem_cons_of_mem x hy)
    rw [List.flatMap_cons, List.countP_append, hx, hxs, List.countP_cons, Nat.add_comm]
    cases q x <;> rfl

namespace Accounts

variable {e : Engine} {remote : String} {answers : List HandlerAnswer} {entries : List Entry}
  (h : Accounts e remote answers entries)
include h

/-- There is one entry at the most. -/
theorem count_eq (device : String) (event : SessionEvent) : entries.count (device, event) =
    if entries.head? = some (device, event) then 1 else 0 := by
  cases h with
  | nothing => rfl
  | failed => simp [List.count_singleton]
  | answered => simp [List.count_singleton]

theorem count_failed (r : String) : entries.count (r, .handshakeFailed) =
    (decide (remote = r ∧ e.hasFailed)).toNat := by
  cases h with
  | nothing hf => simp [hf]
  | failed hf => by_cases hr : remote = r <;> simp [hf, hr]
  | answered hf => simp [hf]

theorem count_verdict (d : DatapathId) (continues : Bool) :
    entries.count ((NodeId.ofDatapath d).text, verdictEvent continues) =
      (decide (e.device? = some d ∧ answers.any (letsContinue · == continues))).toNat := by
  cases h with
  | nothing _ ha => rcases ha with ha | ha <;> simp [ha]
  | failed hf hd => simp [hd, eq_comm (a := SessionEvent.handshakeFailed)]
  | @answered d' answer hf hd ha =>
    by_cases hdd : d' = d <;> by_cases hc : letsContinue answer = continues <;>
      simp [hd, ha, hdd, hc]

theorem countP_failed : entries.countP (·.2 == .handshakeFailed) = e.hasFailed.toNat := by
  cases h with
  | nothing hf => simp [hf]
  | failed hf => simp [hf]
  | answered hf => simp [hf]

theorem countP_verdict (continues : Bool) : entries.countP (·.2 == verdictEvent continues) =
    (decide (e.device?.isSome ∧ answers.any (letsContinue · == continues))).toNat := by
  cases h with
  | nothing _ ha => rcases ha with ha | ha <;> simp [ha]
  | failed hf hd => simp [hd, eq_comm (a := SessionEvent.handshakeFailed)]
  | @answered _ answer hf hd ha =>
    by_cases hc : letsContinue answer = continues <;> simp [hd, ha, hc]

end Accounts

namespace Service

def parties (v : Service σ) : List (Connection × Session.History σ) :=
  v.acceptor.connections.zip v.histories

def entered (p : Connection × Session.History σ) : List Entry :=
  SwitchSession.entered p.1.engine.machine.outcome p.1.transport.remote p.2.trail.answers

/-- The statistics are the first ones with the entries of all connections, in some order. -/
def Reconciled (first : Statistics) (v : Service σ) : Prop :=
  ∃ ledger, v.acceptor.journal.statistics = first.recordAll ledger ∧
    ledger.Perm (v.parties.flatMap entered)

variable [Admission σ]

theorem Reconciled.accept {v : Service σ} (h : v.Reconciled first) (hv : v.Consistent)
    (t : Transport) : (v.step (.accept t)).Reconciled first := by
  obtain ⟨ledger, hs, hp⟩ := h
  refine ⟨ledger, hs, ?_⟩
  have hparties : (v.step (.accept t)).parties.flatMap entered = v.parties.flatMap entered := by
    simp only [parties, step, Acceptor.accept]
    rw [List.zip_append hv.length.symm, List.flatMap_append]
    exact List.append_nil _
  rwa [hparties]

theorem Reconciled.act {v : Service σ} (h : v.Reconciled first) (hv : v.Consistent) (i : Nat)
    (act : Session.Act) : (v.step (.act i act)).Reconciled first := by
  obtain ⟨ledger, hs, hp⟩ := h
  rcases v.step_act i act with he | ⟨c, s', hc, ha, he⟩
  · rw [he]
    exact ⟨ledger, hs, hp⟩
  · obtain ⟨hi, -⟩ := List.getElem?_eq_some_iff.1 hc
    obtain ⟨H, hH⟩ : ∃ H, v.histories[i]? = some H :=
      ⟨_, List.getElem?_eq_getElem (hv.length ▸ hi)⟩
    obtain ⟨entries, hentered, hstatistics⟩ := (hv.lives i c H hc hH).books ha
    -- Of all entries only those in the place of this connection change.
    have hparty : v.parties[i]? = some (c, H) := List.getElem?_zip_eq_some.2 ⟨hc, hH⟩
    let party : Connection × Session.History σ :=
      (Acceptor.part s', H.add ⟨act, v.acceptor.join c, s'⟩)
    have hset := flatMap_set_perm (y := party) entered hparty hentered
    rw [he]
    refine ⟨ledger ++ entries, ?_, ?_⟩
    · rw [Statistics.recordAll_append, ← hs]
      exact hstatistics
    · refine (hp.append_right entries).trans ?_
      simp only [parties, Acceptor.store]
      rw [zip_set_modify _ _ _ hH]
      exact hset.symm

theorem Reconciled.step {v : Service σ} (h : v.Reconciled first) (hv : v.Consistent)
    (x : Occurrence σ) : (v.step x).Reconciled first := by
  cases x with
  | accept t => exact h.accept hv t
  | act i act => exact h.act hv i act
  | limiter limiter => exact h

theorem Reconciled.play {v : Service σ} (h : v.Reconciled first) (hv : v.Consistent)
    (schedule : List (Occurrence σ)) : (v.play schedule).Reconciled first := by
  induction schedule generalizing v with
  | nil => exact h
  | cons x schedule ih => exact ih (h.step hv x) (hv.step x)

theorem Consistent.lives_of_mem {v : Service σ} (hv : v.Consistent) (hp : p ∈ v.parties) :
    Session.Lives (v.acceptor.join p.1) p.2 := by
  obtain ⟨i, hi⟩ := List.mem_iff_getElem?.1 hp
  obtain ⟨hc, hH⟩ := List.getElem?_zip_eq_some.1 hi
  exact hv.lives i p.1 p.2 hc hH

omit [Admission σ] in
theorem Reconciled.count {v : Service σ} (h : v.Reconciled first) {device : String}
    {event : SessionEvent} {q : Connection × Session.History σ → Bool}
    (hq : ∀ p ∈ v.parties, (entered p).count (device, event) = (q p).toNat) :
    v.acceptor.journal.statistics.count device event =
      first.count device event + v.parties.countP q := by
  obtain ⟨ledger, hs, hp⟩ := h
  rw [hs, Statistics.count_recordAll, hp.count_eq]
  exact congrArg _ (countP_flatMap_of_toNat hq)

omit [Admission σ] in
theorem Reconciled.total {v : Service σ} (h : v.Reconciled first) {event : SessionEvent}
    {q : Connection × Session.History σ → Bool}
    (hq : ∀ p ∈ v.parties, (entered p).countP (·.2 == event) = (q p).toNat) :
    v.acceptor.journal.statistics.total event = first.total event + v.parties.countP q := by
  obtain ⟨ledger, hs, hp⟩ := h
  rw [hs, Statistics.total_recordAll, hp.countP_eq]
  exact congrArg _ (countP_flatMap_of_toNat hq)

/-- However the acts of all connections are interleaved: there is one connection for each that was
accepted, it records at most one event, and no counter belongs to two devices. The failures counted
for an address are the connections from there whose handshakes have failed. For a device the
connections counted are those whose handshakes have succeeded with it and that the handler let
continue or not, and the totals count them all. A counter of 64 bits agrees with these below `2 ^ 64`,
and none of them rises by more than one for a connection. -/
theorem accounts_add_up (a : Acceptor σ) (schedule : List (Occurrence σ)) :
    let v := (opened a).play schedule
    let first := a.journal.statistics
    let last := v.acceptor.journal.statistics
    v.parties.map (·.1) = v.acceptor.connections ∧
    v.parties.map (·.2.opened) = schedule.filterMap Occurrence.accepted? ∧
    (∀ p ∈ v.parties, p.1.transport.remote = p.2.opened.remote) ∧
    (∀ p ∈ v.parties, ∃ entry : Option Entry, ∀ device event,
      p.2.recorded device event = if entry = some (device, event) then 1 else 0) ∧
    (∀ remote, last.count remote .handshakeFailed = first.count remote .handshakeFailed +
      v.parties.countP fun p => p.1.transport.remote = remote ∧ p.1.engine.hasFailed) ∧
    (∀ d, last.count (NodeId.ofDatapath d).text .created =
      first.count (NodeId.ofDatapath d).text .created +
        v.parties.countP fun p => p.1.engine.device? = some d ∧
          p.2.trail.answers.any letsContinue) ∧
    (∀ d, last.count (NodeId.ofDatapath d).text .disconnectedByController =
      first.count (NodeId.ofDatapath d).text .disconnectedByController +
        v.parties.countP fun p => p.1.engine.device? = some d ∧
          p.2.trail.answers.any (!letsContinue ·)) ∧
    last.total .handshakeFailed = first.total .handshakeFailed +
      v.parties.countP (·.1.engine.hasFailed) ∧
    last.total .created = first.total .created +
      v.parties.countP (fun p => p.1.engine.device?.isSome ∧ p.2.trail.answers.any letsContinue) ∧
    last.total .disconnectedByController = first.total .disconnectedByController +
      v.parties.countP (fun p => p.1.engine.device?.isSome ∧
        p.2.trail.answers.any (!letsContinue ·)) ∧
    ∀ d d', (NodeId.ofDatapath d).text = (NodeId.ofDatapath d').text → d = d' := by
  intro v first last
  have hv : v.Consistent := (consistent_opened a).play schedule
  have hr : v.Reconciled first := by
    have hopened : (opened a).Reconciled first := ⟨[], rfl, .nil⟩
    exact hopened.play (consistent_opened a) schedule
  have haccounts (p) (hp : p ∈ v.parties) :
      Accounts p.1.engine p.1.transport.remote p.2.trail.answers (entered p) :=
    Session.accounts_of_lives (hv.lives_of_mem hp)
  have hopened : v.parties.map (·.2.opened) = schedule.filterMap Occurrence.accepted? :=
    calc v.parties.map (·.2.opened)
      _ = (v.parties.map (·.2)).map (·.opened) := by rw [List.map_map]; rfl
      _ = v.histories.map (·.opened) := by rw [parties, List.map_snd_zip hv.length.le]
      _ = schedule.filterMap Occurrence.accepted? := opened_play (opened a) schedule
  refine ⟨List.map_fst_zip hv.length.ge, hopened, fun p hp => ?_, fun p hp => ?_,
    fun remote => hr.count fun p hp => ?_, fun d => hr.count fun p hp => ?_,
    fun d => hr.count fun p hp => ?_, hr.total fun p hp => ?_, hr.total fun p hp => ?_,
    hr.total fun p hp => ?_, fun d d' h => NodeId.text_ofDatapath_inj.1 h⟩
  · exact (Session.accounted_of_lives (hv.lives_of_mem hp)).regular.remote
  · refine ⟨(entered p).head?, fun device event => ?_⟩
    rw [Session.recorded_of_lives (hv.lives_of_mem hp)]
    exact (haccounts p hp).count_eq device event
  · exact (haccounts p hp).count_failed remote
  · simpa using (haccounts p hp).count_verdict d true
  · simpa using (haccounts p hp).count_verdict d false
  · exact (haccounts p hp).countP_failed
  · simpa using (haccounts p hp).countP_verdict true
  · simpa using (haccounts p hp).countP_verdict false

end Service

end SwitchSession
