import SwitchSession.Acceptor
import SwitchSession.Proofs.Session.Failure

namespace SwitchSession

/-- All connections of an acceptor, each with its life. -/
structure Service (σ : Type) where
  acceptor : Acceptor σ
  /-- The life of each connection, in the order of acceptance. -/
  histories : List (Session.History σ) := []

namespace Service

/-- What can happen to an acceptor. Its limiter can change at any time. -/
inductive Occurrence (σ : Type)
  | accept (transport : Transport)
  | act (i : Nat) (act : Session.Act)
  | limiter (limiter : σ)

/-- The transport of a connection that is accepted. -/
def Occurrence.accepted? : Occurrence σ → Option Transport
  | .accept transport => some transport
  | .act .. | .limiter _ => none

def opened (a : Acceptor σ) : Service σ where
  acceptor := { a with connections := [] }

variable [Admission σ]

def step (v : Service σ) : Occurrence σ → Service σ
  | .accept transport =>
    { acceptor := v.acceptor.accept transport
      histories := v.histories ++ [{ opened := transport }] }
  | .act i act =>
    match v.acceptor.session? i with
    | none => v
    | some s =>
      match s.act? act with
      | none => v
      | some s' =>
        { acceptor := v.acceptor.store i s'
          histories := v.histories.modify i (·.add ⟨act, s, s'⟩) }
  | .limiter limiter => { v with acceptor := { v.acceptor with limiter } }

def play (v : Service σ) (schedule : List (Occurrence σ)) : Service σ := schedule.foldl step v

theorem play_append (v : Service σ) (earlier later : List (Occurrence σ)) :
    v.play (earlier ++ later) = (v.play earlier).play later :=
  List.foldl_append

omit [Admission σ] in
theorem session?_store {a : Acceptor σ} (hi : i < a.connections.length) (s : Session σ) :
    (a.store i s).session? i = some s := by
  simp only [Acceptor.session?, Acceptor.store, List.getElem?_set_self hi]
  rfl

omit [Admission σ] in
theorem store_store (a : Acceptor σ) (i : Nat) (s s' : Session σ) :
    (a.store i s).store i s' = a.store i s' := by
  simp only [Acceptor.store, List.set_set]

theorem acceptor_step_move (v : Service σ) (i : Nat) (move : Session.Move) :
    (v.step (.act i (.move move))).acceptor = (v.acceptor.move? i move).getD v.acceptor := by
  simp only [step, Acceptor.move?, Session.act?]
  cases hs : v.acceptor.session? i with
  | none => rfl
  | some s =>
    simp only [Option.bind_some]
    cases s.move? move <;> rfl

/-- A turn of one connection is two of its acts. -/
theorem exists_play_eq_onSession (v : Service σ) (i : Nat) (handler : Handler) :
    ∃ schedule, (v.play schedule).acceptor = v.acceptor.onSession i (·.run handler) := by
  unfold Acceptor.onSession
  cases hs : v.acceptor.session? i with
  | none => exact ⟨[], rfl⟩
  | some s =>
    obtain ⟨c, hc, -⟩ := Option.map_eq_some_iff.1 hs
    obtain ⟨hi, -⟩ := List.getElem?_eq_some_iff.1 hc
    refine ⟨[.act i .work, .act i (.attend handler)], ?_⟩
    simp only [play, List.foldl_cons, List.foldl_nil, step, hs, Session.act?, session?_store hi,
      store_store, Session.run_eq]

/-- When all connections take their turns, this is a schedule like any other. -/
theorem exists_play_eq_run (v : Service σ) :
    ∃ schedule, (v.play schedule).acceptor = v.acceptor.run := by
  have hturns (is : List Nat) (v : Service σ) : ∃ schedule, (v.play schedule).acceptor =
      is.foldl (fun a i => a.onSession i (·.run a.handler)) v.acceptor := by
    induction is generalizing v with
    | nil => exact ⟨[], rfl⟩
    | cons i is ih =>
      obtain ⟨turn, ht⟩ := v.exists_play_eq_onSession i v.acceptor.handler
      obtain ⟨rest, hr⟩ := ih (v.play turn)
      refine ⟨turn ++ rest, ?_⟩
      rw [play_append, hr, ht]
      rfl
  exact hturns _ v

/-- An act that cannot be done changes nothing; else it is the connection's own, and its history has
it. -/
theorem step_act (v : Service σ) (i : Nat) (act : Session.Act) :
    v.step (.act i act) = v ∨ ∃ c s', v.acceptor.connections[i]? = some c ∧
      (v.acceptor.join c).act? act = some s' ∧ v.step (.act i act) =
        { acceptor := v.acceptor.store i s'
          histories := v.histories.modify i (·.add ⟨act, v.acceptor.join c, s'⟩) } := by
  simp only [step]
  cases hs : v.acceptor.session? i with
  | none => exact .inl rfl
  | some s =>
    obtain ⟨c, hc, rfl⟩ := Option.map_eq_some_iff.1 hs
    cases ha : (v.acceptor.join c).act? act with
    | none => exact .inl (by simp only [ha])
    | some s' => exact .inr ⟨c, s', hc, ha, by simp only [ha]⟩

theorem opened_step (v : Service σ) (x : Occurrence σ) :
    (v.step x).histories.map (·.opened) = v.histories.map (·.opened) ++ x.accepted?.toList := by
  cases x with
  | accept t => exact List.map_append
  | act i act =>
    have hkept : (v.step (.act i act)).histories.map (·.opened) = v.histories.map (·.opened) := by
      rcases v.step_act i act with he | ⟨c, s', -, -, he⟩
      · rw [he]
      · rw [he]
        apply map_modify_of_eq
        intro H
        rfl
    rw [hkept]
    exact (List.append_nil _).symm
  | limiter limiter => exact (List.append_nil _).symm

/-- There is one connection for each that was accepted, on the transport it was accepted with. -/
theorem opened_play (v : Service σ) (schedule : List (Occurrence σ)) :
    (v.play schedule).histories.map (·.opened) =
      v.histories.map (·.opened) ++ schedule.filterMap Occurrence.accepted? := by
  induction schedule generalizing v with
  | nil => exact (List.append_nil _).symm
  | cons x schedule ih =>
    have hx : (x :: schedule).filterMap Occurrence.accepted? =
        x.accepted?.toList ++ schedule.filterMap Occurrence.accepted? := by
      cases h : x.accepted? <;> simp [h]
    rw [hx, ← List.append_assoc, ← opened_step]
    exact ih (v.step x)

structure Consistent (v : Service σ) : Prop where
  length : v.histories.length = v.acceptor.connections.length
  lives : ∀ (i : Nat) c H, v.acceptor.connections[i]? = some c → v.histories[i]? = some H →
    Session.Lives (v.acceptor.join c) H

theorem consistent_opened (a : Acceptor σ) : (opened a).Consistent :=
  ⟨rfl, by rintro i c H ⟨⟩⟩

theorem Consistent.accept {v : Service σ} (h : v.Consistent) (t : Transport) :
    (v.step (.accept t)).Consistent := by
  refine ⟨by simp [step, Acceptor.accept, h.length], fun i c H hc hH => ?_⟩
  simp only [step, Acceptor.accept] at hc hH
  by_cases hi : i < v.acceptor.connections.length
  · rw [List.getElem?_append_left hi] at hc
    rw [List.getElem?_append_left (h.length ▸ hi)] at hH
    exact h.lives i c H hc hH
  · obtain ⟨hlt, -⟩ := List.getElem?_eq_some_iff.1 hc
    have hlast : i = v.acceptor.connections.length := by
      simp at hlt
      omega
    subst hlast
    rw [List.getElem?_concat_length] at hc
    rw [← h.length, List.getElem?_concat_length] at hH
    cases hc
    cases hH
    exact .accepted _ _ t _ _ _

theorem Consistent.act {v : Service σ} (h : v.Consistent) (i : Nat) (act : Session.Act) :
    (v.step (.act i act)).Consistent := by
  rcases v.step_act i act with he | ⟨c₀, s', hc₀, ha, he⟩
  · rwa [he]
  · rw [he]
    refine ⟨by simp [Acceptor.store, h.length], fun j c H hc hH => ?_⟩
    simp only [Acceptor.store] at hc hH
    by_cases hij : i = j
    · subst hij
      obtain ⟨hi, -⟩ := List.getElem?_eq_some_iff.1 hc₀
      rw [List.getElem?_set_self hi] at hc
      rw [List.getElem?_modify_eq] at hH
      obtain ⟨H₀, hH₀, rfl⟩ := Option.map_eq_some_iff.1 hH
      cases hc
      exact .acts (h.lives i c₀ H₀ hc₀ hH₀) act ha
    · rw [List.getElem?_set_ne hij] at hc
      rw [List.getElem?_modify_ne _ _ hij] at hH
      exact .elsewhere (h.lives j c H hc hH) s'.handshake.limiter s'.journal

theorem Consistent.step {v : Service σ} (h : v.Consistent) (x : Occurrence σ) :
    (v.step x).Consistent := by
  cases x with
  | accept t => exact h.accept t
  | act i act => exact h.act i act
  | limiter limiter =>
    refine ⟨h.length, fun i c H hc hH => ?_⟩
    exact .elsewhere (h.lives i c H hc hH) limiter v.acceptor.journal

theorem Consistent.play {v : Service σ} (h : v.Consistent) (schedule : List (Occurrence σ)) :
    (v.play schedule).Consistent := by
  induction schedule generalizing v with
  | nil => exact h
  | cons x schedule ih => exact ih (h.step x)

/-- Every connection that a service has accepted has a history, which its life accounts for. -/
theorem exists_lives (a : Acceptor σ) (schedule : List (Occurrence σ)) {i : Nat} {c : Connection}
    (hc : ((opened a).play schedule).acceptor.connections[i]? = some c) :
    ∃ H, ((opened a).play schedule).histories[i]? = some H ∧
      Session.Lives (((opened a).play schedule).acceptor.join c) H := by
  have hv := (consistent_opened a).play schedule
  obtain ⟨hi, -⟩ := List.getElem?_eq_some_iff.1 hc
  have hH := List.getElem?_eq_getElem (hv.length ▸ hi)
  exact ⟨_, hH, hv.lives i c _ hc hH⟩

/-- However the acts of all connections are interleaved, and whatever each of their requests is
answered: a connection whose handshake has failed is closed, by the first close if one came before,
and its transport is cut; it has sent no barrier, was shown to no handler, stores nothing about a
device, and has recorded its failure once and nothing else. One whose handshake has succeeded has
sent one barrier, with the settled version, and has recorded no failure. -/
theorem failed_handshake_leaves_nothing (a : Acceptor σ) (schedule : List (Occurrence σ)) (i : Nat)
    (c : Connection) (hc : ((opened a).play schedule).acceptor.connections[i]? = some c) :
    ∃ H, ((opened a).play schedule).histories[i]? = some H ∧
      (∀ error, c.engine.outcome? = some (.failure error) →
        c.context.state = .closed ∧ c.transport.isDisconnected ∧
        c.context.closedWith = some (H.closes.headD false) ∧
        c.transport.traffic.barriers = H.opened.traffic.barriers ∧ H.visits = [] ∧
        c.context.features = none ∧ c.context.node = none ∧
        ∀ device event, H.recorded device event =
          if device = H.opened.remote ∧ event = .handshakeFailed then 1 else 0) ∧
      (∀ version features, c.engine.outcome? = some (.success version features) →
        c.engine.machine.negotiation.settled = some version ∧
        c.transport.traffic.barriers = H.opened.traffic.barriers ++ [⟨version, 0⟩] ∧
        ∀ device, H.recorded device .handshakeFailed = 0) := by
  have hv := (consistent_opened a).play schedule
  obtain ⟨hi, -⟩ := List.getElem?_eq_some_iff.1 hc
  obtain ⟨H, hH⟩ : ∃ H, ((opened a).play schedule).histories[i]? = some H :=
    ⟨_, List.getElem?_eq_getElem (hv.length ▸ hi)⟩
  have h := Session.accounted_of_lives (hv.lives i c H hc hH)
  have hstands {outcome : Outcome} (ho : c.engine.outcome? = some outcome) :
      Session.Stands (((opened a).play schedule).acceptor.join c) H (some outcome) :=
    Engine.outcome_of_outcome? ho ▸ h.stands
  refine ⟨H, hH, fun error ho => ?_, fun version features ho => ?_⟩
  · have hf : Session.Failed _ H := hstands ho
    exact ⟨hf.closed, h.regular.cut hf.closed, hf.closedWith, hf.barriers, hf.visits, hf.features,
      hf.node, hf.recorded⟩
  · have hs : Session.Succeeded version _ H := hstands ho
    have hsettled := h.regular.sound.faithful version features (Engine.outcome_of_outcome? ho)
    exact ⟨hsettled, hs.barriers, hs.recorded⟩

def station : Acceptor Limiter where
  capabilities := .fourOne
  bitmapMode := true
  limiter := .fixed true 0

/-- A connection that is closed from outside while its handshake waits for the first HELLO. -/
def cutShort : List (Occurrence Limiter) :=
  [.accept { remote := "10.0.0.9:6653" }, .act 0 .work, .act 0 (.move (.close true)),
    .act 0 (.move (.handshake (.tell .connectionLost))), .act 0 .work]

theorem failed_handshake_leaves_nothing_cut_short :
    ∃ c, ((opened station).play cutShort).acceptor.connections[0]? = some c ∧
      c.engine.outcome? = some (.failure .connectionClosed) ∧ c.context.state = .closed ∧
      ∃ H, ((opened station).play cutShort).histories[0]? = some H ∧ H.closes = [true] ∧
        c.context.closedWith = some (H.closes.headD false) ∧ H.visits = [] ∧
        H.recorded "10.0.0.9:6653" .handshakeFailed = 1 := by
  obtain ⟨H, hH, hf, -⟩ := failed_handshake_leaves_nothing station cutShort 0 _ rfl
  obtain ⟨hs, -, hclosed, -, hv, -, -, hr⟩ := hf .connectionClosed rfl
  have hcloses : H.closes = [true] := by
    cases hH
    rfl
  have hremote : H.opened.remote = "10.0.0.9:6653" := by
    cases hH
    rfl
  exact ⟨_, rfl, rfl, hs, H, hH, hcloses, hclosed, hv, by rw [hr, hremote]; rfl⟩

/-- Two HELLOs of one connection, of which the first gets through and the second does not. -/
def halfHeard : List (Occurrence Limiter) :=
  [.accept { remote := "10.0.0.9:6653", helloPlan := .deferred }, .act 0 .work,
    .act 0 (.respond (.hello 0 (.ok ()))), .act 0 .work,
    .act 0 (.move (.handshake (.tell (.hello ⟨3, 1, []⟩)))), .act 0 .work,
    .act 0 (.respond (.hello 1 (.error .connectionClosed))), .act 0 .work]

example : ((opened station).play halfHeard).acceptor.connections.map (·.engine.outcome?) =
    [some (.failure (.sendFailed .hello 22 .connectionClosed))] := rfl

end Service

end SwitchSession
