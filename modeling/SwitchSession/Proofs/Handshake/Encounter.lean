import Mathlib.Data.List.Induction
import Mathlib.Logic.Function.Basic
import SwitchSession.Proofs.Handshake.DeadEnds
import SwitchSession.Proofs.Handshake.Success

namespace SwitchSession

namespace CapabilitySet

/-- The version to agree on with a peer that sends its whole set as a bitmap. -/
def common? (c peer : CapabilitySet) : Option Version := c.shared? [peer.bitmap]

theorem common?_eq_some_iff {c peer : CapabilitySet} : c.common? peer = some v ↔
    IsGreatest {w | w ∈ c.versions ∧ w ∈ peer.versions} v := by
  rw [common?, shared?_eq_some_iff]
  simp [bitmap, VersionBitmap.supports_ofVersions]

theorem common?_eq_none_iff {c peer : CapabilitySet} :
    c.common? peer = none ↔ ∀ w ∈ c.versions, w ∉ peer.versions := by
  rw [common?, shared?_eq_none_iff]
  simp [bitmap, ← Bool.not_eq_true, VersionBitmap.supports_ofVersions]

end CapabilitySet

theorem Hello.bitmaps?_of_elements {h : Hello} (he : h.elements = [.versionBitmap b]) :
    h.bitmaps? = some [b] := by
  simp [bitmaps?, he]

/-- What an event can be that comes from a peer speaking `peer` or from the completions `issued`. -/
def Event.Facing (peer : CapabilitySet) (issued : List (Xid × Continuation)) : Event → Prop
  | .hello h => h.elements = [.versionBitmap peer.bitmap]
  | .helloSent xid result next => result = .ok () ∧ (xid, next) ∈ issued
  | .connectionLost => False
  | _ => True

/-- Completions that only wait or confirm the common version. -/
def Concordant (v? : Option Version) (issued : List (Xid × Continuation)) : Prop :=
  ∀ x ∈ issued, x.2 = .wait ∨ ∃ v, v? = some v ∧ x.2 = .settle v

namespace Machine

/-- The moves of a negotiation with a peer of the set `peer`. -/
inductive Concurs (m : Machine) (peer : CapabilitySet) : Event → Turn → Prop
  | opens (hp : m.negotiation.proposed = none) (ht : m.Sends m.capabilities.highest .wait t) :
      Concurs m peer .initiate t
  | refuses (hv : m.capabilities.common? peer = none) : Concurs m peer (.hello h)
      { machine := m.hearing h, failure := some (.noCommonVersion
        "no common version found in version bitmap") }
  | answers (hv : m.capabilities.common? peer = some v) (hp : m.negotiation.proposed = none)
      (ht : (m.hearing h).Sends v (.settle v) t) : Concurs m peer (.hello h) t
  | agrees (hv : m.capabilities.common? peer = some v) (ht : (m.taking e).Settles v t) :
      Concurs m peer e t

theorem hearing_bitmapMode (m : Machine) (he : h.elements = [.versionBitmap b]) :
    (m.hearing h).negotiation.bitmapMode = m.negotiation.bitmapMode := by
  simp [hearing, Hello.bitmaps?_of_elements he]

theorem taking_bitmapMode (m : Machine) (hf : e.Facing peer issued) :
    (m.taking e).negotiation.bitmapMode = m.negotiation.bitmapMode := by
  cases e with
  | hello => exact m.hearing_bitmapMode hf
  | _ => rfl

theorem Negotiates.concurs {m : Machine} {issued : List (Xid × Continuation)}
    (hn : m.Negotiates e t) (hm : m.negotiation.bitmapMode = true) (hf : e.Facing peer issued)
    (hi : Concordant (m.capabilities.common? peer) issued) : m.Concurs peer e t := by
  have hstep {h : Hello} (he : h.elements = [.versionBitmap peer.bitmap]) :
      (m.hearing h).negotiation.bitmapMode ≠ false := by
    rw [hearing_bitmapMode m he, hm]
    decide
  cases hn with
  | opens hp ht => exact .opens hp ht
  | sharesNone _ hb hv =>
    cases (Hello.bitmaps?_of_elements hf).symm.trans hb
    exact .refuses hv
  | answersBitmap _ hb hv hp ht =>
    cases (Hello.bitmaps?_of_elements hf).symm.trans hb
    exact .answers hv hp ht
  | agrees _ hb hv _ ht =>
    cases (Hello.bitmaps?_of_elements hf).symm.trans hb
    exact .agrees hv ht
  | refuses hb => exact absurd hb (hstep hf)
  | answersVersion hb => exact absurd hb (hstep hf)
  | weighs hb => exact absurd hb (hstep hf)
  | resumes =>
    rcases hi _ hf.2 with hk | ⟨_, _, hk⟩ <;> cases hk
  | confirms ht =>
    rcases hi _ hf.2 with hk | ⟨v, hv, hk⟩
    · cases hk
    · cases hk
      exact .agrees hv ht

/-- What a move leaves behind unless it fails: one HELLO more, or the common version. -/
theorem Concurs.leaves {m : Machine} (h : m.Concurs peer e t) (hf : t.failure = none)
    (hs : m.negotiation.settled = none) :
    (t.machine.negotiation.settled = none ∧ m.negotiation.proposed = none ∧
        t.machine.negotiation.proposed.isSome ∧
        ∃ x, t.issued = [x] ∧ Concordant (m.capabilities.common? peer) [x]) ∨
      (t.machine.negotiation.settled = m.capabilities.common? peer ∧ t.issued = [] ∧
        t.machine.negotiation.settled.isSome) := by
  cases h with
  | opens hp ht =>
    cases ht with
    | sent => exact .inl ⟨hs, hp, rfl, _, rfl, by simp [Concordant]⟩
    | exhausted => cases hf
  | refuses => cases hf
  | answers hv hp ht =>
    cases ht with
    | sent => exact .inl ⟨hs, hp, rfl, _, rfl, by simp [Concordant, hv]⟩
    | exhausted => cases hf
  | agrees hv ht =>
    cases ht with
    | requested => exact .inr ⟨hv.symm, rfl, rfl⟩
    | exhausted => cases hf

theorem Concurs.of_failure {m : Machine} (h : m.Concurs peer e t) (hx : (m.taking e).HasRoom)
    (hf : t.failure = some error) : e.heard ≠ [] ∧
      error = .noCommonVersion "no common version found in version bitmap" ∧
      t.machine.negotiation.settled = m.negotiation.settled := by
  cases h with
  | opens _ ht => rw [ht.goes hx.lt] at hf; cases hf
  | refuses hv =>
    cases hf
    exact ⟨List.cons_ne_nil _ _, rfl, rfl⟩
  | answers _ _ ht => rw [ht.goes hx.lt] at hf; cases hf
  | agrees _ ht => rw [ht.goes hx.lt] at hf; cases hf

theorem Concurs.heard_eq_nil {m : Machine} (h : m.Concurs peer e t) (hf : t.failure = none)
    (hv : m.capabilities.common? peer = none) : e.heard = [] := by
  cases h with
  | opens => rfl
  | refuses => cases hf
  | answers hv' => rw [hv] at hv'; cases hv'
  | agrees hv' => rw [hv] at hv'; cases hv'

end Machine

namespace Run

variable [Admission σ] {r : Run σ} {e : Event} {c peer : CapabilitySet}

/-- Events of a machine whose peer speaks `peer` and whose HELLOs all get through. -/
def Faces (peer : CapabilitySet) (r : Run σ) (e : Event) : Prop := e.Facing peer r.issued

/-- The HELLOs that reached the machine, whether it took them in or not. -/
def delivered (r : Run σ) : List Hello := r.calls.flatMap fun c => c.event.heard

theorem feed_delivered (r : Run σ) (e : Event) :
    (r.feed e).delivered = r.delivered ++ e.heard := by
  simp [delivered, feed, call]

theorem length_issued (r : Run σ) : r.issued.length = r.hellos.length := by
  unfold issued hellos
  induction r.actions with
  | nil => rfl
  | cons a as ih =>
    cases a with
    | sendHello => simpa [Rehearsal.sentHello?, Action.hello?] using ih
    | _ => exact ih

theorem Under.elements_of_mem_hellos {admits : Run σ → Event → Prop}
    (hr : r.Under c bitmapMode admits) : ∀ h ∈ r.hellos, h.elements = [.versionBitmap c.bitmap] := by
  induction hr using Under.message_induction with
  | start => rintro _ ⟨⟩
  | silent _ _ hq ih => exact hq.hellos ▸ ih
  | @utters r e t hr _ hu ih =>
    have hc : (r.machine.taking e).capabilities = c :=
      (r.machine.taking_capabilities e).trans hr.capabilities
    intro h hh
    rw [hu.hellos, List.mem_append] at hh
    rcases hh with hh | hh
    · exact ih h hh
    · cases hu.speaks with
      | proposes => cases List.mem_singleton.1 hh; exact hc ▸ rfl
      | settles => cases hh
      | meets => cases List.mem_singleton.1 hh; exact hc ▸ rfl

/-- A machine that faces a peer has agreed with it on the common version, or has a single HELLO out
that does not ask for less. -/
structure Concords (r : Run σ) (peer : CapabilitySet) : Prop where
  bitmapMode : r.machine.negotiation.bitmapMode = true
  settled : r.machine.negotiation.settled.isSome →
    r.machine.negotiation.settled = r.machine.capabilities.common? peer
  completions : Concordant (r.machine.capabilities.common? peer) r.issued
  atMostOne : r.issued.length ≤ 1
  unproposed : r.machine.phase.isTerminal = false → r.machine.negotiation.settled = none →
    r.machine.negotiation.proposed = none → r.issued = []

theorem Concords.stays (h : r.Concords peer) (hst : r.Stays (r.feed e)) :
    (r.feed e).Concords peer := by
  refine ⟨?_, ?_, ?_, ?_, ?_⟩
  · rw [hst.negotiation]
    exact h.bitmapMode
  · rw [hst.negotiation, feed_capabilities]
    exact h.settled
  · rw [hst.issued, feed_capabilities]
    exact h.completions
  · rw [hst.issued]
    exact h.atMostOne
  · rw [hst.negotiation, hst.issued]
    exact fun ht => h.unproposed (hst.running ht)

theorem Concords.moves (h : r.Concords peer) (hm : r.Moves e t (r.feed e)) (hf : r.Faces peer e)
    (hx : (r.machine.taking e).HasRoom) : (r.feed e).Concords peer := by
  have hc := hm.negotiates.concurs h.bitmapMode hf h.completions
  have hb : (r.feed e).machine.negotiation.bitmapMode = true := by
    rw [hm.negotiation, hm.negotiates.keeps.bitmapMode, r.machine.taking_bitmapMode hf]
    exact h.bitmapMode
  cases hfail : t.failure with
  | some error =>
    obtain ⟨_, _, hs⟩ := hc.of_failure hx hfail
    obtain ⟨hi, hp⟩ := hm.failed (by simp [hfail])
    refine ⟨hb, fun hn => ?_, ?_, hi ▸ h.atMostOne, fun ht => ?_⟩
    · rw [hm.negotiation, hs, hm.unsettled] at hn
      cases hn
    · rw [hi, feed_capabilities]
      exact h.completions
    · rw [hp] at ht
      cases ht
  | none =>
    have hi := hm.issued hfail
    rcases hc.leaves hfail hm.unsettled with ⟨hs, hp, hq, x, hx, hw⟩ | ⟨hs, hx, hsome⟩
    · have hnone := h.unproposed hm.running hm.unsettled hp
      rw [hnone, hx, List.nil_append] at hi
      refine ⟨hb, fun hn => ?_, ?_, hi ▸ le_refl 1, fun _ _ hn => ?_⟩
      · rw [hm.negotiation, hs] at hn
        cases hn
      · rw [hi, feed_capabilities]
        exact hw
      · rw [hm.negotiation] at hn
        rw [hn] at hq
        cases hq
    · rw [hx, List.append_nil] at hi
      refine ⟨hb, fun _ => ?_, ?_, hi ▸ h.atMostOne, fun _ hn => ?_⟩
      · rw [hm.negotiation, feed_capabilities]
        exact hs
      · rw [hi, feed_capabilities]
        exact h.completions
      · rw [hm.negotiation] at hn
        rw [hn] at hsome
        cases hsome

theorem Under.concords (hr : r.Under c true (Faces peer)) : r.Concords peer := by
  induction hr with
  | start => exact ⟨rfl, by rintro ⟨⟩, by rintro _ ⟨⟩, Nat.zero_le 1, fun _ _ _ => rfl⟩
  | @feed r e hr hf ih =>
    rcases r.stays_or_moves e with hst | ⟨t, hm⟩
    · exact ih.stays hst
    · exact ih.moves hm hf (hr.hasRoom hm.running e)

theorem Concords.settled_eq_none (h : r.Concords peer)
    (hd : r.machine.capabilities.common? peer = none) : r.machine.negotiation.settled = none := by
  cases hs : r.machine.negotiation.settled with
  | none => rfl
  | some v =>
    have hv := h.settled (by simp [hs])
    rw [hs, hd] at hv
    cases hv

theorem Concords.heard_eq_nil (h : r.Concords peer) (hf : r.Faces peer e)
    (hd : r.machine.capabilities.common? peer = none) (hh : r.machine.Handles granted e t)
    (hfail : t.failure = none) : e.heard = [] := by
  rcases hh.passes with ⟨_, hn⟩ | ⟨_, _, he | hs⟩
  · exact (hn.concurs h.bitmapMode hf h.completions).heard_eq_nil hfail hd
  · exact he
  · rw [h.settled_eq_none hd] at hs
    cases hs

theorem Concords.of_failure (h : r.Concords peer) (hf : r.Faces peer e)
    (hp : r.machine.pendingXid = none) (hx : (r.machine.taking e).HasRoom)
    (hh : r.machine.Handles granted e t) (hfail : t.failure = some error) :
    e.heard ≠ [] ∧ error = .noCommonVersion "no common version found in version bitmap" := by
  have hpending (x : Xid) : r.machine.pendingXid ≠ some x := by simp [hp]
  cases hh with
  | ignores => cases hfail
  | negotiates _ hn =>
    obtain ⟨he, herror, _⟩ :=
      (hn.concurs h.bitmapMode hf h.completions).of_failure hx hfail
    exact ⟨he, herror⟩
  | unsent => cases hf.1
  | unanswered hxid => exact absurd hxid (hpending _)
  | unasked hxid => exact absurd hxid (hpending _)
  | denied hxid => exact absurd hxid (hpending _)
  | admits hxid => exact absurd hxid (hpending _)
  | loses => exact hf.elim

/-- Without a common version the first HELLO that comes in is the end. -/
theorem Under.outcome_of_disjoint (hr : r.Under c true (Faces peer))
    (hd : c.common? peer = none) : r.machine.outcome =
      if r.delivered = [] then none
      else some (.failure (.noCommonVersion "no common version found in version bitmap")) := by
  induction hr with
  | start => rfl
  | @feed r e hr hf ih =>
    have hc := hr.concords
    rw [← hr.capabilities] at hd
    have hs := hc.settled_eq_none hd
    have h := r.reacts e
    rw [feed_delivered]
    generalize (r.feed e).machine = m at h ⊢
    generalize (r.call e).actions = as at h
    cases h with
    | ended ht =>
      have hne : r.delivered ≠ [] := by
        intro hn
        have ho : r.machine.outcome.isSome := hr.decided ▸ ht
        rw [ih, if_pos hn] at ho
        cases ho
      rw [ih, if_neg hne, if_neg (by simp [hne])]
    | goes ht hh hfail =>
      have hrun := hr.decided.running ht
      have hnil : r.delivered = [] := by
        by_contra hne
        rw [hrun.outcome, if_neg hne] at ih
        cases ih
      rcases hh.quiet_or_success hrun with hq | ⟨v, features, _, _, ha⟩
      · rw [hq.running.outcome, hnil, hc.heard_eq_nil hf hd hh hfail, List.append_nil, if_pos rfl]
      · -- a success takes a settled version
        obtain ⟨_, _, _, hv, _⟩ := hh.of_notifySuccess hfail (ha ▸ List.mem_singleton_self _)
        rw [hs] at hv
        cases hv
    | fails ht hh hfail =>
      obtain ⟨he, rfl⟩ :=
        hc.of_failure hf (hr.asks.pendingXid_eq_none hs) (hr.hasRoom ht e) hh hfail
      rw [if_neg (by simp [he])]
      rfl

end Run

inductive Side
  | left
  | right
deriving DecidableEq

def Side.other : Side → Side
  | .left => .right
  | .right => .left

/-- Two handshakes, each with the other as its peer. -/
structure Encounter (σ : Type) where
  run : Side → Run σ

namespace Encounter

/-- What one side can meet with next. The messages that it hears of are named by their place in the
order of issue, so that any can come at any time after it was sent, again or not at all. -/
inductive Move
  | initiate
  | hear (index : Nat)
  | complete (index : Nat)
  | answer (xid : Xid) (result : Except TransportError FeatureSet)

variable [Admission σ]

def start (sets : Side → CapabilitySet) (limiters : Side → σ) : Encounter σ :=
  ⟨fun side => .fresh (sets side) true (limiters side)⟩

def event? (n : Encounter σ) (side : Side) : Move → Option Event
  | .initiate => some .initiate
  | .hear index => (n.run side.other).hellos[index]?.map .hello
  | .complete index => (n.run side).issued[index]?.map fun x => .helloSent x.1 (.ok ()) x.2
  | .answer xid result => some (.features xid result)

def step (n : Encounter σ) (move : Side × Move) : Encounter σ :=
  match n.event? move.1 move.2 with
  | some e => ⟨Function.update n.run move.1 ((n.run move.1).feed e)⟩
  | none => n

def play (n : Encounter σ) (moves : List (Side × Move)) : Encounter σ := moves.foldl step n

/-- Each side runs as a machine that faces the other's set. -/
def Fair (sets : Side → CapabilitySet) (n : Encounter σ) : Prop :=
  ∀ side, (n.run side).Under (sets side) true (Run.Faces (sets side.other))

theorem Fair.faces {sets : Side → CapabilitySet} {n : Encounter σ} (h : n.Fair sets)
    (he : n.event? side move = some e) : (n.run side).Faces (sets side.other) e := by
  cases move with
  | initiate => cases he; trivial
  | hear index =>
    obtain ⟨hello, hh, rfl⟩ := Option.map_eq_some_iff.1 he
    exact (h side.other).elements_of_mem_hellos hello (List.mem_of_getElem? hh)
  | complete index =>
    obtain ⟨x, hx, rfl⟩ := Option.map_eq_some_iff.1 he
    exact ⟨rfl, List.mem_of_getElem? hx⟩
  | answer => cases he; trivial

theorem Fair.step {sets : Side → CapabilitySet} {n : Encounter σ} (h : n.Fair sets)
    (move : Side × Move) : (n.step move).Fair sets := by
  cases he : n.event? move.1 move.2 with
  | none => simpa only [Encounter.step, he] using h
  | some e =>
    intro side
    simp only [Encounter.step, he]
    by_cases hside : side = move.1
    · subst hside
      rw [Function.update_self]
      exact (h _).feed (h.faces he)
    · rw [Function.update_of_ne hside]
      exact h side

theorem fair_play (sets : Side → CapabilitySet) (limiters : Side → σ)
    (moves : List (Side × Move)) : ((start sets limiters).play moves).Fair sets := by
  induction moves using List.reverseRecOn with
  | nil => exact fun side => .start (limiters side)
  | append_singleton moves move ih =>
    rw [play, List.foldl_append]
    exact ih.step move

def shared (sets : Side → CapabilitySet) : Set Version := {v | ∀ side, v ∈ (sets side).versions}

theorem shared_eq (sets : Side → CapabilitySet) (side : Side) :
    shared sets = {v | v ∈ (sets side).versions ∧ v ∈ (sets side.other).versions} := by
  ext v
  constructor
  · exact fun h => ⟨h side, h side.other⟩
  · rintro ⟨hv, hv'⟩ s
    cases side <;> cases s <;> assumption

theorem Fair.isGreatest {sets : Side → CapabilitySet} {n : Encounter σ} (h : n.Fair sets)
    (hs : (n.run side).machine.negotiation.settled = some v) : IsGreatest (shared sets) v := by
  have hv := (h side).concords.settled (by simp [hs])
  rw [hs, (h side).capabilities] at hv
  rw [shared_eq sets side]
  exact CapabilitySet.common?_eq_some_iff.1 hv.symm

/-- Two sides in bitmap mode settle on nothing but the greatest version that both speak, hence on the
same, and neither sends a second HELLO. If they share none, neither settles, and each fails on the
first HELLO that comes in and not before. -/
theorem sides_agree (sets : Side → CapabilitySet) (limiters : Side → σ)
    (moves : List (Side × Move)) :
    let n := (start sets limiters).play moves
    (∀ side v, (n.run side).machine.negotiation.settled = some v → IsGreatest (shared sets) v) ∧
      (∀ v w, (n.run .left).machine.negotiation.settled = some v →
        (n.run .right).machine.negotiation.settled = some w → v = w) ∧
      (∀ side, (n.run side).hellos.length ≤ 1) ∧
      (shared sets = ∅ → ∀ side, (n.run side).machine.negotiation.settled = none ∧
        (n.run side).machine.outcome =
          if (n.run side).delivered = [] then none
          else some (.failure (.noCommonVersion "no common version found in version bitmap"))) := by
  intro n
  have h : n.Fair sets := fair_play sets limiters moves
  refine ⟨fun side v hv => h.isGreatest hv, fun v w hv hw => ?_, fun side => ?_, fun hd side => ?_⟩
  · exact (h.isGreatest hv).unique (h.isGreatest hw)
  · rw [← Run.length_issued]
    exact (h side).concords.atMostOne
  · have hnone : (sets side).common? (sets side.other) = none := by
      rw [CapabilitySet.common?_eq_none_iff]
      intro v hv hv'
      have hmem : v ∈ shared sets := by
        rw [shared_eq sets side]
        exact ⟨hv, hv'⟩
      rw [hd] at hmem
      exact hmem
    refine ⟨?_, (h side).outcome_of_disjoint hnone⟩
    apply (h side).concords.settled_eq_none
    rw [(h side).capabilities]
    exact hnone

/-- Both open with the highest version that they speak, and meet at the highest they share. -/
example :
    let sets : Side → CapabilitySet := fun side => match side with
      | .left => .fourOne
      | .right => ⟨[5, 1, 0], by decide, by decide⟩
    let n := (start sets fun _ => Limiter.unlimited).play
      [(.left, .initiate), (.right, .initiate), (.left, .hear 0), (.right, .complete 0),
        (.right, .hear 0), (.right, .hear 0)]
    (n.run .left).machine.negotiation.settled = some 1 ∧
      (n.run .right).machine.negotiation.settled = some 1 := by
  decide

end Encounter

end SwitchSession
