import SwitchSession.Proofs.Session.Course
import SwitchSession.Proofs.Session.Service

namespace SwitchSession

namespace Trail

theorem Connected.connects {t : Trail} (h : t.Connected node) : t.connects = [node] := by
  obtain ⟨hl, he, hl', -⟩ := h
  rw [Trail.connects, hl, List.filterMap_append, he]
  exact congrArg (node :: ·) hl'

/-- What stands before the device in the log, wherever one finds it there. -/
theorem Connected.disconnects_iff {t : Trail} (h : t.Connected node)
    (hl : t.log = before ++ .device (.connect other) :: after) :
    Disconnects before ↔ t.interruptions ≠ [] := by
  obtain ⟨hl₀, he, hl', hi, -⟩ := h
  rw [← hi]
  rw [hl₀, List.append_eq_append_iff] at hl
  have hmem {log : List LogRecord} (h : log.filterMap LogRecord.connected? = []) (node : NodeId) :
      .device (.connect node) ∉ log := fun hm => by
    have := List.filterMap_eq_nil_iff.1 h _ hm
    cases this
  rcases hl with ⟨as, rfl, h⟩ | ⟨as, rfl, h⟩
  · cases as with
    | nil => rw [List.append_nil]
    | cons r as =>
      obtain ⟨rfl, rfl⟩ := List.cons.inj h
      exact absurd (by simp) (hmem hl' other)
  · cases as with
    | nil => rw [List.append_nil]
    | cons r as =>
      obtain ⟨rfl, rfl⟩ := List.cons.inj h
      exact absurd (by simp) (hmem he other)

/-- What can be said of the devices of a trail, be there one or none. -/
structure Sound (t : Trail) : Prop where
  connects : t.connects.length = if t.answers = [.ok .mayContinue] then 1 else 0
  sightings : ∀ state ∈ t.sightings, state = .working ↔ t.interruptions = []
  log : ∀ before device after, t.log = before ++ .device (.connect device) :: after →
    (Disconnects before ↔ t.interruptions ≠ [])

theorem Unconnected.sound {t : Trail} {as : List HandlerAnswer} (h : t.Unconnected rs as)
    (ha : as ≠ [.ok .mayContinue]) : t.Sound where
  connects := by
    rw [h.connects, h.answers, if_neg ha]
    rfl
  sightings state hs := by
    rw [h.sightings] at hs
    cases hs
  log before device after hl := by
    have := h.connects
    rw [Trail.connects, hl, List.filterMap_append] at this
    cases (List.append_eq_nil_iff.1 this).2

theorem Connected.sound {t : Trail} (h : t.Connected node) : t.Sound where
  connects := by
    rw [h.connects]
    obtain ⟨-, -, -, -, -, -, ha, -⟩ := h
    rw [ha, if_pos rfl]
    rfl
  sightings state hs := by
    obtain ⟨-, -, -, -, hv, hw, -, -⟩ := h
    rw [hv, List.mem_singleton] at hs
    rw [hs, hw]
  log _ _ _ hl := h.disconnects_iff hl

end Trail

theorem Course.sound (h : Course b p t) : t.Sound := by
  cases h with
  | negotiating _ hq => exact hq.sound (by simp)
  | failed _ hr => exact hr.sound (by simp)
  | flushing _ hq => exact hq.sound (by simp)
  | handling _ _ hq => exact hq.sound (by simp)
  | dropped _ hq => exact hq.sound (by simp)
  | accepted _ ht => exact ht.sound
  | refused _ _ ha hr =>
    refine hr.sound ?_
    rintro ⟨⟩
    cases ha

theorem Session.History.mem_sightings {H : History σ} {x : Step σ} (hx : x ∈ H.steps)
    (hc : x.trail.connects ≠ []) : x.after.context.state ∈ H.trail.sightings := by
  obtain ⟨node, hn⟩ := List.exists_mem_of_ne_nil _ hc
  exact List.mem_flatMap.2 ⟨x, hx, List.mem_map.2 ⟨node, hn, rfl⟩⟩

namespace Service

variable [Admission σ]

/-- However the acts of all connections are interleaved: a connection counts as created the devices
that it writes down as connected, of which there is one if its handler has let it continue and none
otherwise. The connection works at that moment unless it was closed after its handler was called and
before the handler answered, by whomever; and just then the log has `Connect` after `Disconnect`. -/
theorem connected_works_unless_interrupted (a : Acceptor σ) (schedule : List (Occurrence σ))
    (i : Nat) (c : Connection)
    (hc : ((opened a).play schedule).acceptor.connections[i]? = some c) :
    ∃ H, ((opened a).play schedule).histories[i]? = some H ∧
      (∀ device, H.recorded device .created = H.trail.connects.countP (·.text = device)) ∧
      (H.trail.connects.length = if H.trail.answers = [.ok .mayContinue] then 1 else 0) ∧
      (∀ x ∈ H.steps, x.trail.connects ≠ [] →
        (x.after.context.state = .working ↔ H.trail.interruptions = [])) ∧
      (∀ before device after, H.trail.log = before ++ .device (.connect device) :: after →
        (Disconnects before ↔ H.trail.interruptions ≠ [])) ∧
      (c.context.state = .closed ↔ Disconnects H.trail.log) := by
  obtain ⟨H, hH, hl⟩ := exists_lives a schedule hc
  have h := Session.charted_of_lives hl
  have ht := h.course.sound
  exact ⟨H, hH, h.created, ht.connects, fun x hx hn =>
    ht.sightings _ (Session.History.mem_sightings hx hn), ht.log, h.closed⟩

/-- A handler that closes the connection and then lets it continue. -/
def closedInHand : List (Occurrence Limiter) :=
  [.accept { remote := "10.0.0.9:6653" }, .act 0 .work,
    .act 0 (.move (.handshake (.tell (.hello ⟨4, 1, []⟩)))), .act 0 .work,
    .act 0 (.attend { closes := some true })]

theorem connected_works_unless_interrupted_closed_in_hand :
    ∃ c, ((opened station).play closedInHand).acceptor.connections[0]? = some c ∧
      c.context.state = .closed ∧
      ∃ H, ((opened station).play closedInHand).histories[0]? = some H ∧
        H.trail.interruptions = [true] ∧ H.recorded "openflow:1" .created = 1 ∧
        ∃ before device after, H.trail.log = before ++ .device (.connect device) :: after ∧
          Disconnects before := by
  obtain ⟨H, hH, hr, -, -, hl, hs⟩ :=
    connected_works_unless_interrupted station closedInHand 0 _ rfl
  have hi : H.trail.interruptions = [true] := by
    cases hH
    rfl
  have hlog : H.trail.log =
      [.device (.handshakeSuccessful (NodeId.ofDatapath 1) "10.0.0.9:6653" 4 0),
        .device (.disconnect "openflow:1" true)] ++
          .device (.connect (NodeId.ofDatapath 1)) :: [] := by
    cases hH
    rfl
  have hdisconnects := (hl _ _ _ hlog).2 (by rw [hi]; decide)
  refine ⟨_, rfl, hs.2 ?_, H, hH, hi, ?_, _, _, _, hlog, hdisconnects⟩
  · rw [hlog]
    exact disconnects_append.2 (.inl hdisconnects)
  · rw [hr, Trail.connects, hlog]
    rfl

end Service

end SwitchSession
