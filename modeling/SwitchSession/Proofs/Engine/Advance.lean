import SwitchSession.Proofs.Engine.Notices
import SwitchSession.Proofs.Engine.Turn

namespace SwitchSession

namespace Handshake

structure Advances (h h' : Handshake σ) (ns : List Notice) : Prop where
  sound : h'.engine.Sound
  told : h'.engine.machine.notices = h.engine.machine.notices ++ ns
  machine : h.engine.progress ≠ .running → h'.engine.machine = h.engine.machine
  progress : h.engine.progress ≠ .running → h'.engine.progress = h.engine.progress
  transport : h.transport.Continues h'.transport

theorem Advances.refl {h : Handshake σ} (hs : h.engine.Sound) : h.Advances h [] :=
  ⟨hs, (List.append_nil _).symm, fun _ => rfl, fun _ => rfl, (Transport.Follows.refl _).continues⟩

theorem Advances.trans {h h₁ h₂ : Handshake σ} (ha : h.Advances h₁ ns) (ha' : h₁.Advances h₂ more) :
    h.Advances h₂ (ns ++ more) where
  sound := ha'.sound
  told := by rw [ha'.told, ha.told, List.append_assoc]
  machine hp := (ha'.machine (ha.progress hp ▸ hp)).trans (ha.machine hp)
  progress hp := (ha'.progress (ha.progress hp ▸ hp)).trans (ha.progress hp)
  transport := ha.transport.trans ha'.transport

/-- Nothing is told before the handshake ends, and its end is told in full. -/
theorem Advances.quiet_or_ends {h : Handshake σ} (ha : h.Advances h' ns) (hs : h.engine.Sound) :
    ns = [] ∧ h'.engine.machine.outcome = h.engine.machine.outcome ∨
      h.engine.machine.outcome = none ∧
        ∃ outcome, h'.engine.machine.outcome = some outcome ∧ ns = outcome.notices := by
  have ht := ha.told
  cases ho : h.engine.machine.outcome with
  | some outcome =>
    have hm := ha.machine (hs.not_running ho)
    rw [hm, List.self_eq_append_right] at ht
    exact .inl ⟨ht, by rw [hm, ho]⟩
  | none =>
    rw [Machine.notices, Machine.notices, ho] at ht
    cases ho' : h'.engine.machine.outcome with
    | none =>
      rw [ho'] at ht
      exact .inl ⟨ht.symm, rfl⟩
    | some outcome =>
      rw [ho'] at ht
      exact .inr ⟨rfl, outcome, rfl, ht.symm⟩

theorem Reads.advances {h : Handshake σ} (hr : h.Reads h' ns) (hs : h.engine.Sound) :
    h.Advances h' ns where
  sound := hr.sound hs
  told := by
    rw [← hr.notices hs, Machine.notices, hr.outcome_eq_none hs]
    rfl
  machine hp := absurd hr.running hp
  progress hp := absurd hr.running hp
  transport := by
    refine ⟨hr.remote, ?_, ?_, ?_⟩
    · simp only [Transport.traffic, hr.barriers]
    · simp only [Transport.isDisconnected, hr.disconnects, imp_self]
    · simp only [Transport.barrierReply?, hr.barriers, imp_self, implies_true]

theorem Keeps.advances {h : Handshake σ} (hk : h.Keeps h') (hs : h.engine.Sound) :
    h.Advances h' [] where
  sound := hk.idles.sound hs
  told := by rw [hk.machine, List.append_nil]
  machine _ := hk.machine
  progress _ := hk.progress
  transport := hk.transport.continues

variable [Admission σ]

theorem move?_advances {h : Handshake σ} (hm : h.move? m = some (h', ns)) (ha : m ≠ .acknowledge)
    (hs : h.engine.Sound) : h.Advances h' ns := by
  rcases move?_reads_or_keeps hm ha with hr | ⟨hk, rfl⟩
  · exact hr.advances hs
  · exact hk.advances hs

theorem Works.advances {h : Handshake σ} (hw : h.Works h' ns) (hs : h.engine.Sound) :
    h.Advances h' ns := by
  induction hw with
  | done => exact .refl hs
  | read hr _ ih =>
    have ha := (read?_reads hr).advances hs
    exact ha.trans (ih ha.sound)
  | deliver i hd _ ih =>
    have ha := (deliver?_keeps hd).advances hs
    exact ha.trans (ih ha.sound)

omit [Admission σ] in
/-- Only the listener ends an engine that has told it of the outcome. -/
theorem Reads.progress_ne_finished {h : Handshake σ} (hr : h.Reads h' ns) :
    h'.engine.progress ≠ .finished := by
  rw [hr.progress]
  split <;> decide

theorem move?_progress {h : Handshake σ} (hm : h.move? m = some (h', ns)) (ha : m ≠ .acknowledge)
    (hp : h'.engine.progress = .finished) : h.engine.progress = .finished := by
  rcases move?_reads_or_keeps hm ha with hr | ⟨hk, -⟩
  · exact absurd hp hr.progress_ne_finished
  · rw [← hk.progress, hp]

theorem Works.progress {h : Handshake σ} (hw : h.Works h' ns)
    (hp : h'.engine.progress = .finished) : h.engine.progress = .finished := by
  induction hw with
  | done => exact hp
  | read hr _ ih => exact absurd (ih hp) (read?_reads hr).progress_ne_finished
  | deliver i hd _ ih => rw [← (deliver?_keeps hd).progress, ih hp]

end Handshake

end SwitchSession
