import SwitchSession.Proofs.Handshake.Negotiation
import SwitchSession.Proofs.Version.Choice

namespace SwitchSession

/-- A HELLO admits what its bitmaps support, where they are heeded, and what its header reaches. -/
def Hello.Admits (h : Hello) (bitmapMode : Bool) (v : Version) : Prop :=
  (bitmapMode = true ∧ ∃ bs, h.bitmaps? = some bs ∧ bs.any (·.supports v)) ∨ v ≤ h.version

/-- An open negotiation, seen from the HELLO heard last. What is proposed suits that HELLO, and the
completions that are still out agree with it, but for those that outlive bitmap mode. -/
structure CapabilitySet.Suits (c : CapabilitySet) (n : Negotiation) (last : Option Hello)
    (issued : List (Xid × Continuation)) : Prop where
  proposed : ∀ p, n.proposed = some p → p ∈ c.versions
  confirms : ∀ x ∈ issued, ∀ v, x.2 = .settle v → v ∈ c.versions
  unheard : last = none →
    (∀ p, n.proposed = some p → p = c.highest) ∧ ∀ x ∈ issued, x.2 = .wait
  byBitmap : ∀ h, last = some h → n.bitmapMode = true → ∃ bs p, h.bitmaps? = some bs ∧
    n.proposed = some p ∧ bs.any (·.supports p) ∧ ∀ x ∈ issued, x.2 = .wait ∨ x.2 = .settle p
  byVersion : ∀ h, last = some h → n.bitmapMode = false → ∃ p, n.proposed = some p ∧
    p ≤ h.version ∧ ∀ x ∈ issued, ∀ remote, x.2 = .compare remote → p ≤ remote

namespace CapabilitySet

theorem suits_fresh (c : CapabilitySet) (bitmapMode : Bool) : c.Suits { bitmapMode } none [] where
  proposed p h := by cases h
  confirms x hx := by cases hx
  unheard _ := ⟨fun p h => (by cases h), fun x hx => by cases hx⟩
  byBitmap h hh := by cases hh
  byVersion h hh := by cases hh

theorem Suits.last_eq_none (hs : Suits c n last issued) (hp : n.proposed = none) :
    last = none := by
  cases last with
  | none => rfl
  | some h =>
    cases hm : n.bitmapMode with
    | true =>
      obtain ⟨_, p, _, hp', _⟩ := hs.byBitmap h rfl hm
      rw [hp] at hp'
      cases hp'
    | false =>
      obtain ⟨p, hp', _⟩ := hs.byVersion h rfl hm
      rw [hp] at hp'
      cases hp'

/-- A comparison is out only where bitmaps no longer count. -/
theorem Suits.compare (hs : Suits c n last issued) (hx : (xid, .compare remote) ∈ issued) :
    ∃ h p, last = some h ∧ n.bitmapMode = false ∧ n.proposed = some p ∧ p ≤ h.version ∧
      p ≤ remote := by
  cases last with
  | none => cases (hs.unheard rfl).2 _ hx
  | some h =>
    cases hm : n.bitmapMode with
    | true =>
      obtain ⟨_, p, _, _, _, hi⟩ := hs.byBitmap h rfl hm
      rcases hi _ hx with hk | hk <;> cases hk
    | false =>
      obtain ⟨p, hp, hle, hi⟩ := hs.byVersion h rfl hm
      exact ⟨h, p, rfl, rfl, hp, hle, hi _ hx remote rfl⟩

/-- An agreement is out only on what was proposed, as long as bitmaps count. -/
theorem Suits.settle (hs : Suits c n last issued) (hx : (xid, .settle v) ∈ issued)
    (hm : n.bitmapMode = true) :
    ∃ h bs, last = some h ∧ h.bitmaps? = some bs ∧ n.proposed = some v ∧
      bs.any (·.supports v) := by
  cases last with
  | none => cases (hs.unheard rfl).2 _ hx
  | some h =>
    obtain ⟨bs, p, hb, hp, hv, hi⟩ := hs.byBitmap h rfl hm
    rcases hi _ hx with hk | hk
    · cases hk
    · cases hk
      exact ⟨h, bs, rfl, hb, hp, hv⟩

theorem Suits.open (hs : Suits c n none issued) (hp : n'.proposed = some c.highest) :
    c.Suits n' none (issued ++ [(xid, .wait)]) := by
  have hw : ∀ x ∈ issued ++ [(xid, .wait)], x.2 = .wait := by
    intro x hx
    rcases List.mem_append.1 hx with hx | hx
    · exact (hs.unheard rfl).2 x hx
    · rw [List.mem_singleton.1 hx]
  refine ⟨?_, ?_, fun _ => ⟨?_, hw⟩, fun h hh => ?_, fun h hh => ?_⟩
  · intro p h
    rw [hp] at h
    cases h
    exact c.highest_mem
  · intro x hx v hv
    rw [hw x hx] at hv
    cases hv
  · intro p h
    rw [hp] at h
    cases h
    rfl
  · cases hh
  · cases hh

theorem Suits.answerBitmap (hs : Suits c n none issued) (hm : n'.bitmapMode = true)
    (hb : h.bitmaps? = some bs) (hv : c.shared? bs = some v) (hp : n'.proposed = some v) :
    c.Suits n' (some h) (issued ++ [(xid, .settle v)]) := by
  have hg := shared?_eq_some_iff.1 hv
  have hw : ∀ x ∈ issued ++ [(xid, .settle v)], x.2 = .wait ∨ x.2 = .settle v := by
    intro x hx
    rcases List.mem_append.1 hx with hx | hx
    · exact .inl ((hs.unheard rfl).2 x hx)
    · rw [List.mem_singleton.1 hx]
      exact .inr rfl
  refine ⟨?_, ?_, fun h => by (cases h), ?_, ?_⟩
  · intro p h
    rw [hp] at h
    cases h
    exact hg.1.1
  · intro x hx w hk
    rcases hw x hx with h | h
    · rw [h] at hk; cases hk
    · rw [h] at hk; cases hk; exact hg.1.1
  · rintro _ ⟨⟩ _
    exact ⟨bs, v, hb, hp, hg.1.2, hw⟩
  · intro _ _ h
    rw [hm] at h
    cases h

theorem Suits.answerVersion (hs : Suits c n last issued) (hm : n'.bitmapMode = false)
    (hp : n'.proposed = some v) (hv : c.atMost? h.version = some v)
    (hn : next = .wait ∨ next = .compare h.version)
    (hl : ∀ p, n.proposed = some p → v ≤ p) :
    c.Suits n' (some h) (issued ++ [(xid, next)]) := by
  have hg := atMost?_eq_some_iff.1 hv
  refine ⟨?_, ?_, fun h => by (cases h), ?_, ?_⟩
  · intro p h
    rw [hp] at h
    cases h
    exact hg.1.1
  · intro x hx w hk
    rcases List.mem_append.1 hx with hx | hx
    · exact hs.confirms x hx w hk
    · rw [List.mem_singleton.1 hx] at hk
      rcases hn with rfl | rfl <;> cases hk
  · intro _ _ h
    rw [hm] at h
    cases h
  · rintro _ ⟨⟩ _
    refine ⟨v, hp, hg.1.2, ?_⟩
    rintro ⟨y, k⟩ hx remote hk
    rcases List.mem_append.1 hx with hx | hx
    · cases hk
      obtain ⟨_, p, _, _, hp', _, hr⟩ := hs.compare hx
      exact (hl p hp').trans hr
    · cases List.mem_singleton.1 hx
      rcases hn with rfl | rfl
      · cases hk
      · cases hk
        exact hg.1.2

end CapabilitySet

namespace Run

variable [Admission σ] {r r' : Run σ} {e : Event}

theorem suits_of_proposes
    (hs : r.machine.capabilities.Suits r.machine.negotiation r.heard.getLast? r.issued)
    (ha : r.Completes e) (hp : r.machine.Proposes e v next) (hn : n.proposed = some v)
    (hm : n.bitmapMode = (r.machine.taking e).negotiation.bitmapMode) :
    r.machine.capabilities.Suits n (r.heard ++ e.heard).getLast? (r.issued ++ [(xid, next)]) := by
  cases hp with
  | opens hp =>
    have hl := hs.last_eq_none hp
    rw [hl] at hs
    simpa [Event.heard, hl] using hs.open hn
  | answersBitmap hm' hb hv hp =>
    have hl := hs.last_eq_none hp
    rw [hl] at hs
    simpa [Event.heard] using hs.answerBitmap (hm.trans hm') hb hv hn
  | answersVersion hm' hp hv =>
    have hl : ∀ p, r.machine.negotiation.proposed = some p → v ≤ p := by
      intro p h
      rw [hp] at h
      cases h
    simpa [Event.heard] using hs.answerVersion (hm.trans hm') hn hv (.inr rfl) hl
  | @lowers _ _ p hm' hp hr hv =>
    have hl : ∀ q, r.machine.negotiation.proposed = some q → v ≤ q := by
      intro q hq
      rw [← Machine.ceiling_of_proposed hq]
      exact (CapabilitySet.atMost?_eq_some_iff.1 hv).1.2.trans hr.le
    simpa [Event.heard] using hs.answerVersion (hm.trans hm') hn hv (.inl rfl) hl
  | resumes hr =>
    -- a comparison that is out never finds the peer below the last proposal
    obtain ⟨_, p, _, _, hp, _, hle⟩ := hs.compare ha
    rw [Machine.ceiling_of_proposed hp] at hr
    exact absurd hle (not_le_of_gt hr)

theorem Under.suits (hr : r.Under c bitmapMode Completes)
    (hs : r.machine.negotiation.settled = none) (ht : r.machine.phase.isTerminal = false) :
    c.Suits r.machine.negotiation r.heard.getLast? r.issued := by
  induction hr with
  | start limiter => exact c.suits_fresh bitmapMode
  | @feed r e hr ha ih =>
    rcases r.stays_or_moves e with hst | ⟨t, hm⟩
    · rw [hst.negotiation] at hs ⊢
      rw [hst.heard, hst.issued]
      exact ih hs (hst.running ht)
    · have h := ih hm.unsettled hm.running
      rw [hm.negotiation] at hs ⊢
      rw [hm.heard]
      cases hm.negotiates.leaves hm.unsettled with
      | fails _ hf => rw [(hm.failed hf).2] at ht; cases ht
      | proposed _ hf hp hn hi =>
        rw [hm.issued hf, hi]
        rw [← hr.capabilities] at h ⊢
        exact suits_of_proposes h ha hp hn hm.negotiates.keeps.bitmapMode
      | settled _ hs' => rw [hs'] at hs; cases hs

/-- The completion of a HELLO that agreed to bitmaps, after the peer has turned away from them. -/
def Overtaken (r : Run σ) : Event → Prop
  | .helloSent _ _ (.settle _) => r.machine.negotiation.bitmapMode = false
  | _ => False

theorem mem_of_agrees
    (hs : r.machine.capabilities.Suits r.machine.negotiation r.heard.getLast? r.issued)
    (ha : r.Completes e) (hv : r.machine.Agrees e v p) : v ∈ r.machine.capabilities.versions := by
  cases hv with
  | shares _ _ hv => exact CapabilitySet.mem_of_shared? hv
  | accepts _ hp => exact hs.proposed _ hp
  | meets _ _ _ hv => exact CapabilitySet.mem_of_atMost? hv
  | resumes =>
    obtain ⟨_, p, _, _, hp, _⟩ := hs.compare ha
    rw [Machine.ceiling_of_proposed hp]
    exact hs.proposed p hp
  | resumesLower _ hv => exact CapabilitySet.mem_of_atMost? hv
  | confirms => exact hs.confirms _ ha v rfl

theorem admits_of_agrees
    (hs : r.machine.capabilities.Suits r.machine.negotiation r.heard.getLast? r.issued)
    (ha : r.Completes e) (ho : ¬ r.Overtaken e) (hv : r.machine.Agrees e v p) :
    ∃ h, (r.heard ++ e.heard).getLast? = some h ∧
      h.Admits (r.machine.taking e).negotiation.bitmapMode v := by
  cases hv with
  | @shares h bs v _ hm hb hv =>
    have hg := CapabilitySet.shared?_eq_some_iff.1 hv
    exact ⟨h, by simp [Event.heard], .inl ⟨hm, bs, hb, hg.1.2⟩⟩
  | @accepts h v _ _ hr => exact ⟨h, by simp [Event.heard], .inr hr⟩
  | @meets h => exact ⟨h, by simp [Event.heard], .inr (le_refl _)⟩
  | resumes =>
    obtain ⟨h, p, hl, _, hp, hle, _⟩ := hs.compare ha
    rw [Machine.ceiling_of_proposed hp]
    exact ⟨h, by simpa [Event.heard] using hl, .inr hle⟩
  | resumesLower hr hv =>
    obtain ⟨_, p, _, _, hp, _, hle⟩ := hs.compare ha
    rw [Machine.ceiling_of_proposed hp] at hr
    exact absurd hle (not_le_of_gt hr)
  | confirms =>
    have hm : r.machine.negotiation.bitmapMode = true := by simpa [Overtaken] using ho
    obtain ⟨h, bs, hl, hb, _, hv⟩ := hs.settle ha hm
    exact ⟨h, by simpa [Event.heard] using hl, .inl ⟨hm, bs, hb, hv⟩⟩

theorem le_of_agrees
    (hs : r.machine.capabilities.Suits r.machine.negotiation r.heard.getLast? r.issued)
    (ha : r.Completes e) (ho : ¬ r.Overtaken e) (hv : r.machine.Agrees e v p) :
    (∃ q, p = some q ∧ v ≤ q) ∨ r.heard ≠ [] ∧ ∃ h bs, e = .hello h ∧ h.bitmaps? = some bs ∧
      (r.machine.taking e).negotiation.bitmapMode = true ∧
      IsGreatest {w | w ∈ r.machine.capabilities.versions ∧ bs.any (·.supports w)} v := by
  cases hv with
  | @shares h bs v p hm hb hv hp =>
    have hg := CapabilitySet.shared?_eq_some_iff.1 hv
    by_cases hne : r.heard = []
    · have hp' := (hs.unheard (by simp [hne])).1 p hp
      exact .inl ⟨p, rfl, hp' ▸ r.machine.capabilities.isGreatest_highest.2 hg.1.1⟩
    · exact .inr ⟨hne, h, bs, rfl, hb, hm, hg⟩
  | accepts => exact .inl ⟨_, rfl, le_refl _⟩
  | meets => exact .inl ⟨_, rfl, le_refl _⟩
  | resumes =>
    obtain ⟨_, p, _, _, hp, _⟩ := hs.compare ha
    rw [Machine.ceiling_of_proposed hp]
    exact .inl ⟨p, hp, le_refl _⟩
  | resumesLower => exact .inl ⟨_, rfl, le_refl _⟩
  | confirms =>
    obtain ⟨_, _, _, _, hp, _⟩ := hs.settle ha (by simpa [Overtaken] using ho)
    exact .inl ⟨v, hp, le_refl _⟩

/-- Whatever a handshake settles on, the controller speaks it. Unless the settlement was overtaken
the HELLO heard last admits it too, and it is not above the last proposal, except that a further
HELLO with bitmaps is taken at the best version it shares. Completions may come at any time, in any
order and again, and fail to come. -/
theorem settles_on_admitted (hr : r.Under c bitmapMode Completes)
    (ha : r.Completes e) (hs : r.machine.negotiation.settled = none)
    (hv : (r.feed e).machine.negotiation.settled = some v) :
    v ∈ c.versions ∧ (¬ r.Overtaken e →
      (∃ h, (r.feed e).heard.getLast? = some h ∧
        h.Admits (r.feed e).machine.negotiation.bitmapMode v) ∧
      ((∃ p, (r.feed e).machine.negotiation.proposed = some p ∧ v ≤ p) ∨
        r.heard ≠ [] ∧ ∃ h bs, e = .hello h ∧ h.bitmaps? = some bs ∧
          (r.feed e).machine.negotiation.bitmapMode = true ∧
          IsGreatest {w | w ∈ c.versions ∧ bs.any (·.supports w)} v)) := by
  rcases r.stays_or_moves e with hst | ⟨t, hm⟩
  · rw [hst.negotiation, hs] at hv
    cases hv
  have hsu := hr.suits hs hm.running
  rw [← hr.capabilities] at hsu ⊢
  rw [hm.negotiation] at hv ⊢
  rw [hm.heard, hm.negotiates.keeps.bitmapMode]
  cases hm.negotiates.leaves hs with
  | fails hn => rw [hn] at hv; cases hv
  | proposed hn => rw [hn] at hv; cases hv
  | settled hag hv' =>
    rw [hv'] at hv
    cases hv
    exact ⟨mem_of_agrees hsu ha hag, fun ho =>
      ⟨admits_of_agrees hsu ha ho hag, le_of_agrees hsu ha ho hag⟩⟩

/-- A peer that offers a bitmap, whose best shared version is agreed to once the answer is out. -/
def agreeable : Run Limiter :=
  (fresh .fourOne true .unlimited).play [.hello ⟨6, 7, [.versionBitmap (.ofVersions [6, 4, 1])]⟩]

/-- A run whose first HELLO is never reported sent, and one that settles by bitmap. -/
theorem settles_on_admitted_skipping_and_by_bitmap :
    let skipping := impatient.feed (.helloSent 10 (.ok ()) .wait)
    let e := Event.hello ⟨2, 11, []⟩
    let r := skipping.feed e
    let e' := Event.helloSent 8 (.ok ()) (.settle 4)
    let r' := agreeable.feed e'
    (skipping.Under .fourOne true CompletesInOrder ∧ skipping.CompletesInOrder e ∧
      skipping.issued = [(8, .compare 5), (10, .wait)] ∧ skipping.completed = [(10, .wait)] ∧
      r.machine.negotiation.settled = some 1 ∧ 1 ∈ CapabilitySet.fourOne.versions ∧
      ∃ h, r.heard.getLast? = some h ∧ h.Admits r.machine.negotiation.bitmapMode 1) ∧
    (agreeable.Under .fourOne true CompletesInOrder ∧ agreeable.CompletesInOrder e' ∧
      r'.machine.negotiation.bitmapMode = true ∧ r'.machine.negotiation.settled = some 4 ∧
      4 ∈ CapabilitySet.fourOne.versions ∧
      ∃ h, r'.heard.getLast? = some h ∧ h.Admits r'.machine.negotiation.bitmapMode 4) := by
  intro skipping e r e' r'
  have hskipping : skipping.Under .fourOne true CompletesInOrder :=
    .feed (.feed (.feed (.start _) trivial) trivial) ⟨rfl, by decide⟩
  have hagreeable : agreeable.Under .fourOne true CompletesInOrder := .feed (.start _) trivial
  have ha : skipping.CompletesInOrder e := trivial
  have ha' : agreeable.CompletesInOrder e' := ⟨rfl, by decide⟩
  have hs : skipping.machine.negotiation.settled = none := by decide
  have hs' : agreeable.machine.negotiation.settled = none := by decide
  have hv : r.machine.negotiation.settled = some 1 := by decide
  have hv' : r'.machine.negotiation.settled = some 4 := by decide
  have ho : ¬ skipping.Overtaken e := id
  have hm' : agreeable.machine.negotiation.bitmapMode ≠ false := by decide
  have h := settles_on_admitted (hskipping.mono CompletesInOrder.completes) ha.completes hs hv
  have h' := settles_on_admitted (hagreeable.mono CompletesInOrder.completes) ha'.completes hs' hv'
  exact ⟨⟨hskipping, ha, by decide, by decide, hv, h.1, (h.2 ho).1⟩,
    hagreeable, ha', by decide, hv', h'.1, (h'.2 hm').1⟩

/-- A peer that turns to versions before the answer to its bitmap is delivered. -/
def overtaken : Run Limiter :=
  (fresh .fourOne true .unlimited).play
    [.hello ⟨4, 7, [.versionBitmap (.ofVersions [4])]⟩, .hello ⟨3, 8, []⟩]

/-- A peer that sends a better bitmap before the answer to its first is delivered. -/
def outbid : Run Limiter :=
  (fresh .fourOne true .unlimited).play [.hello ⟨1, 7, [.versionBitmap (.ofVersions [1])]⟩]

theorem settles_above_proposal :
    let e := Event.helloSent 8 (.ok ()) (.settle 4)
    let r := overtaken.feed e
    let e' := Event.hello ⟨4, 8, [.versionBitmap (.ofVersions [4])]⟩
    let r' := outbid.feed e'
    (overtaken.Under .fourOne true CompletesInOrder ∧ overtaken.CompletesInOrder e ∧
      overtaken.machine.negotiation.settled = none ∧ r.machine.negotiation.settled = some 4 ∧
      r.machine.negotiation.proposed = some 1 ∧
      ∀ h, r.heard.getLast? = some h → ¬ h.Admits r.machine.negotiation.bitmapMode 4) ∧
    (outbid.Under .fourOne true CompletesInOrder ∧ outbid.CompletesInOrder e' ∧
      outbid.machine.negotiation.settled = none ∧ r'.machine.negotiation.settled = some 4 ∧
      r'.machine.negotiation.proposed = some 1) := by
  refine ⟨⟨.feed (.feed (.start _) trivial) trivial, ⟨rfl, by decide⟩, by decide, by decide,
    by decide, ?_⟩, .feed (.start _) trivial, trivial, by decide, by decide, by decide⟩
  rintro _ ⟨⟩ (⟨hm, _⟩ | hle)
  · cases hm
  · exact absurd hle (by decide)

end Run

end SwitchSession
