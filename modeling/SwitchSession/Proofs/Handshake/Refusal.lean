import SwitchSession.Proofs.Handshake.DeadEnds

namespace SwitchSession

namespace Hello

def HasBitmap (h : Hello) : Prop := ∃ b, .versionBitmap b ∈ h.elements

theorem mem_filterMap_bitmap {elements : List HelloElement} :
    (b ∈ elements.filterMap fun | .versionBitmap b => some b | .unknown _ => none) ↔
      .versionBitmap b ∈ elements := by
  rw [List.mem_filterMap]
  constructor
  · rintro ⟨e, he, hb⟩
    cases e with
    | versionBitmap => cases hb; exact he
    | unknown => cases hb
  · intro he
    exact ⟨_, he, rfl⟩

theorem mem_of_bitmaps? {h : Hello} (hb : h.bitmaps? = some bs) :
    b ∈ bs ↔ .versionBitmap b ∈ h.elements := by
  simp only [bitmaps?, Option.ite_none_left_eq_some, Option.some.injEq] at hb
  rw [← hb.2]
  exact mem_filterMap_bitmap

theorem hasBitmap_of_some {h : Hello} (hb : h.bitmaps? = some bs) : h.HasBitmap := by
  obtain ⟨b, hmem⟩ := List.exists_mem_of_ne_nil bs (bitmaps?_ne_nil hb)
  exact ⟨b, (mem_of_bitmaps? hb).1 hmem⟩

theorem not_hasBitmap_of_none {h : Hello} (hb : h.bitmaps? = none) : ¬ h.HasBitmap := by
  rintro ⟨b, hmem⟩
  simp only [bitmaps?, ite_eq_left_iff, reduceCtorEq, imp_false, not_not, List.isEmpty_iff] at hb
  exact List.eq_nil_iff_forall_not_mem.1 hb b (mem_filterMap_bitmap.2 hmem)

theorem hasBitmap_iff {h : Hello} : h.HasBitmap ↔ h.bitmaps?.isSome := by
  cases hb : h.bitmaps? with
  | none => simp [not_hasBitmap_of_none hb]
  | some bs => simp [hasBitmap_of_some hb]

end Hello

/-- The HELLO shares no version with the set, and in which words the handshake says so. -/
inductive CapabilitySet.Refuses (c : CapabilitySet) (bitmapMode : Bool) (h : Hello) : String → Prop
  | sharesNone (hm : bitmapMode = true) (hb : h.HasBitmap)
      (hv : ∀ b, .versionBitmap b ∈ h.elements → ∀ v ∈ c.versions, b.supports v = false) :
      Refuses c bitmapMode h "no common version found in version bitmap"
  | undershoots (hm : bitmapMode = false ∨ ¬ h.HasBitmap) (hv : ∀ v ∈ c.versions, h.version < v) :
      Refuses c bitmapMode h
        ("no equal or lower version found, unsupported version: " ++ h.version.text)

namespace CapabilitySet

theorem refuses_of_bitmaps {c : CapabilitySet} (hm : bitmapMode = true)
    (hb : h.bitmaps? = some bs) : c.Refuses bitmapMode h detail ↔
      c.shared? bs = none ∧ detail = "no common version found in version bitmap" := by
  rw [shared?_eq_none_iff]
  constructor
  · intro hr
    cases hr with
    | sharesNone _ _ hv => exact ⟨fun b hmem => hv b ((Hello.mem_of_bitmaps? hb).1 hmem), rfl⟩
    | undershoots hn =>
      rcases hn with hn | hn
      · rw [hm] at hn
        cases hn
      · exact absurd (Hello.hasBitmap_of_some hb) hn
  · rintro ⟨hv, rfl⟩
    apply Refuses.sharesNone hm (Hello.hasBitmap_of_some hb)
    intro b hmem
    exact hv b ((Hello.mem_of_bitmaps? hb).2 hmem)

theorem refuses_of_version {c : CapabilitySet} (hm : (bitmapMode && h.bitmaps?.isSome) = false) :
    c.Refuses bitmapMode h detail ↔ c.atMost? h.version = none ∧
      detail = "no equal or lower version found, unsupported version: " ++ h.version.text := by
  rw [Bool.and_eq_false_iff, ← Bool.not_eq_true h.bitmaps?.isSome, ← Hello.hasBitmap_iff] at hm
  rw [atMost?_eq_none_iff]
  constructor
  · intro hr
    cases hr with
    | sharesNone hm' hb =>
      rcases hm with hm | hm
      · rw [hm] at hm'
        cases hm'
      · exact absurd hb hm
    | undershoots _ hv => exact ⟨hv, rfl⟩
  · rintro ⟨hv, rfl⟩
    exact .undershoots hm hv

end CapabilitySet

theorem VersionBitmap.supports_of_not_mem {b : VersionBitmap} (hz : true ∉ b.bits) (v : Version) :
    b.supports v = false := by
  rw [supports, List.getD_eq_getElem?_getD]
  cases hb : b.bits[v.val]? with
  | none => rfl
  | some bit =>
    cases bit with
    | false => rfl
    | true => exact absurd (List.mem_of_getElem? hb) hz

namespace Machine

/-- What an open machine brings to a HELLO, whatever it went through. -/
structure Poised (m : Machine) (h : Hello) : Prop where
  unsettled : m.negotiation.settled = none
  running : m.Running
  room : (m.hearing h).HasRoom
  undercuts : m.negotiation.Undercuts
  proposed : ∀ p, m.negotiation.proposed = some p → p ∈ m.capabilities.versions

theorem Compares.refuses_iff {m : Machine} (ht : m.Compares remote t) (hx : m.HasRoom)
    (hu : m.negotiation.Undercuts) (hp : m.negotiation.proposed = some p)
    (hv : p ∈ m.capabilities.versions) :
    t.failure = some (.noCommonVersion detail) ↔ m.capabilities.atMost? remote = none ∧
      detail = "no equal or lower version found, unsupported version: " ++ remote.text := by
  have hc : m.ceiling = p := ceiling_of_proposed hp
  cases ht with
  | accepts hr ht =>
    -- the proposal itself is a version that the peer can speak
    have hv : m.capabilities.atMost? remote ≠ none := by
      intro hnone
      rw [CapabilitySet.atMost?_eq_none_iff] at hnone
      exact absurd (hc ▸ hr) (not_le_of_gt (hnone p hv))
    simp [ht.goes hx.lt, hv]
  | stalls hr hs => exact absurd (hu.ceiling_le hs) (not_le_of_gt hr)
  | refuses _ hv => simp [hv, eq_comm]
  | lowers _ hv _ ht => simp [ht.goes hx.lt, hv]
  | meets _ hv ht => simp [ht.goes hx, hv]

theorem Poised.refuses_iff {m : Machine} (hm : m.Poised h) (hn : m.Negotiates (.hello h) t) :
    t.failure = some (.noCommonVersion detail) ↔
      m.capabilities.Refuses m.negotiation.bitmapMode h detail := by
  have hx := hm.room
  cases hn with
  | sharesNone hb hbs hv => simp [CapabilitySet.refuses_of_bitmaps hb hbs, hv, eq_comm]
  | answersBitmap hb hbs hv _ ht =>
    simp [CapabilitySet.refuses_of_bitmaps hb hbs, hv, ht.goes hx.lt]
  | agrees hb hbs hv _ ht => simp [CapabilitySet.refuses_of_bitmaps hb hbs, hv, ht.goes hx.lt]
  | refuses hb _ hv => simp [CapabilitySet.refuses_of_version hb, hv, eq_comm]
  | answersVersion hb _ hv ht => simp [CapabilitySet.refuses_of_version hb, hv, ht.goes hx.lt]
  | weighs hb hp ht =>
    rw [CapabilitySet.refuses_of_version hb]
    exact ht.refuses_iff hx hm.undercuts hp (hm.proposed _ hp)

theorem Handles.negotiates_of_hello {m : Machine} (hh : m.Handles granted (.hello h) t)
    (hs : m.negotiation.settled = none) : m.Negotiates (.hello h) t := by
  cases hh with
  | ignores hi => simp [Ignores, hs] at hi
  | negotiates _ hn => exact hn

theorem Poised.fails_iff {m : Machine} (hm : m.Poised h)
    (hr : m.Reacts granted (.hello h) m' actions) :
    m'.phase = .failed ∧ m'.outcome = some (.failure (.noCommonVersion detail)) ↔
      m.capabilities.Refuses m.negotiation.bitmapMode h detail := by
  cases hr with
  | ended hend => rw [hm.running.phase] at hend; cases hend
  | goes _ hh hf =>
    have hn := hh.negotiates_of_hello hm.unsettled
    rw [← hm.refuses_iff hn, hf]
    simp [(hn.quiet hm.running).running.outcome]
  | fails _ hh hf =>
    rw [← hm.refuses_iff (hh.negotiates_of_hello hm.unsettled), hf]
    simp [failing]

theorem Poised.goes_on {m : Machine} (hm : m.Poised h)
    (hr : m.Reacts granted (.hello h) m' actions)
    (hno : ∀ detail, ¬ m.capabilities.Refuses m.negotiation.bitmapMode h detail) :
    m'.phase.isTerminal = false := by
  cases hr with
  | ended hend => rw [hm.running.phase] at hend; cases hend
  | goes _ hh => exact ((hh.negotiates_of_hello hm.unsettled).quiet hm.running).running.phase
  | fails _ hh hf =>
    have hn := hh.negotiates_of_hello hm.unsettled
    rcases hn.goes_or_refuses hm.room hm.undercuts with hg | ⟨⟨detail, hd⟩, _⟩
    · rw [hf] at hg
      cases hg
    · exact absurd ((hm.refuses_iff hn).1 hd) (hno detail)

/-- Where bitmaps count, the version in the header does not. -/
theorem onHello_version {m : Machine} (hs : m.negotiation.settled = none)
    (hm : m.negotiation.bitmapMode = true) (hb : h.HasBitmap) (v : Version) :
    m.onHello { h with version := v } = m.onHello h := by
  obtain ⟨bs, hbs⟩ := Option.isSome_iff_exists.1 (Hello.hasBitmap_iff.1 hb)
  have hbs' : { h with version := v }.bitmaps? = some bs := hbs
  rw [onHello_of_bitmaps m hs hbs, onHello_of_bitmaps m hs hbs', hm]
  rfl

theorem handle_hello_version [Admission σ] {m : Machine} (hs : m.negotiation.settled = none)
    (hm : m.negotiation.bitmapMode = true) (hb : h.HasBitmap) (limiter : σ) (v : Version) :
    m.handle limiter (.hello { h with version := v }) = m.handle limiter (.hello h) := by
  simp [handle, asksAdmission, react, turn, onHello_version hs hm hb]

end Machine

namespace Run

variable [Admission σ] {r : Run σ} {admits : Run σ → Event → Prop}

theorem Under.proposed_mem (hr : r.Under c bitmapMode admits)
    (ht : r.machine.phase.isTerminal = false) (hp : r.machine.negotiation.proposed = some p) :
    p ∈ c.versions := by
  induction hr using Under.message_induction with
  | start => cases hp
  | silent _ _ hq ih =>
    rw [hq.negotiation ht] at hp
    exact ih (hq.running ht) hp
  | @utters r e t hr _ hu ih =>
    have hc : (r.machine.taking e).capabilities = c :=
      (r.machine.taking_capabilities e).trans hr.capabilities
    rw [hu.machine] at hp
    cases hu.speaks with
    | proposes hv => cases hp; exact hc ▸ hv
    | settles => exact ih hu.running ((r.machine.taking_proposed e).symm.trans hp)
    | meets hv => cases hp; exact hc ▸ hv

theorem Under.poised (hr : r.Under c bitmapMode admits)
    (hs : r.machine.negotiation.settled = none) (ht : r.machine.phase.isTerminal = false)
    (h : Hello) : r.machine.Poised h where
  unsettled := hs
  running := hr.decided.running ht
  room := hr.hasRoom ht (.hello h)
  undercuts := hr.undercuts hs ht
  proposed _ hp := hr.capabilities ▸ hr.proposed_mem ht hp

/-- Whatever a run without a version went through, a HELLO ends it for want of a common version if
and only if there is none, and after any other HELLO it goes on. Where bitmaps count, the version in
the header makes no difference, and bitmaps that are all zero are bitmaps nevertheless. -/
theorem hello_fails_iff_refuses (hr : r.Under c bitmapMode admits)
    (hs : r.machine.negotiation.settled = none) (ht : r.machine.phase.isTerminal = false)
    (h : Hello) :
    let n := r.machine.negotiation
    let m := (r.feed (.hello h)).machine
    (∀ detail, m.phase = .failed ∧ m.outcome = some (.failure (.noCommonVersion detail)) ↔
      c.Refuses n.bitmapMode h detail) ∧
    ((∀ detail, ¬ c.Refuses n.bitmapMode h detail) → m.phase.isTerminal = false) ∧
    (n.bitmapMode = true → h.HasBitmap →
      (∀ v, (r.call (.hello { h with version := v })).reaction = (r.call (.hello h)).reaction) ∧
      ((∀ b, .versionBitmap b ∈ h.elements → true ∉ b.bits) → m.phase = .failed ∧
        m.outcome = some (.failure (.noCommonVersion
          "no common version found in version bitmap")))) := by
  intro n m
  have hm : r.machine.Poised h := hr.poised hs ht h
  have hreacts : r.machine.Reacts _ (.hello h) m _ := r.reacts (.hello h)
  rw [← hr.capabilities]
  refine ⟨?_, ?_, ?_⟩
  · intro detail
    exact hm.fails_iff hreacts
  · intro hno
    exact hm.goes_on hreacts hno
  · intro hmode hb
    constructor
    · intro v
      exact Machine.handle_hello_version hs hmode hb r.limiter v
    · intro hz
      rw [hm.fails_iff hreacts]
      apply CapabilitySet.Refuses.sharesNone hmode hb
      intro b hmem v _
      exact VersionBitmap.supports_of_not_mem (hz b hmem) v

/-- The controller speaks the version in the header, but its bit is not set. -/
theorem hello_fails_iff_refuses_unset :
    let r := (fresh .fourOne true Limiter.unlimited).feed .initiate
    let h : Hello := ⟨4, 7, [.unknown 9, .versionBitmap ⟨[false, false, true, true]⟩]⟩
    let m := (r.feed (.hello h)).machine
    r.Under .fourOne true (fun _ _ => True) ∧ r.machine.negotiation.settled = none ∧
      r.machine.phase.isTerminal = false ∧
      CapabilitySet.fourOne.Refuses r.machine.negotiation.bitmapMode h
        "no common version found in version bitmap" ∧
      m.phase = .failed ∧ m.outcome = some (.failure (.noCommonVersion
        "no common version found in version bitmap")) := by
  intro r h m
  have hr : r.Under .fourOne true fun _ _ => True := .feed (.start _) trivial
  have hs : r.machine.negotiation.settled = none := by decide
  have ht : r.machine.phase.isTerminal = false := by decide
  have hrefuses : CapabilitySet.fourOne.Refuses true h
      "no common version found in version bitmap" := by
    rw [CapabilitySet.refuses_of_bitmaps rfl rfl]
    decide
  obtain ⟨hiff, _⟩ := hello_fails_iff_refuses hr hs ht h
  exact ⟨hr, hs, ht, hrefuses, (hiff _).2 hrefuses⟩

end Run

end SwitchSession
