import Mathlib.Data.Finset.Max
import SwitchSession.Proofs.Handshake.Negotiation
import SwitchSession.Proofs.Version.Choice

namespace SwitchSession

namespace CapabilitySet

/-- The version is the best that no HELLO of the list is below. -/
def Fits (c : CapabilitySet) (heard : List Hello) (v : Version) : Prop :=
  IsGreatest {w | w ∈ c.versions ∧ ∀ h ∈ heard, w ≤ h.version} v

theorem fits_nil (c : CapabilitySet) : c.Fits [] c.highest := by
  simpa [Fits] using c.isGreatest_highest

theorem fits_singleton {c : CapabilitySet} (hv : c.atMost? h.version = some v) :
    c.Fits [h] v := by
  simpa [Fits] using atMost?_eq_some_iff.1 hv

theorem Fits.keep (hf : Fits c heard v) (hv : v ≤ h.version) : c.Fits (heard ++ [h]) v := by
  refine ⟨⟨hf.1.1, ?_⟩, ?_⟩
  · intro g hg
    rcases List.mem_append.1 hg with hg | hg
    · exact hf.1.2 g hg
    · rw [List.mem_singleton.1 hg]
      exact hv
  · rintro w ⟨hw, hle⟩
    exact hf.2 ⟨hw, fun g hg => hle g (List.mem_append_left _ hg)⟩

theorem Fits.lower (hf : Fits c heard p) (hp : h.version < p)
    (hv : c.atMost? h.version = some v) : c.Fits (heard ++ [h]) v := by
  have hg := atMost?_eq_some_iff.1 hv
  refine ⟨⟨hg.1.1, ?_⟩, ?_⟩
  · intro g hg'
    rcases List.mem_append.1 hg' with hg' | hg'
    · exact (hg.1.2.trans hp.le).trans (hf.1.2 g hg')
    · rw [List.mem_singleton.1 hg']
      exact hg.1.2
  · rintro w ⟨hw, hle⟩
    exact hg.2 ⟨hw, hle h (by simp)⟩

theorem Fits.isGreatest (hf : Fits c heard v) (hne : heard ≠ []) :
    ∃ low, IsLeast {w | w ∈ heard.map Hello.version} low ∧
      IsGreatest {w | w ∈ c.versions ∧ w ≤ low} v := by
  have hn : (heard.map Hello.version).toFinset.Nonempty := by simpa using hne
  obtain ⟨low, hl⟩ : ∃ low, IsLeast {w | w ∈ heard.map Hello.version} low :=
    ⟨_, by simpa using Finset.isLeast_min' _ hn⟩
  obtain ⟨h, hh, rfl⟩ := List.mem_map.1 hl.1
  refine ⟨_, hl, ⟨hf.1.1, hf.1.2 h hh⟩, ?_⟩
  rintro w ⟨hw, hwl⟩
  exact hf.2 ⟨hw, fun g hg => hwl.trans (hl.2 (List.mem_map_of_mem hg))⟩

/-- An open negotiation offers the best version so far, and no completion that is still out can
make it offer another. -/
structure Tracks (c : CapabilitySet) (n : Negotiation) (heard : List Hello)
    (issued : List (Xid × Continuation)) : Prop where
  ceiling : c.Fits heard (n.ceiling c)
  opened : heard ≠ [] → n.proposed.isSome
  pending : ∀ x ∈ issued, x.2 = .wait ∨
    heard ≠ [] ∧ ∃ remote, x.2 = .compare remote ∧ n.ceiling c ≤ remote

theorem Tracks.propose (ht : Tracks c n heard issued) (hp : n'.proposed = some v)
    (hf : c.Fits (heard ++ more) v) (hv : v ≤ n.ceiling c)
    (hn : next = .wait ∨ heard ++ more ≠ [] ∧ ∃ remote, next = .compare remote ∧ v ≤ remote) :
    c.Tracks n' (heard ++ more) (issued ++ [(xid, next)]) := by
  have hc : n'.ceiling c = v := Negotiation.ceiling_of_proposed hp c
  refine ⟨by rwa [hc], by simp [hp], ?_⟩
  intro x hx
  rw [hc]
  rcases List.mem_append.1 hx with hx | hx
  · rcases ht.pending x hx with hw | ⟨hne, remote, hk, hle⟩
    · exact .inl hw
    · exact .inr ⟨by simp [hne], remote, hk, hv.trans hle⟩
  · rw [List.mem_singleton.1 hx]
    exact hn

end CapabilitySet

namespace Machine

def Plain (m : Machine) (e : Event) : Prop :=
  ∀ h, e = .hello h → (m.hearing h).negotiation.bitmapMode = false

end Machine

namespace Run

variable [Admission σ] {r r' : Run σ} {e : Event} {c : CapabilitySet}

theorem tracks_of_proposes
    (h : r.machine.capabilities.Tracks r.machine.negotiation r.heard r.issued)
    (ha : r.Completes e) (hb : r.machine.Plain e) (hp : r.machine.Proposes e v next)
    (ht : n.proposed = some v) :
    r.machine.capabilities.Tracks n (r.heard ++ e.heard) (r.issued ++ [(xid, next)]) := by
  cases hp with
  | opens hp =>
    have hn := Negotiation.ceiling_of_none hp r.machine.capabilities
    refine h.propose ht ?_ hn.ge (.inl rfl)
    rw [← hn]
    simpa [Event.heard] using h.ceiling
  | answersBitmap hm =>
    rw [hb _ rfl] at hm
    cases hm
  | @answersVersion g _ _ hp hv =>
    have he : r.heard = [] := by
      by_contra hne
      simpa [hp] using h.opened hne
    have hg := CapabilitySet.atMost?_eq_some_iff.1 hv
    have hn : v ≤ r.machine.negotiation.ceiling r.machine.capabilities := by
      rw [Negotiation.ceiling_of_none hp]
      exact r.machine.capabilities.isGreatest_highest.2 hg.1.1
    refine h.propose ht ?_ hn (.inr ⟨by simp [Event.heard], g.version, rfl, hg.1.2⟩)
    rw [he]
    exact CapabilitySet.fits_singleton hv
  | lowers _ _ hr hv =>
    have hg := CapabilitySet.atMost?_eq_some_iff.1 hv
    exact h.propose ht (h.ceiling.lower hr hv) (hg.1.2.trans hr.le) (.inl rfl)
  | resumes hr hv =>
    -- no completion that is still out lowers the proposal
    rcases h.pending _ ha with hk | ⟨_, _, hk, hle⟩
    · cases hk
    · cases hk
      exact absurd hle (not_le_of_gt hr)

theorem fits_of_agrees
    (h : r.machine.capabilities.Tracks r.machine.negotiation r.heard r.issued)
    (ha : r.Completes e) (hb : r.machine.Plain e) (hv : r.machine.Agrees e v p) :
    r.heard ++ e.heard ≠ [] ∧ r.machine.capabilities.Fits (r.heard ++ e.heard) v := by
  cases hv with
  | shares hm =>
    rw [hb _ rfl] at hm
    cases hm
  | accepts _ hp hr =>
    have hc := Negotiation.ceiling_of_proposed hp r.machine.capabilities
    exact ⟨by simp [Event.heard], (hc ▸ h.ceiling).keep hr⟩
  | meets _ _ hr hv => exact ⟨by simp [Event.heard], h.ceiling.lower hr hv⟩
  | resumes hr =>
    rcases h.pending _ ha with hk | ⟨hne, _⟩
    · cases hk
    · exact ⟨by simp [hne], by simpa [Event.heard, Machine.ceiling] using h.ceiling⟩
  | resumesLower hr hv =>
    rcases h.pending _ ha with hk | ⟨_, _, hk, hle⟩
    · cases hk
    · cases hk
      exact absurd hle (not_le_of_gt hr)
  | confirms =>
    rcases h.pending _ ha with hk | ⟨_, _, hk, _⟩
    · cases hk
    · cases hk

structure OnTrack (bitmapMode : Bool) (r : Run σ) : Prop where
  mode : r.machine.negotiation.bitmapMode = true → bitmapMode = true ∧ r.heard = []
  settled : ∀ v, r.machine.negotiation.settled = some v →
    r.heard ≠ [] ∧ r.machine.capabilities.Fits r.heard v
  tracks : r.machine.negotiation.settled = none → r.machine.phase.isTerminal = false →
    r.machine.capabilities.Tracks r.machine.negotiation r.heard r.issued

theorem onTrack_fresh (c : CapabilitySet) (bitmapMode : Bool) (limiter : σ) :
    (fresh c bitmapMode limiter).OnTrack bitmapMode where
  mode h := ⟨h, rfl⟩
  settled v h := by cases h
  tracks _ _ := ⟨c.fits_nil, fun h => absurd rfl h, fun _ h => by cases h⟩

theorem OnTrack.stays (h : r.OnTrack bitmapMode) (hs : r.Stays r')
    (hc : r'.machine.capabilities = r.machine.capabilities) : r'.OnTrack bitmapMode where
  mode := by
    rw [hs.negotiation, hs.heard]
    exact h.mode
  settled := by
    rw [hs.negotiation, hs.heard, hc]
    exact h.settled
  tracks := by
    rw [hs.negotiation, hs.heard, hs.issued, hc]
    exact fun hn hr => h.tracks hn (hs.running hr)

theorem OnTrack.moves (h : r.OnTrack bitmapMode) (hm : r.Moves e t r') (ha : r.Completes e)
    (hb : r.machine.Plain e) (hc : r'.machine.capabilities = r.machine.capabilities) :
    r'.OnTrack bitmapMode := by
  have ht := h.tracks hm.unsettled hm.running
  refine ⟨?_, ?_, ?_⟩
  · rw [hm.negotiation, hm.negotiates.keeps.bitmapMode, hm.heard]
    cases e with
    | hello g =>
      intro hg
      rw [show (r.machine.taking (.hello g)).negotiation.bitmapMode = false from hb g rfl] at hg
      cases hg
    | _ => simpa [Machine.taking, Event.heard] using h.mode
  · intro v hv
    rw [hm.heard, hc]
    rw [hm.negotiation] at hv
    cases hm.negotiates.leaves hm.unsettled with
    | fails hs => rw [hs] at hv; cases hv
    | proposed hs => rw [hs] at hv; cases hv
    | settled hp hs =>
      rw [hs] at hv
      cases hv
      exact fits_of_agrees ht ha hb hp
  · rw [hm.negotiation, hm.heard, hc]
    intro hs hr
    cases hm.negotiates.leaves hm.unsettled with
    | fails _ hf => rw [(hm.failed hf).2] at hr; cases hr
    | proposed _ hf hp hv hi =>
      rw [hm.issued hf, hi]
      exact tracks_of_proposes ht ha hb hp hv
    | settled _ hs' => rw [hs'] at hs; cases hs

/-- No HELLO with a bitmap was the first to be heard where bitmaps count. -/
def Bitmapless (bitmapMode : Bool) (r : Run σ) : Prop :=
  bitmapMode = false ∨ ∀ h, r.heard.head? = some h → h.bitmaps? = none

theorem Bitmapless.of_feed (h : (r.feed e).Bitmapless bitmapMode) : r.Bitmapless bitmapMode := by
  refine h.imp_right fun h g hg => h g ?_
  rw [feed_heard, List.head?_append, hg]
  rfl

theorem OnTrack.plain (h : r.OnTrack bitmapMode) (hb : (r.feed e).Bitmapless bitmapMode)
    (hm : r.Moves e t (r.feed e)) : r.machine.Plain e := by
  rintro g rfl
  cases hg : r.machine.negotiation.bitmapMode with
  | false => simp [Machine.hearing, hg]
  | true =>
    obtain ⟨rfl, he⟩ := h.mode hg
    rcases hb with hb | hb
    · cases hb
    · have hn := hb g (by rw [hm.heard, he]; rfl)
      simp [Machine.hearing, hn]

theorem Under.onTrack (hr : r.Under c bitmapMode Completes) (hb : r.Bitmapless bitmapMode) :
    r.OnTrack bitmapMode := by
  induction hr with
  | start limiter => exact onTrack_fresh c bitmapMode limiter
  | @feed r e hr ha ih =>
    have h := ih hb.of_feed
    have hc := feed_capabilities r e
    rcases r.stays_or_moves e with hs | ⟨t, hm⟩
    · exact h.stays hs hc
    · exact h.moves hm ha (h.plain hb hm) hc

/-- Without bitmaps the version settled on is the best that is not above the lowest the peer has
named, and until then the last proposal is. -/
theorem step_by_step_finds_greatest (hr : r.Under c bitmapMode Completes)
    (hb : bitmapMode = false ∨ ∀ h, r.heard.head? = some h → h.bitmaps? = none) :
    (∀ v, r.machine.negotiation.settled = some v →
      ∃ low, IsLeast {w | w ∈ r.heard.map Hello.version} low ∧
        IsGreatest {w | w ∈ c.versions ∧ w ≤ low} v) ∧
    (r.machine.negotiation.settled = none → r.machine.phase.isTerminal = false → r.heard ≠ [] →
      ∃ p low, r.machine.negotiation.proposed = some p ∧
        IsLeast {w | w ∈ r.heard.map Hello.version} low ∧
        IsGreatest {w | w ∈ c.versions ∧ w ≤ low} p) := by
  have h := hr.onTrack hb
  have hc := hr.capabilities
  constructor
  · intro v hv
    obtain ⟨hne, hf⟩ := h.settled v hv
    rw [hc] at hf
    exact hf.isGreatest hne
  · intro hs ht hne
    have hk := h.tracks hs ht
    rw [hc] at hk
    obtain ⟨p, hp⟩ := Option.isSome_iff_exists.1 (hk.opened hne)
    have hf := hk.ceiling
    rw [Negotiation.ceiling_of_proposed hp] at hf
    obtain ⟨low, hl, hg⟩ := hf.isGreatest hne
    exact ⟨p, low, hp, hl, hg⟩

theorem step_by_step_finds_greatest_impatient :
    let r := impatient.feed (.helloSent 8 (.ok ()) (.compare 5))
    r.Under .fourOne true Completes ∧ (∀ h, r.heard.head? = some h → h.bitmaps? = none) ∧
      r.machine.negotiation.settled = some 1 ∧
      ∃ low, IsLeast {w | w ∈ r.heard.map Hello.version} low ∧
        IsGreatest {w | w ∈ CapabilitySet.fourOne.versions ∧ w ≤ low} 1 := by
  intro r
  have hr : r.Under .fourOne true Completes :=
    .feed (.feed (.feed (.start _) trivial) trivial)
      (show (8, Continuation.compare 5) ∈ impatient.issued by decide)
  have hb : ∀ h, r.heard.head? = some h → h.bitmaps? = none := by
    rintro _ ⟨⟩
    rfl
  have hs : r.machine.negotiation.settled = some 1 := by decide
  exact ⟨hr, hb, hs, (step_by_step_finds_greatest hr (.inr hb)).1 1 hs⟩

end Run

end SwitchSession
