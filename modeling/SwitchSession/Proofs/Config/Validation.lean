import SwitchSession.Acceptor
import SwitchSession.Config.Source
import SwitchSession.Proofs.Config.RoundTrip
import SwitchSession.Proofs.Version.Bitmaps
import SwitchSession.Proofs.Version.Choice

namespace SwitchSession

/-- Some entry is at least as high as one before it. -/
def Rises (vs : List Version) : Prop := ∃ i j : Fin vs.length, i < j ∧ vs[i] ≤ vs[j]

theorem not_rises_iff {vs : List Version} : ¬ Rises vs ↔ vs.Pairwise (· > ·) := by
  simp only [Rises, not_exists, not_and, not_le]
  rw [List.pairwise_iff_get]
  rfl

theorem rises_iff {vs : List Version} : Rises vs ↔ descends vs = false := by
  rw [← not_iff_not, not_rises_iff, Bool.not_eq_false, descends_iff]

theorem CapabilitySet.versions_bitmap (c : CapabilitySet) :
    c.bitmap.versions = c.versions.reverse := by
  apply VersionBitmap.versions_eq (List.pairwise_reverse.2 c.descending)
  intro v
  rw [List.mem_reverse, bitmap, VersionBitmap.supports_ofVersions]

namespace Config

variable {c : Config} {format : Format} {text path : String} {root : FileTree}
  {working : FileTree.Place} {caps : CapabilitySet}

/-- The three ways in which validation goes. -/
theorem capabilitySet_cases (c : Config) :
    (c.versionOrder = [] ∧ c.capabilitySet = .error .emptyVersionOrder) ∨
    (Rises c.versionOrder ∧ c.capabilitySet = .error (.unorderedVersions c.versionOrder)) ∨
    (c.versionOrder ≠ [] ∧ ¬ Rises c.versionOrder ∧
      ∃ caps, c.capabilitySet = .ok caps ∧ caps.versions = c.versionOrder) := by
  by_cases hnil : c.versionOrder = []
  · exact .inl ⟨hnil, capabilitySet_of_nil hnil⟩
  by_cases hrises : Rises c.versionOrder
  · exact .inr (.inl ⟨hrises, capabilitySet_of_unordered (rises_iff.1 hrises)⟩)
  · let caps : CapabilitySet := ⟨c.versionOrder, hnil, not_rises_iff.1 hrises⟩
    exact .inr (.inr ⟨hnil, hrises, caps, capabilitySet_of_versions rfl, rfl⟩)

theorem capabilitySet_eq_empty_iff :
    c.capabilitySet = .error .emptyVersionOrder ↔ c.versionOrder = [] := by
  refine ⟨fun h => ?_, capabilitySet_of_nil⟩
  rcases c.capabilitySet_cases with ⟨hnil, -⟩ | ⟨-, hc⟩ | ⟨-, -, caps, hc, -⟩
  · exact hnil
  · cases hc.symm.trans h
  · cases hc.symm.trans h

theorem capabilitySet_eq_unordered_iff {order : List Version} :
    c.capabilitySet = .error (.unorderedVersions order) ↔
      order = c.versionOrder ∧ Rises c.versionOrder := by
  constructor
  · intro h
    rcases c.capabilitySet_cases with ⟨-, hc⟩ | ⟨hrises, hc⟩ | ⟨-, -, caps, hc, -⟩
    · cases hc.symm.trans h
    · cases hc.symm.trans h
      exact ⟨rfl, hrises⟩
    · cases hc.symm.trans h
  · rintro ⟨rfl, hrises⟩
    exact capabilitySet_of_unordered (rises_iff.1 hrises)

theorem capabilitySet_eq_ok_iff : (∃ caps, c.capabilitySet = .ok caps) ↔
    c.versionOrder ≠ [] ∧ ¬ Rises c.versionOrder := by
  constructor
  · rintro ⟨caps, h⟩
    rw [← versions_of_capabilitySet h, not_rises_iff]
    exact ⟨caps.versions_ne_nil, caps.descending⟩
  · rintro ⟨hne, hrises⟩
    exact ⟨⟨c.versionOrder, hne, not_rises_iff.1 hrises⟩, capabilitySet_of_versions rfl⟩

theorem capabilitySet_of_validate {c' : Config} (h : c'.validate = .ok c) :
    ∃ caps, c.capabilitySet = .ok caps := by
  unfold validate at h
  split at h
  · next caps hc =>
    cases h
    exact ⟨caps, hc⟩
  · cases h

/-- Whatever the reader of documents gives, it has passed validation. -/
theorem capabilitySet_of_parse (h : parse format text = .ok c) :
    ∃ caps, c.capabilitySet = .ok caps := by
  unfold parse at h
  split at h
  · cases h
  · exact capabilitySet_of_validate h

theorem parse_of_load (h : load format root working path = .ok c) :
    ∃ text, parse format text = .ok c := by
  unfold load ofBytes at h
  split at h
  · cases h
  · split at h
    · cases h
    · next text _ => exact ⟨text, h⟩

theorem ofConfig_of_capabilitySet (h : c.capabilitySet = .ok caps) (limiter : σ)
    (handler : Handler) (logErrors : Bool) :
    Acceptor.ofConfig c limiter handler logErrors =
      .ok { capabilities := caps, bitmapMode := c.useVersionBitmap, limiter, handler,
            logErrors } := by
  rw [Acceptor.ofConfig, h]

/-- Validation refuses the empty order and every order that rises anywhere, each with its own error,
and makes all others, unchanged, a capability set with the right maximum and bitmap. What was
loaded, in whatever format, has such an order, and an acceptor can be made of it. -/
theorem validation_is_exact (c : Config) (limiter : σ) (handler : Handler) (logErrors : Bool) :
    (c.capabilitySet = .error .emptyVersionOrder ↔ c.versionOrder = []) ∧
    (∀ order, c.capabilitySet = .error (.unorderedVersions order) ↔
      order = c.versionOrder ∧ Rises c.versionOrder) ∧
    (c.versionOrder ≠ [] ∧ ¬ Rises c.versionOrder → ∃ caps, c.capabilitySet = .ok caps ∧
      caps.versions = c.versionOrder ∧ IsGreatest {v | v ∈ c.versionOrder} caps.highest ∧
      caps.bitmap.versions = c.versionOrder.reverse) ∧
    ((∃ format text, parse format text = .ok c) ∨
        (∃ format root working path, load format root working path = .ok c) →
      c.versionOrder ≠ [] ∧ ¬ Rises c.versionOrder ∧ ∃ caps, c.capabilitySet = .ok caps ∧
        Acceptor.ofConfig c limiter handler logErrors =
          .ok { capabilities := caps, bitmapMode := c.useVersionBitmap, limiter, handler,
                logErrors }) := by
  refine ⟨capabilitySet_eq_empty_iff, fun _ => capabilitySet_eq_unordered_iff, ?_, ?_⟩
  · intro hvalid
    obtain ⟨caps, hc⟩ := capabilitySet_eq_ok_iff.2 hvalid
    have hv := versions_of_capabilitySet hc
    refine ⟨caps, hc, hv, ?_, ?_⟩
    · rw [← hv]
      exact caps.isGreatest_highest
    · rw [← hv]
      exact caps.versions_bitmap
  · intro hloaded
    have hparse : ∃ format text, parse format text = .ok c := by
      rcases hloaded with hparse | ⟨format, root, working, path, hload⟩
      · exact hparse
      · exact ⟨format, parse_of_load hload⟩
    obtain ⟨format, text, hp⟩ := hparse
    obtain ⟨caps, hc⟩ := capabilitySet_of_parse hp
    obtain ⟨hne, hrises⟩ := capabilitySet_eq_ok_iff.1 ⟨caps, hc⟩
    exact ⟨hne, hrises, caps, hc, ofConfig_of_capabilitySet hc limiter handler logErrors⟩

theorem validation_is_exact_loaded :
    parse (External.configFormat "") "[handshake]\nversion_order = [9, 4]\n" =
      .ok { versionOrder := [9, 4] } ∧
    ∃ caps, ({ versionOrder := [9, 4] } : Config).capabilitySet = .ok caps ∧
      Acceptor.ofConfig { versionOrder := [9, 4] } () {} true =
        .ok { capabilities := caps, bitmapMode := true, limiter := (), logErrors := true } := by
  let format := External.configFormat ""
  let c : Config := { versionOrder := [9, 4] }
  have htext : document format c [.versionOrder] = "[handshake]\nversion_order = [9, 4]\n" := by
    decide
  have hp : parse format (document format c [.versionOrder]) = .ok c :=
    parse_document (External.documented_configFormat "") c (List.nodup_singleton _)
  obtain ⟨-, -, -, hloaded⟩ := validation_is_exact c () {} true
  obtain ⟨-, -, caps, hc, ha⟩ := hloaded (.inl ⟨_, _, hp⟩)
  exact ⟨htext ▸ hp, caps, hc, ha⟩

/-- An order that descends between all neighbours but two is refused as a whole. -/
example : ({ versionOrder := [9, 4, 1, 3] } : Config).capabilitySet =
    .error (.unorderedVersions [9, 4, 1, 3]) := rfl

end Config

end SwitchSession
