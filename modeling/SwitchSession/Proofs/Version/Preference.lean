import SwitchSession.Config
import SwitchSession.Proofs.Version.Choice

namespace SwitchSession

theorem VersionBitmap.supports_replicate {n : Nat} {w : Version} :
    (⟨List.replicate n true⟩ : VersionBitmap).supports w = true ↔ w.val < n := by
  rw [supports, List.getD_eq_getElem?_getD, List.getElem?_replicate]
  split
  · next h => simp [h]
  · next h => simp [h]

namespace CapabilitySet

variable {c : CapabilitySet} {bs bs' : List VersionBitmap} {remote v : Version}
  {e : HandshakeError}

theorem proposeAtMost_eq_ok_iff : c.proposeAtMost remote = .ok v ↔ c.atMost? remote = some v := by
  unfold proposeAtMost
  cases c.atMost? remote <;> simp

theorem proposeAtMost_eq_error_iff : c.proposeAtMost remote = .error e ↔
    e = .noCommonVersion
      ("no equal or lower version found, unsupported version: " ++ remote.text) ∧
    c.atMost? remote = none := by
  unfold proposeAtMost
  cases c.atMost? remote <;> simp [eq_comm]

theorem toOption_proposeAtMost (c : CapabilitySet) (remote : Version) :
    (c.proposeAtMost remote).toOption = c.atMost? remote := by
  unfold proposeAtMost
  cases c.atMost? remote <;> rfl

/-- What a failed search in bitmaps says depends on whether there were any. -/
def sharedFailure (bs : List VersionBitmap) : String :=
  if bs.isEmpty then "no version bitmap received"
  else "no common version found in version bitmap"

theorem proposeShared_eq (c : CapabilitySet) (bs : List VersionBitmap) :
    c.proposeShared bs = match c.shared? bs with
      | some v => .ok v
      | none => .error (.noCommonVersion (sharedFailure bs)) := by
  unfold proposeShared sharedFailure
  cases bs with
  | nil => rw [shared?_eq_none_iff.2 (by simp)]; rfl
  | cons => rfl

theorem proposeShared_eq_ok_iff : c.proposeShared bs = .ok v ↔ c.shared? bs = some v := by
  rw [proposeShared_eq]
  cases c.shared? bs <;> simp

theorem proposeShared_eq_error_iff : c.proposeShared bs = .error e ↔
    e = .noCommonVersion (sharedFailure bs) ∧ c.shared? bs = none := by
  rw [proposeShared_eq]
  cases c.shared? bs <;> simp [eq_comm]

theorem toOption_proposeShared (c : CapabilitySet) (bs : List VersionBitmap) :
    (c.proposeShared bs).toOption = c.shared? bs := by
  rw [proposeShared_eq]
  cases c.shared? bs <;> rfl

theorem shared?_congr
    (h : ∀ w, (∃ b ∈ bs, b.supports w = true) ↔ ∃ b ∈ bs', b.supports w = true) :
    c.shared? bs = c.shared? bs' := by
  apply congrArg (c.versions.find? ·)
  funext w
  rw [Bool.eq_iff_iff, List.any_eq_true, List.any_eq_true]
  exact h w

theorem proposeShared_congr
    (h : ∀ w, (∃ b ∈ bs, b.supports w = true) ↔ ∃ b ∈ bs', b.supports w = true)
    (hn : bs = [] ↔ bs' = []) : c.proposeShared bs = c.proposeShared bs' := by
  have hf : sharedFailure bs = sharedFailure bs' := by
    simp only [sharedFailure, List.isEmpty_iff, hn]
  rw [proposeShared_eq, proposeShared_eq, shared?_congr h, hf]

/-- A bitmap of all versions up to the peer's says the same as that version alone. -/
theorem shared?_upTo {b : VersionBitmap} (h : ∀ w, b.supports w = true ↔ w ≤ remote) :
    c.shared? [b] = c.atMost? remote := by
  apply congrArg (c.versions.find? ·)
  funext w
  rw [Bool.eq_iff_iff, decide_eq_true_iff, List.any_cons, List.any_nil, Bool.or_false]
  exact h w

end CapabilitySet

namespace Config

open CapabilitySet

/-- A valid configuration is negotiated to its greatest version that the peer admits, be it by a
version or by bitmaps; if there is none, the proposal fails, and only then. Neither order,
repetition nor splitting of the bitmaps matters, and a bitmap of all versions up to `remote` leads
to the same version as `remote`. -/
theorem proposals_are_greatest {config : Config} {caps : CapabilitySet}
    (h : config.capabilitySet = .ok caps) :
    (∀ remote v, caps.proposeAtMost remote = .ok v ↔
      IsGreatest {w | w ∈ config.versionOrder ∧ w ≤ remote} v) ∧
    (∀ remote e, caps.proposeAtMost remote = .error e ↔
      e = .noCommonVersion
        ("no equal or lower version found, unsupported version: " ++ remote.text) ∧
      ∀ w ∈ config.versionOrder, ¬ w ≤ remote) ∧
    (∀ bs v, caps.proposeShared bs = .ok v ↔
      IsGreatest {w | w ∈ config.versionOrder ∧ ∃ b ∈ bs, b.supports w = true} v) ∧
    (∀ bs e, caps.proposeShared bs = .error e ↔
      e = .noCommonVersion (sharedFailure bs) ∧
      ∀ w ∈ config.versionOrder, ¬ ∃ b ∈ bs, b.supports w = true) ∧
    (∀ bs bs', (∀ w, (∃ b ∈ bs, b.supports w = true) ↔ ∃ b ∈ bs', b.supports w = true) →
      (caps.proposeShared bs).toOption = (caps.proposeShared bs').toOption ∧
      ((bs = [] ↔ bs' = []) → caps.proposeShared bs = caps.proposeShared bs')) ∧
    (∀ remote b, (∀ w, b.supports w = true ↔ w ≤ remote) →
      (caps.proposeShared [b]).toOption = (caps.proposeAtMost remote).toOption) := by
  rw [← versions_of_capabilitySet h]
  refine ⟨?_, ?_, ?_, ?_, ?_, ?_⟩
  · intro remote v
    rw [proposeAtMost_eq_ok_iff, atMost?_eq_some_iff]
  · intro remote e
    simp only [proposeAtMost_eq_error_iff, atMost?_eq_none_iff, not_le]
  · intro bs v
    simp only [proposeShared_eq_ok_iff, shared?_eq_some_iff, List.any_eq_true]
  · intro bs e
    rw [proposeShared_eq_error_iff, shared?_eq_none_iff]
    simp only [not_exists, not_and, Bool.not_eq_true]
    apply and_congr_right
    intro _
    exact ⟨fun hn w hw b hb => hn b hb w hw, fun hn b hb w hw => hn w hw b hb⟩
  · intro bs bs' hs
    refine ⟨?_, proposeShared_congr hs⟩
    rw [toOption_proposeShared, toOption_proposeShared, shared?_congr hs]
  · intro remote b hb
    rw [toOption_proposeShared, toOption_proposeAtMost, shared?_upTo hb]

theorem proposals_are_greatest_testing :
    let caps : CapabilitySet := ⟨[4, 1, 0], by decide, by decide⟩
    let upTo : VersionBitmap := ⟨List.replicate 4 true⟩
    testing.capabilitySet = .ok caps ∧
    IsGreatest {w : Version | w ∈ testing.versionOrder ∧ w ≤ 3} 1 ∧
    (∀ w, upTo.supports w = true ↔ w ≤ 3) ∧
    (caps.proposeShared [upTo]).toOption = (caps.proposeAtMost 3).toOption ∧
    caps.proposeShared [.ofVersions [1, 4], .ofVersions [4]] =
      caps.proposeShared [.ofVersions [4], .ofVersions [1]] := by
  intro caps upTo
  have h : testing.capabilitySet = .ok caps := rfl
  obtain ⟨hversion, -, -, -, hsplit, hupTo⟩ := proposals_are_greatest h
  have hb : ∀ w, upTo.supports w = true ↔ w ≤ 3 := fun w =>
    VersionBitmap.supports_replicate.trans Nat.lt_succ_iff
  have hs : ∀ w,
      (∃ b ∈ [VersionBitmap.ofVersions [1, 4], .ofVersions [4]], b.supports w = true) ↔
        ∃ b ∈ [VersionBitmap.ofVersions [4], .ofVersions [1]], b.supports w = true := by
    simp [VersionBitmap.supports_ofVersions, or_comm]
  exact ⟨h, (hversion 3 1).1 rfl, hb, hupTo 3 upTo hb, (hsplit _ _ hs).2 (by simp)⟩

end Config

end SwitchSession
