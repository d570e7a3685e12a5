import SwitchSession.Version.Capabilities

namespace SwitchSession

structure Config where
  versionOrder : List Version := [.openFlow13, .openFlow10]
  useVersionBitmap : Bool := true
  rateLimitPerMinute : UInt32 := 0
deriving DecidableEq

inductive ConfigError
  | io (path : String) (reason : String)
  | syntaxError (detail : String)
  | emptyVersionOrder
  | unorderedVersions (order : List Version)
deriving DecidableEq

def ConfigError.message : ConfigError → String
  | .io path reason => "Failed to read " ++ path ++ ": " ++ reason
  | .syntaxError detail => "Failed to parse config: " ++ detail
  | .emptyVersionOrder => "version_order must not be empty"
  | .unorderedVersions order =>
    "version_order must be strictly descending: " ++ Version.listText order

namespace Config

def testing : Config := { versionOrder := [4, 1, 0] }

def capabilitySet (c : Config) : Except ConfigError CapabilitySet :=
  if h : descends c.versionOrder = true then
    if hne : c.versionOrder = [] then .error .emptyVersionOrder
    else .ok ⟨c.versionOrder, hne, descends_iff.1 h⟩
  else .error (.unorderedVersions c.versionOrder)

def validate (c : Config) : Except ConfigError Config :=
  match c.capabilitySet with
  | .ok _ => .ok c
  | .error e => .error e

theorem capabilitySet_of_nil {c : Config} (h : c.versionOrder = []) :
    c.capabilitySet = .error .emptyVersionOrder := by
  simp [capabilitySet, h, descends]

theorem capabilitySet_of_unordered {c : Config} (h : descends c.versionOrder = false) :
    c.capabilitySet = .error (.unorderedVersions c.versionOrder) := by
  simp [capabilitySet, h]

theorem capabilitySet_of_versions {c : Config} {caps : CapabilitySet}
    (h : caps.versions = c.versionOrder) : c.capabilitySet = .ok caps := by
  obtain ⟨versions, hne, hd⟩ := caps
  subst h
  rw [capabilitySet, dif_pos (descends_iff.2 hd), dif_neg hne]

theorem versions_of_capabilitySet {c : Config} {caps : CapabilitySet}
    (h : c.capabilitySet = .ok caps) : caps.versions = c.versionOrder := by
  unfold capabilitySet at h
  split at h
  · split at h
    · cases h
    · cases h; rfl
  · cases h

end Config

end SwitchSession
