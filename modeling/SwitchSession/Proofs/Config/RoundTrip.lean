import Mathlib.Data.List.Nodup
import SwitchSession.Proofs.Config.Documented

namespace SwitchSession

namespace Config

open Toml

variable {format : Format} {settings : List Setting}

/-- A file with just these settings of the configuration. -/
def document (format : Format) (c : Config) (settings : List Setting) : String :=
  "[handshake]\n" ++ String.join (settings.map (format.write c))

/-- The configuration with the defaults for all settings but these. -/
def keeping (c : Config) (settings : List Setting) : Config :=
  let defaults : Config := {}
  { versionOrder := if .versionOrder ∈ settings then c.versionOrder else defaults.versionOrder
    useVersionBitmap :=
      if .useVersionBitmap ∈ settings then c.useVersionBitmap else defaults.useVersionBitmap
    rateLimitPerMinute :=
      if .rateLimit ∈ settings then c.rateLimitPerMinute else defaults.rateLimitPerMinute }

theorem keeping_of_all (c : Config) (h : ∀ x, x ∈ settings) : c.keeping settings = c := by
  simp only [keeping, h, if_true]

theorem value_keeping (c : Config) (settings : List Setting) (x : Setting) :
    (c.keeping settings).value x = if x ∈ settings then c.value x else ({} : Config).value x := by
  cases x with
  | versionOrder => by_cases hx : .versionOrder ∈ settings <;> simp [value, keeping, hx]
  | useVersionBitmap => by_cases hx : .useVersionBitmap ∈ settings <;> simp [value, keeping, hx]
  | rateLimit => by_cases hx : .rateLimit ∈ settings <;> simp [value, keeping, hx]

theorem key_mem_map_iff {c : Config} {x : Setting} :
    x.key ∈ (settings.map fun y => (y.key, c.value y)).map Prod.fst ↔ x ∈ settings := by
  rw [List.map_map]
  exact List.mem_map_of_injective Setting.key_injective

/-- The lines of different settings define different keys, in whatever order they stand. -/
theorem body_lines (hf : format.Documented) (c : Config) (hd : settings.Nodup) :
    Body (settings.flatMap fun x => (format.write c x).toList)
      (settings.map fun x => (x.key, c.value x)) := by
  induction settings with
  | nil => exact .nil
  | cons x settings ih =>
    obtain ⟨hx, hd⟩ := List.nodup_cons.1 hd
    rw [List.flatMap_cons, List.map_cons]
    exact .cons (hf.writes c x) (mt key_mem_map_iff.1 hx) (ih hd)

theorem isTable_document (hf : format.Documented) (c : Config) (hd : settings.Nodup) :
    IsTable "handshake" (settings.map fun x => (x.key, c.value x))
      (document format c settings) := by
  refine ⟨bareKey_of_all (by decide) rfl, _, body_lines hf c hd, ?_⟩
  rw [document, String.toList_append, String.toList_join, List.flatMap_map]
  rfl

/-- Printed settings are read back, and what was read is validated. -/
theorem parse_document (hf : format.Documented) (c : Config) (hd : settings.Nodup) :
    parse format (document format c settings) = (c.keeping settings).validate := by
  obtain ⟨found, hread, hperm⟩ := hf.reads (isTable_document hf c hd)
  have hkeys := hperm.map Prod.fst
  have hdecode : format.decode [("handshake", .table found)] = .ok (c.keeping settings) := by
    apply hf.decodes (hkeys.nodup_iff.2 (body_lines hf c hd).nodup)
    intro x
    rw [value_keeping, hkeys.mem_iff, key_mem_map_iff, hperm.mem_iff]
    by_cases hx : x ∈ settings
    · rw [if_pos hx]
      exact .inl (List.mem_map_of_mem hx)
    · rw [if_neg hx]
      exact .inr ⟨hx, rfl⟩
  rw [parse, hread]
  simp only [Except.bind, hdecode]

/-- With libraries that keep their promises, some settings of a configuration, written in any order,
are read back with the defaults for the others if the order of versions is then valid, and refused
with the error of validation if not. All three, which make up the whole configuration as it is
written, give that configuration back. -/
theorem settings_round_trip (hf : format.Documented) (c : Config) {settings : List Setting}
    (hd : settings.Nodup) :
    let text := document format c settings
    let kept := c.keeping settings
    (kept.versionOrder ≠ [] ∧ kept.versionOrder.Pairwise (· > ·) →
      parse format text = .ok kept) ∧
    (¬ (kept.versionOrder ≠ [] ∧ kept.versionOrder.Pairwise (· > ·)) →
      ∃ e, parse format text = .error e ∧ kept.capabilitySet = .error e ∧
        (e = .emptyVersionOrder ∨ e = .unorderedVersions kept.versionOrder)) ∧
    ((∀ x, x ∈ settings) → kept = c) ∧
    document format c Setting.all = "[handshake]\n" ++ render format c := by
  intro text kept
  have hparse : parse format text = kept.validate := parse_document hf c hd
  rw [hparse, validate]
  refine ⟨?_, ?_, c.keeping_of_all, rfl⟩
  · rintro ⟨hne, hdesc⟩
    have hc : kept.capabilitySet = .ok ⟨kept.versionOrder, hne, hdesc⟩ :=
      capabilitySet_of_versions rfl
    rw [hc]
  · intro hinvalid
    by_cases hnil : kept.versionOrder = []
    · have hc := capabilitySet_of_nil hnil
      exact ⟨_, by rw [hc], hc, .inl rfl⟩
    · have hdesc : descends kept.versionOrder = false := by
        rw [← Bool.not_eq_true, descends_iff]
        exact fun hdesc => hinvalid ⟨hnil, hdesc⟩
      have hc := capabilitySet_of_unordered hdesc
      exact ⟨_, by rw [hc], hc, .inr rfl⟩

theorem settings_round_trip_reordered :
    let format := External.configFormat ""
    let c : Config := ⟨[9, 4, 0], false, 4294967295⟩
    let settings := [Setting.rateLimit, .versionOrder]
    format.Documented ∧ settings.Nodup ∧
    document format c settings = "[handshake]\n" ++
      "device_connection_rate_limit_per_min = 4294967295\n" ++ "version_order = [9, 4, 0]\n" ∧
    parse format (document format c settings) = .ok ⟨[9, 4, 0], true, 4294967295⟩ := by
  intro format c settings
  have hf : format.Documented := External.documented_configFormat ""
  have hd : settings.Nodup := by decide
  obtain ⟨hvalid, -, -, -⟩ := settings_round_trip hf c hd
  exact ⟨hf, hd, by decide, hvalid ⟨by decide, by decide⟩⟩

end Config

end SwitchSession
