import Mathlib.Data.List.Perm.Basic
import SwitchSession.External.ConfigFormat
import SwitchSession.Proofs.Toml.Layout

namespace SwitchSession

open Toml

namespace Setting

theorem key_injective : Function.Injective key := by
  intro x y h
  cases x <;> cases y <;> simp_all [key]

theorem bareKey_key (x : Setting) : BareKey x.key := by
  cases x <;> exact bareKey_of_all (by decide) rfl

end Setting

namespace Config

def value (c : Config) : Setting → Value
  | .versionOrder => .array (c.versionOrder.map fun v => .integer v.val)
  | .useVersionBitmap => .boolean c.useVersionBitmap
  | .rateLimit => .integer c.rateLimitPerMinute.toNat

/-- What the libraries promise of a format. -/
structure Format.Documented (format : Format) : Prop where
  /-- The reader of documents follows TOML 1.0. The order of the entries is its own. -/
  reads {name : String} {entries : Entries} {text : String} (h : IsTable name entries text) :
    ∃ found : Entries, format.read text = .ok [(name, .table found)] ∧ found.Perm entries
  /-- A setting is found under its key. One that is missing has its default, and other keys are
  ignored. -/
  decodes {entries : Entries} {c : Config} (hn : (entries.map Prod.fst).Nodup)
    (h : ∀ x : Setting, (x.key, c.value x) ∈ entries ∨
      x.key ∉ entries.map Prod.fst ∧ c.value x = ({} : Config).value x) :
    format.decode [("handshake", .table entries)] = .ok c
  /-- The line of a setting is one of TOML 1.0 and gives its key its value. -/
  writes (c : Config) (x : Setting) : Defines x.key (c.value x) (format.write c x).toList

end Config

namespace External

open Config

namespace ConfigFormat

theorem toList_listText (vs : List Version) : (Version.listText vs).toList =
    '[' :: ([',', ' '].intercalate (vs.map fun v => Nat.toDigits 10 v.val) ++ [']']) := by
  have htext : String.toList ∘ Version.text = fun v => Nat.toDigits 10 v.val :=
    funext fun _ => Nat.toList_repr
  rw [Version.listText, String.toList_append, String.toList_append, String.toList_intercalate,
    List.map_map, htext]
  rfl

theorem denotes_valueText (c : Config) (x : Setting) :
    Denotes (valueText c x).toList (c.value x) := by
  cases x with
  | versionOrder =>
    rw [valueText, toList_listText]
    refine .array (items_intercalate fun v _ => ?_)
    have hv := v.isLt
    exact .integer v.val (by omega)
  | useVersionBitmap =>
    rw [valueText, value]
    cases c.useVersionBitmap with
    | true => exact .scalar .yes
    | false => exact .scalar .no
  | rateLimit =>
    rw [valueText, Nat.toList_repr]
    have hr := c.rateLimitPerMinute.toNat_lt
    exact .scalar (.integer _ (by omega))

theorem versionOrder?_value (c : Config) :
    versionOrder? (c.value .versionOrder) = some c.versionOrder := by
  have hmap (vs : List Version) :
      (vs.map fun v => Value.integer v.val).mapM version? = some vs := by
    induction vs with
    | nil => rfl
    | cons v vs ih =>
      have hv : version? (.integer v.val) = some v := by
        show (if v.val < 256 then some v.val else none).bind Version.ofNat? = some v
        rw [if_pos v.isLt, Option.bind_some, Version.ofNat?_val]
      rw [List.map_cons, List.mapM_cons, hv, ih]
      rfl
  exact hmap c.versionOrder

theorem rate?_value (c : Config) : rate? (c.value .rateLimit) = some c.rateLimitPerMinute := by
  let r := c.rateLimitPerMinute
  show (if r.toNat < 4294967296 then some r.toNat else none).map UInt32.ofNat = some r
  rw [if_pos r.toNat_lt, Option.map_some, UInt32.ofNat_toNat]

theorem lookup_of_mem {entries : Entries} {key : String} {v : Value}
    (hn : (entries.map Prod.fst).Nodup) (h : (key, v) ∈ entries) :
    entries.lookup key = some v := by
  induction entries with
  | nil => cases h
  | cons e entries ih =>
    obtain ⟨hkey, hn⟩ := List.nodup_cons.1 hn
    cases h with
    | head => exact List.lookup_cons_self
    | tail _ h =>
      have hne : key ≠ e.1 := by
        rintro rfl
        exact hkey (List.mem_map.2 ⟨_, h, rfl⟩)
      rw [List.lookup_cons, beq_false_of_ne hne]
      exact ih hn h

theorem setting_lookup {entries : Entries} {read : Value → Option α} {field : Config → α}
    {c : Config} {x : Setting} (hread : ∀ c : Config, read (c.value x) = some (field c))
    (hn : (entries.map Prod.fst).Nodup)
    (h : (x.key, c.value x) ∈ entries ∨
      x.key ∉ entries.map Prod.fst ∧ c.value x = ({} : Config).value x) :
    setting read (field {}) (entries.lookup x.key) = some (field c) := by
  rcases h with hmem | ⟨hkey, hdefault⟩
  · rw [lookup_of_mem hn hmem]
    exact hread c
  · rw [Toml.lookup_eq_none hkey]
    exact (hread {}).symm.trans (hdefault ▸ hread c)

theorem ofEntries?_table {entries : Entries} {c : Config} (hn : (entries.map Prod.fst).Nodup)
    (h : ∀ x : Setting, (x.key, c.value x) ∈ entries ∨
      x.key ∉ entries.map Prod.fst ∧ c.value x = ({} : Config).value x) :
    ofEntries? [("handshake", .table entries)] = some c := by
  have horder := setting_lookup versionOrder?_value hn (h .versionOrder)
  have hflag : setting flag? ({} : Config).useVersionBitmap
      (entries.lookup Setting.useVersionBitmap.key) = some c.useVersionBitmap :=
    setting_lookup (fun _ => rfl) hn (h .useVersionBitmap)
  have hrate := setting_lookup rate?_value hn (h .rateLimit)
  rw [ofEntries?, List.lookup_cons_self]
  show ofSettings _ _ _ = some c
  rw [ofSettings, horder, hflag, hrate]
  rfl

end ConfigFormat

/-- What is asked of the libraries can be had: the stand-in keeps to it. -/
theorem documented_configFormat (detail : String) : (configFormat detail).Documented where
  reads h := by
    refine ⟨_, ?_, .refl _⟩
    show ((Toml.document? _).map Toml.plainEntries).elim _ _ = _
    rw [Toml.document?_of_isTable h]
    rfl
  decodes hn h := by
    show (ConfigFormat.ofEntries? _).elim _ _ = _
    rw [ConfigFormat.ofEntries?_table hn h]
    rfl
  writes c x := by
    refine ⟨x.bareKey_key, [], [' '], [' '], (ConfigFormat.valueText c x).toList, [],
      List.forall_mem_nil _, ?_, ?_, ConfigFormat.denotes_valueText c x, List.forall_mem_nil _, ?_⟩
    · simp [Blanks]
    · simp [Blanks]
    · simp [configFormat, String.toList_append]

end External

end SwitchSession
