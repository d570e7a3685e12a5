import Mathlib.Data.Finset.Sort
import Mathlib.Data.List.Sort
import Mathlib.Order.Fin.Basic
import SwitchSession.Version.Capabilities

namespace SwitchSession

namespace VersionBitmap

variable {b : VersionBitmap} {v : Version} {vs ws : List Version} {bits : List Bool}

/-- Sets the bit of a version, if there is one. -/
def checkedSet (bits : List Bool) (v : Version) : Option (List Bool) :=
  if v.val < bits.length then some (bits.set v.val true) else none

/-- The bitmap of a list, write by write; none if one of them misses the bits. -/
def checkedOfVersions (vs : List Version) : Option VersionBitmap :=
  (vs.foldlM checkedSet (List.replicate (width vs) false)).map VersionBitmap.mk

theorem foldlM_checkedSet (hb : ∀ v ∈ vs, v.val < bits.length) :
    vs.foldlM checkedSet bits =
      some (vs.foldl (fun bits v => bits.set v.val true) bits) := by
  induction vs generalizing bits with
  | nil => rfl
  | cons v vs ih =>
    rw [List.forall_mem_cons] at hb
    rw [List.foldlM_cons, checkedSet, if_pos hb.1, Option.bind_eq_bind, Option.bind_some]
    exact ih (by simpa only [List.length_set] using hb.2)

theorem checkedOfVersions_eq (vs : List Version) :
    checkedOfVersions vs = some (ofVersions vs) := by
  have hb : ∀ v ∈ vs, v.val < (List.replicate (width vs) false).length := by
    intro v hv
    rw [List.length_replicate]
    exact lt_width hv
  rw [checkedOfVersions, foldlM_checkedSet hb, Option.map_some]
  rfl

theorem supports_iff : b.supports v = true ↔ b.bits[v.val]? = some true := by
  rw [supports, List.getD_eq_getElem?_getD]
  cases b.bits[v.val]? <;> simp

theorem mem_versions : v ∈ b.versions ↔ b.supports v = true := by
  rw [supports_iff, versions, List.mem_filterMap]
  constructor
  · rintro ⟨⟨set, n⟩, hmem, hv⟩
    obtain ⟨rfl, hn⟩ := Option.ite_none_right_eq_some.1 hv
    rw [← Version.ofNat?_eq_some_iff.1 hn]
    exact List.mk_mem_zipIdx_iff_getElem?.1 hmem
  · intro h
    exact ⟨(true, v.val), List.mk_mem_zipIdx_iff_getElem?.2 h, Version.ofNat?_val v⟩

/-- The versions come in the order of their bits. -/
theorem pairwise_versions (b : VersionBitmap) : b.versions.Pairwise (· < ·) := by
  have hpos : b.bits.zipIdx.Pairwise fun x y => x.2 < y.2 := by
    rw [← List.pairwise_map, List.zipIdx_map_snd]
    exact List.pairwise_lt_range'
  rw [versions, List.pairwise_filterMap]
  refine hpos.imp ?_
  intro x y hlt v hv w hw
  have hv' := Version.ofNat?_eq_some_iff.1 (Option.ite_none_right_eq_some.1 hv).2
  have hw' := Version.ofNat?_eq_some_iff.1 (Option.ite_none_right_eq_some.1 hw).2
  rwa [hv', hw'] at hlt

/-- A strictly ascending list of just the versions that a bitmap supports is what it decodes to. -/
theorem versions_eq (hs : vs.Pairwise (· < ·)) (h : ∀ v, v ∈ vs ↔ b.supports v = true) :
    b.versions = vs :=
  b.pairwise_versions.eq_of_mem_iff hs fun v => mem_versions.trans (h v).symm

theorem versions_ofVersions (vs : List Version) :
    (ofVersions vs).versions = vs.toFinset.sort := by
  apply versions_eq vs.toFinset.sortedLT_sort.pairwise
  intro v
  rw [Finset.mem_sort, List.mem_toFinset, supports_ofVersions]

theorem supports_take (b : VersionBitmap) (v : Version) :
    (⟨b.bits.take 256⟩ : VersionBitmap).supports v = b.supports v := by
  rw [supports, supports, List.getD_eq_getElem?_getD, List.getD_eq_getElem?_getD,
    List.getElem?_take_of_lt v.isLt]

/-- Bits past the last version are not decoded. -/
theorem versions_take (b : VersionBitmap) :
    (⟨b.bits.take 256⟩ : VersionBitmap).versions = b.versions := by
  apply versions_eq b.pairwise_versions
  intro v
  rw [supports_take, mem_versions]

theorem width_le_iff {n : Nat} : width vs ≤ n ↔ ∀ v ∈ vs, v.val < n := by
  induction vs with
  | nil => simp [width]
  | cons v vs ih =>
    rw [List.forall_mem_cons, ← ih]
    exact max_le_iff

theorem length_foldl_set (vs : List Version) (bits : List Bool) :
    (vs.foldl (fun bits v => bits.set v.val true) bits).length = bits.length := by
  induction vs generalizing bits with
  | nil => rfl
  | cons v vs ih => rw [List.foldl_cons, ih, List.length_set]

theorem length_ofVersions (vs : List Version) : (ofVersions vs).bits.length = width vs := by
  rw [ofVersions, length_foldl_set, List.length_replicate]

/-- The encoder's bits are those that `supports` shows, up to the width. -/
theorem bits_ofVersions (vs : List Version) :
    (ofVersions vs).bits =
      (List.range (width vs)).map fun i => decide (∃ v ∈ vs, v.val = i) := by
  apply List.ext_getElem
  · rw [length_ofVersions, List.length_map, List.length_range]
  intro i hi hi'
  have hw : i < width vs := length_ofVersions vs ▸ hi
  have hlt : i < 256 := lt_of_lt_of_le hw (width_le_iff.2 fun v _ => v.isLt)
  have hsup := supports_ofVersions vs ⟨i, hlt⟩
  rw [supports_iff, List.getElem?_eq_getElem hi, Option.some.injEq] at hsup
  rw [List.getElem_map, List.getElem_range, Bool.eq_iff_iff, hsup, decide_eq_true_iff]
  constructor
  · intro hmem
    exact ⟨_, hmem, rfl⟩
  · rintro ⟨v, hmem, rfl⟩
    exact hmem

/-- Order and repetition leave no trace in the encoding. -/
theorem ofVersions_congr (h : ∀ v, v ∈ vs ↔ v ∈ ws) : ofVersions vs = ofVersions ws := by
  have hw : width vs = width ws := by
    apply eq_of_forall_ge_iff
    intro n
    simp only [width_le_iff, h]
  apply congrArg VersionBitmap.mk
  change (ofVersions vs).bits = (ofVersions ws).bits
  simp only [bits_ofVersions, hw, h]

theorem mem_versions_ofVersions : v ∈ (ofVersions vs).versions ↔ v ∈ vs := by
  rw [mem_versions, supports_ofVersions]

/-- Bitmaps encode sets of versions. The encoder writes in range only, and its bitmap supports and
decodes to just the versions of the list, in ascending order. Any bitmap decodes to the versions
that it supports, whatever lies past the last version, and encoding these supports the same ones; it
gives back a bitmap that the encoder made. -/
theorem encodes_sets (vs : List Version) (b : VersionBitmap) :
    checkedOfVersions vs = some (ofVersions vs) ∧
    (∀ v, (ofVersions vs).supports v = true ↔ v ∈ vs) ∧
    (ofVersions vs).versions = vs.toFinset.sort ∧
    b.versions.Pairwise (· < ·) ∧
    (∀ v, v ∈ b.versions ↔ b.supports v = true) ∧
    (⟨b.bits.take 256⟩ : VersionBitmap).versions = b.versions ∧
    (∀ v, (ofVersions b.versions).supports v = b.supports v) ∧
    ofVersions (ofVersions vs).versions = ofVersions vs := by
  refine ⟨checkedOfVersions_eq vs, supports_ofVersions vs, versions_ofVersions vs,
    b.pairwise_versions, fun _ => mem_versions, b.versions_take, ?_, ?_⟩
  · intro v
    rw [Bool.eq_iff_iff, supports_ofVersions, mem_versions]
  · exact ofVersions_congr fun _ => mem_versions_ofVersions

/-- Trailing zeros are lost on the way through the list of versions. -/
example :
    let b : VersionBitmap := ⟨[false, true, false, false, true, false, false]⟩
    ofVersions b.versions = ⟨[false, true, false, false, true]⟩ := by
  decide

end VersionBitmap

end SwitchSession
