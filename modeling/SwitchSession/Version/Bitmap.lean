import SwitchSession.Version

namespace SwitchSession

/-- A bitmap of any length; bits past the end are unset. -/
structure VersionBitmap where
  bits : List Bool
deriving DecidableEq

namespace VersionBitmap

def supports (b : VersionBitmap) (v : Version) : Bool := b.bits.getD v.val false

def versions (b : VersionBitmap) : List Version :=
  b.bits.zipIdx.filterMap fun (set, n) => if set then Version.ofNat? n else none

def width (vs : List Version) : Nat := vs.foldr (fun v n => max (v.val + 1) n) 0

/-- The shortest bitmap with exactly the listed versions set. -/
def ofVersions (vs : List Version) : VersionBitmap :=
  ⟨vs.foldl (fun bits v => bits.set v.val true) (List.replicate (width vs) false)⟩

theorem lt_width {v : Version} {vs : List Version} (h : v ∈ vs) : v.val < width vs := by
  induction vs with
  | nil => cases h
  | cons w vs ih =>
    simp only [width, List.foldr_cons]
    cases h with
    | head => omega
    | tail _ h => have := ih h; simp only [width] at this; omega

theorem getD_foldl_set {vs : List Version} {bits : List Bool}
    (hb : ∀ v ∈ vs, v.val < bits.length) (w : Version) :
    (vs.foldl (fun bits v => bits.set v.val true) bits).getD w.val false = true ↔
      bits.getD w.val false = true ∨ w ∈ vs := by
  induction vs generalizing bits with
  | nil => simp
  | cons v vs ih =>
    have hv : v.val < bits.length := hb v List.mem_cons_self
    have hvs : ∀ u ∈ vs, u.val < (bits.set v.val true).length := by
      intro u hu
      rw [List.length_set]
      exact hb u (List.mem_cons_of_mem v hu)
    rw [List.foldl_cons, ih hvs]
    by_cases h : w = v
    · subst w
      simp [List.getD_eq_getElem?_getD, hv]
    · have hne : v.val ≠ w.val := fun he => h (Fin.ext he.symm)
      simp [List.getD_eq_getElem?_getD, List.getElem?_set_ne hne, h]

theorem supports_ofVersions (vs : List Version) (v : Version) :
    (ofVersions vs).supports v = true ↔ v ∈ vs := by
  have hb : ∀ u ∈ vs, u.val < (List.replicate (width vs) false).length := by
    intro u hu
    rw [List.length_replicate]
    exact lt_width hu
  have hz : (List.replicate (width vs) false).getD v.val false = false := by
    simp only [List.getD_eq_getElem?_getD, List.getElem?_replicate]
    split <;> rfl
  rw [ofVersions, supports, getD_foldl_set hb, hz]
  exact or_iff_right Bool.false_ne_true

end VersionBitmap

end SwitchSession
