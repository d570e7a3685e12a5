import SwitchSession.Version.Bitmap

namespace SwitchSession

def descends : List Version → Bool
  | a :: b :: rest => decide (b < a) && descends (b :: rest)
  | _ => true

theorem descends_cons_cons {a b : Version} {rest : List Version} :
    descends (a :: b :: rest) = true ↔ b < a ∧ descends (b :: rest) = true := by
  simp [descends]

theorem descends_iff {vs : List Version} : descends vs = true ↔ vs.Pairwise (· > ·) := by
  induction vs with
  | nil => simp [descends]
  | cons a rest ih =>
    cases rest with
    | nil => simp [descends]
    | cons b rest =>
      rw [descends_cons_cons, ih, List.pairwise_cons (a := a)]
      constructor
      · rintro ⟨hab, hb⟩
        refine ⟨fun c hc => ?_, hb⟩
        cases hc with
        | head => exact hab
        | tail _ hc =>
          exact Fin.lt_trans ((List.pairwise_cons.1 hb).1 c hc) hab
      · rintro ⟨ha, hb⟩
        exact ⟨ha b (List.mem_cons_self), hb⟩

structure CapabilitySet where
  versions : List Version
  versions_ne_nil : versions ≠ []
  descending : versions.Pairwise (· > ·)

namespace CapabilitySet

def highest (c : CapabilitySet) : Version := c.versions.head c.versions_ne_nil

def bitmap (c : CapabilitySet) : VersionBitmap := .ofVersions c.versions

def atMost? (c : CapabilitySet) (limit : Version) : Option Version :=
  c.versions.find? (· ≤ limit)

def shared? (c : CapabilitySet) (bitmaps : List VersionBitmap) : Option Version :=
  c.versions.find? fun v => bitmaps.any (·.supports v)

theorem highest_mem (c : CapabilitySet) : c.highest ∈ c.versions :=
  List.head_mem c.versions_ne_nil

theorem mem_of_atMost? {c : CapabilitySet} {limit v : Version} (h : c.atMost? limit = some v) :
    v ∈ c.versions :=
  List.mem_of_find?_eq_some h

theorem mem_of_shared? {c : CapabilitySet} {bitmaps : List VersionBitmap} {v : Version}
    (h : c.shared? bitmaps = some v) : v ∈ c.versions :=
  List.mem_of_find?_eq_some h

end CapabilitySet

end SwitchSession
