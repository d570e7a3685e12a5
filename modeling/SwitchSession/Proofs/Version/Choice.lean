import Mathlib.Order.Bounds.Basic
import Mathlib.Order.Fin.Basic
import SwitchSession.Version.Proposal

namespace SwitchSession

theorem isGreatest_of_find? {vs : List Version} (hd : vs.Pairwise (· > ·)) {p : Version → Bool}
    (h : vs.find? p = some v) : IsGreatest {w | w ∈ vs ∧ p w} v := by
  refine ⟨⟨List.mem_of_find?_eq_some h, List.find?_some h⟩, ?_⟩
  rintro w ⟨hw, hpw⟩
  obtain ⟨_, before, after, rfl, hb⟩ := List.find?_eq_some_iff_append.1 h
  rcases List.mem_append.1 hw with hw | hw
  · exact absurd hpw (by simpa using hb w hw)
  · have ha := List.pairwise_cons.1 (List.pairwise_append.1 hd).2.1
    rcases List.mem_cons.1 hw with rfl | hw
    · exact le_refl _
    · exact le_of_lt (ha.1 w hw)

theorem find?_eq_some_iff_isGreatest {vs : List Version} (hd : vs.Pairwise (· > ·))
    {p : Version → Bool} : vs.find? p = some v ↔ IsGreatest {w | w ∈ vs ∧ p w} v := by
  refine ⟨isGreatest_of_find? hd, fun hg => ?_⟩
  cases h : vs.find? p with
  | none => exact absurd hg.1.2 (by simpa using List.find?_eq_none.1 h v hg.1.1)
  | some w => rw [(isGreatest_of_find? hd h).unique hg]

namespace CapabilitySet

theorem atMost?_eq_some_iff {c : CapabilitySet} :
    c.atMost? limit = some v ↔ IsGreatest {w | w ∈ c.versions ∧ w ≤ limit} v := by
  have h := find?_eq_some_iff_isGreatest (v := v) c.descending (p := fun w => decide (w ≤ limit))
  simp only [decide_eq_true_eq] at h
  exact h

theorem atMost?_eq_none_iff {c : CapabilitySet} :
    c.atMost? limit = none ↔ ∀ w ∈ c.versions, limit < w := by
  simp only [atMost?, List.find?_eq_none, decide_eq_true_eq, not_le]

theorem shared?_eq_some_iff {c : CapabilitySet} : c.shared? bs = some v ↔
    IsGreatest {w | w ∈ c.versions ∧ bs.any (·.supports w)} v :=
  find?_eq_some_iff_isGreatest c.descending

theorem shared?_eq_none_iff {c : CapabilitySet} :
    c.shared? bs = none ↔ ∀ b ∈ bs, ∀ w ∈ c.versions, b.supports w = false := by
  simp only [shared?, List.find?_eq_none, List.any_eq_true, not_exists, not_and,
    Bool.not_eq_true]
  exact ⟨fun h b hb w hw => h w hw b hb, fun h w hw b hb => h b hb w hw⟩

theorem isGreatest_highest (c : CapabilitySet) : IsGreatest {w | w ∈ c.versions} c.highest := by
  obtain ⟨versions, hne, hd⟩ := c
  cases versions with
  | nil => exact absurd rfl hne
  | cons a rest =>
    refine ⟨List.mem_cons_self, ?_⟩
    intro w hw
    rcases List.mem_cons.1 hw with rfl | hw
    · exact le_refl _
    · exact le_of_lt ((List.pairwise_cons.1 hd).1 w hw)

end CapabilitySet

end SwitchSession
