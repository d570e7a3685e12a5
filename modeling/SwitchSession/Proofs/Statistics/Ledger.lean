import SwitchSession.Statistics
import Mathlib.Algebra.BigOperators.Group.Finset.Piecewise
import Mathlib.Data.List.DropRight

namespace SwitchSession

/-- A device, or a remote address, and what is counted for it. -/
abbrev Entry := String × SessionEvent

/-- Each entry counts for its own device and for no other. -/
theorem countP_event_eq_sum (event : SessionEvent) {entries : List Entry} {devices : Finset String}
    (h : ∀ entry ∈ entries, entry.1 ∈ devices) :
    entries.countP (·.2 == event) = ∑ device ∈ devices, entries.count (device, event) := by
  induction entries with
  | nil => simp
  | cons entry rest ih =>
    obtain ⟨hentry, hrest⟩ := List.forall_mem_cons.1 h
    have hone : ∑ device ∈ devices, (if entry == (device, event) then 1 else 0) =
        if entry.2 == event then 1 else 0 := by
      obtain ⟨d, e⟩ := entry
      by_cases he : e = event
      · simpa [he] using hentry
      · simp [he]
    simp only [List.countP_cons, List.count_cons, Finset.sum_add_distrib]
    rw [ih hrest, hone]

namespace Statistics

def recordAll (s : Statistics) (entries : List Entry) : Statistics :=
  entries.foldl (fun s entry => s.record entry.1 entry.2) s

theorem recordAll_cons (s : Statistics) (entry : Entry) (rest : List Entry) :
    s.recordAll (entry :: rest) = (s.record entry.1 entry.2).recordAll rest := rfl

theorem recordAll_append (s : Statistics) (entries more : List Entry) :
    s.recordAll (entries ++ more) = (s.recordAll entries).recordAll more :=
  List.foldl_append

theorem count_recordAll (s : Statistics) (entries : List Entry) (device : String)
    (event : SessionEvent) :
    (s.recordAll entries).count device event =
      s.count device event + entries.count (device, event) := by
  induction entries generalizing s with
  | nil => rfl
  | cons entry rest ih =>
    have he : (entry == (device, event)) = true ↔ device = entry.1 ∧ event = entry.2 := by
      rw [beq_iff_eq, Prod.ext_iff, eq_comm, eq_comm (a := entry.2)]
    rw [recordAll_cons, ih, count_record, List.count_cons]
    simp only [he]
    omega

theorem total_recordAll (s : Statistics) (entries : List Entry) (event : SessionEvent) :
    (s.recordAll entries).total event = s.total event + entries.countP (·.2 == event) := by
  induction entries generalizing s with
  | nil => rfl
  | cons entry rest ih =>
    rw [recordAll_cons, ih, total_record, List.countP_cons]
    simp only [beq_iff_eq]
    omega

theorem reset_recordAll (s : Statistics) (entries : List Entry) (device : String) :
    (s.recordAll entries).reset device =
      (s.reset device).recordAll (entries.filter (·.1 != device)) := by
  induction entries generalizing s with
  | nil => rfl
  | cons entry rest ih =>
    rw [recordAll_cons, ih]
    by_cases hd : entry.1 = device
    · rw [List.filter_cons_of_neg (by simpa using hd), hd, reset_record_self]
    · rw [List.filter_cons_of_pos (by simpa using hd), recordAll_cons, reset_record_of_ne _ hd]

inductive Update
  | record (device : String) (event : SessionEvent)
  | reset (device : String)
deriving DecidableEq

def update (s : Statistics) : Update → Statistics
  | .record device event => s.record device event
  | .reset device => s.reset device

def updateAll (s : Statistics) (updates : List Update) : Statistics := updates.foldl update s

namespace Update

def device : Update → String
  | .record device _ => device
  | .reset device => device

def entry? : Update → Option Entry
  | .record device event => some (device, event)
  | .reset _ => none

/-- The records that no reset of their device has followed. -/
def kept : List Update → List Entry
  | [] => []
  | .record device event :: later =>
    if .reset device ∈ later then kept later else (device, event) :: kept later
  | .reset _ :: later => kept later

theorem kept_record (before : List Update) (device : String) (event : SessionEvent) :
    kept (before ++ [.record device event]) = kept before ++ [(device, event)] := by
  induction before with
  | nil => rfl
  | cons u before ih =>
    cases u with
    | record d e =>
      by_cases hr : .reset d ∈ before
      · simp [kept, hr, ih]
      · simp [kept, hr, ih]
    | reset => exact ih

theorem kept_reset (before : List Update) (device : String) :
    kept (before ++ [.reset device]) = (kept before).filter (·.1 != device) := by
  induction before with
  | nil => rfl
  | cons u before ih =>
    cases u with
    | record d e =>
      by_cases hr : .reset d ∈ before
      · simp [kept, hr, ih]
      · by_cases hd : d = device
        · subst hd
          simp [kept, hr, ih]
        · simp [kept, hr, ih, hd]
    | reset => exact ih

theorem kept_sublist (updates : List Update) : (kept updates).Sublist (updates.filterMap entry?) := by
  induction updates with
  | nil => exact .slnil
  | cons u later ih =>
    cases u with
    | record d e =>
      have he : (record d e :: later).filterMap entry? = (d, e) :: later.filterMap entry? := rfl
      rw [kept, he]
      split
      · exact ih.cons _
      · exact ih.cons_cons _
    | reset => exact ih

theorem device_of_mem_kept {updates : List Update} (h : entry ∈ kept updates) :
    ∃ u ∈ updates, u.device = entry.1 := by
  obtain ⟨u, hu, he⟩ := List.mem_filterMap.1 ((kept_sublist updates).subset h)
  cases u with
  | record => cases he; exact ⟨_, hu, rfl⟩
  | reset => cases he

/-- What is kept of an event of a device are its records since the last reset of the device. -/
theorem count_kept (updates : List Update) (device : String) (event : SessionEvent) :
    (kept updates).count (device, event) =
      (updates.rtakeWhile (· ≠ .reset device)).count (.record device event) := by
  induction updates using List.reverseRecOn with
  | nil => rfl
  | append_singleton before u ih =>
    cases u with
    | record d e =>
      have heq : ((d, e) == (device, event)) = (record d e == record device event) := by
        rw [Bool.eq_iff_iff, beq_iff_eq, beq_iff_eq, Prod.mk.injEq, record.injEq]
      rw [kept_record, List.rtakeWhile_concat_pos _ _ _ (by simp), List.count_append,
        List.count_append, ih, List.count_singleton, List.count_singleton, heq]
    | reset d =>
      rw [kept_reset]
      by_cases hd : d = device
      · rw [List.rtakeWhile_concat_neg _ _ _ (by simp [hd]), List.count_nil]
        apply List.count_eq_zero_of_not_mem
        simp [hd]
      · rw [List.rtakeWhile_concat_pos _ _ _ (by simpa using hd), List.count_append, ← ih,
          List.count_filter (by simpa using Ne.symm hd)]
        rfl

theorem kept_swap (before later : List Update) {u u' : Update} (h : u.device ≠ u'.device) :
    (kept (before ++ u :: u' :: later)).Perm (kept (before ++ u' :: u :: later)) := by
  induction before with
  | nil =>
    cases u with
    | record d e =>
      cases u' with
      | record d' e' =>
        by_cases hr : .reset d ∈ later
        · simp [kept, hr]
        · by_cases hr' : .reset d' ∈ later
          · simp [kept, hr, hr']
          · simpa [kept, hr, hr'] using List.Perm.swap _ _ _
      | reset d' =>
        have hd : d ≠ d' := h
        simp [kept, hd]
    | reset d =>
      cases u' with
      | record d' e' =>
        have hd : d' ≠ d := h.symm
        simp [kept, hd]
      | reset => exact .refl _
  | cons x before ih =>
    cases x with
    | record d e =>
      have hr : .reset d ∈ before ++ u :: u' :: later ↔ .reset d ∈ before ++ u' :: u :: later := by
        simp [or_left_comm]
      by_cases hm : .reset d ∈ before ++ u' :: u :: later
      · simpa [kept, hr, hm] using ih
      · simpa [kept, hr, hm] using ih
    | reset => exact ih

end Update

theorem updateAll_append (s : Statistics) (before later : List Update) :
    s.updateAll (before ++ later) = (s.updateAll before).updateAll later :=
  List.foldl_append

open Update

/-- The tallies themselves are those of the records kept, in the order of these. -/
theorem updateAll_eq_recordAll (updates : List Update) :
    ({} : Statistics).updateAll updates = ({} : Statistics).recordAll (kept updates) := by
  induction updates using List.reverseRecOn with
  | nil => rfl
  | append_singleton before u ih =>
    rw [updateAll_append, ih]
    cases u with
    | record d e =>
      rw [kept_record, recordAll_append]
      rfl
    | reset d =>
      rw [kept_reset]
      exact reset_recordAll {} (kept before) d

theorem count_updateAll (updates : List Update) (device : String) (event : SessionEvent) :
    (({} : Statistics).updateAll updates).count device event =
      (kept updates).count (device, event) := by
  have hempty : ({} : Statistics).count device event = 0 := by cases event <;> rfl
  rw [updateAll_eq_recordAll, count_recordAll, hempty, Nat.zero_add]

theorem total_updateAll (updates : List Update) (event : SessionEvent) :
    (({} : Statistics).updateAll updates).total event =
      (kept updates).countP (·.2 == event) := by
  rw [updateAll_eq_recordAll, total_recordAll]
  exact Nat.zero_add _

theorem count_reset_of_ne (updates : List Update) {device d : String} (hd : d ≠ device)
    (event : SessionEvent) :
    ((({} : Statistics).updateAll updates).reset device).count d event =
      (({} : Statistics).updateAll updates).count d event := by
  calc ((({} : Statistics).updateAll updates).reset device).count d event
      = (({} : Statistics).updateAll (updates ++ [.reset device])).count d event := by
        rw [updateAll_append]
        rfl
    _ = ((kept updates).filter (·.1 != device)).count (d, event) := by
        rw [count_updateAll, kept_reset]
    _ = (kept updates).count (d, event) := List.count_filter (by simpa using hd)
    _ = (({} : Statistics).updateAll updates).count d event := (count_updateAll ..).symm

/-- Whatever is recorded and reset, and in whatever order: a counter is the number of records of its
event for its device since the last reset of the device. The total of an event counts its records
that no reset of their device has followed. It is the sum over all devices, and at most the number of
records made: 64 bits are enough as long as there are fewer than 2 ^ 64 of these. Calls for one
device leave the counters of the others alone, and calls for two devices may change places. -/
theorem counts_what_was_recorded (updates : List Update) :
    let s := ({} : Statistics).updateAll updates
    (∀ device event, s.count device event =
      (updates.rtakeWhile (· ≠ .reset device)).count (.record device event)) ∧
    (∀ event, s.total event = (kept updates).countP (·.2 == event)) ∧
    (∀ event (devices : Finset String), (∀ u ∈ updates, u.device ∈ devices) →
      s.total event = ∑ device ∈ devices, s.count device event) ∧
    (∀ device event, s.count device event ≤ s.total event ∧
      s.total event ≤ (updates.filterMap entry?).length) ∧
    (∀ device event d e, (d, e) ≠ (device, event) →
      (s.record device event).count d e = s.count d e) ∧
    (∀ device d e, d ≠ device → (s.reset device).count d e = s.count d e) ∧
    ∀ u u' later, u.device ≠ u'.device →
      let t := ((s.update u).update u').updateAll later
      let t' := ((s.update u').update u).updateAll later
      (∀ device event, t.count device event = t'.count device event) ∧
        ∀ event, t.total event = t'.total event := by
  intro s
  refine ⟨?_, total_updateAll updates, ?_, ?_, ?_, ?_, ?_⟩
  · intro device event
    rw [← count_kept]
    exact count_updateAll updates device event
  · intro event devices hdevices
    have hkept : ∀ entry ∈ kept updates, entry.1 ∈ devices := by
      intro entry hentry
      obtain ⟨u, hu, hd⟩ := device_of_mem_kept hentry
      exact hd ▸ hdevices u hu
    calc s.total event = (kept updates).countP (·.2 == event) := total_updateAll updates event
      _ = ∑ device ∈ devices, (kept updates).count (device, event) :=
          countP_event_eq_sum event hkept
      _ = ∑ device ∈ devices, s.count device event :=
          Finset.sum_congr rfl fun device _ => (count_updateAll updates device event).symm
  · intro device event
    rw [count_updateAll, total_updateAll]
    constructor
    · apply List.countP_mono_left
      intro entry _ he
      rw [beq_iff_eq] at he
      simp [he]
    · exact List.countP_le_length.trans (kept_sublist updates).length_le
  · intro device event d e hne
    have hother : ¬(d = device ∧ e = event) := by simpa using hne
    rw [count_record, if_neg hother, Nat.add_zero]
  · intro device d e hd
    exact count_reset_of_ne updates hd e
  · intro u u' later hu
    have hperm := kept_swap updates later hu
    have hplay (u u' : Update) : ((s.update u).update u').updateAll later =
        ({} : Statistics).updateAll (updates ++ u :: u' :: later) :=
      (updateAll_append {} updates (u :: u' :: later)).symm
    intro t t'
    simp only [t, t', hplay, count_updateAll, total_updateAll]
    exact ⟨fun device event => hperm.count_eq (device, event), fun event => hperm.countP_eq _⟩

/-- What a reset drops is not in the total either, and the device counts from nothing again. -/
example :
    let s := ({} : Statistics).updateAll [.record "openflow:1" .created,
      .record "openflow:1" .created, .record "openflow:2" .created, .reset "openflow:1",
      .record "openflow:1" .created]
    s.count "openflow:1" .created = 1 ∧ s.total .created = 2 := by
  decide

end Statistics

end SwitchSession
