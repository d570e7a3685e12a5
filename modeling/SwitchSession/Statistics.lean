namespace SwitchSession

inductive SessionEvent
  | created
  | disconnectedByController
  | handshakeFailed
deriving DecidableEq

/-- The counters of one device. They stand for counters of 64 bits while fewer than `2 ^ 64` events
are recorded. -/
structure Tally where
  created : Nat := 0
  disconnected : Nat := 0
  failed : Nat := 0
deriving DecidableEq

namespace Tally

def count (t : Tally) : SessionEvent → Nat
  | .created => t.created
  | .disconnectedByController => t.disconnected
  | .handshakeFailed => t.failed

def bump (t : Tally) : SessionEvent → Tally
  | .created => { t with created := t.created + 1 }
  | .disconnectedByController => { t with disconnected := t.disconnected + 1 }
  | .handshakeFailed => { t with failed := t.failed + 1 }

theorem count_bump (t : Tally) (e f : SessionEvent) :
    (t.bump e).count f = t.count f + if e = f then 1 else 0 := by
  cases e <;> cases f <;> rfl

end Tally

/-- The tallies in the order in which their devices were first seen. A device that has finished its
handshake has one under its node id, a failed handshake counts under the remote address. -/
structure Statistics where
  tallies : List (String × Tally) := []
deriving DecidableEq

namespace Statistics

def bumpIn (device : String) (event : SessionEvent) :
    List (String × Tally) → List (String × Tally)
  | [] => [(device, Tally.bump {} event)]
  | (d, t) :: rest =>
    if d = device then (d, t.bump event) :: rest else (d, t) :: bumpIn device event rest

def record (s : Statistics) (device : String) (event : SessionEvent) : Statistics :=
  ⟨bumpIn device event s.tallies⟩

def count (s : Statistics) (device : String) (event : SessionEvent) : Nat :=
  ((s.tallies.lookup device).getD {}).count event

theorem lookup_bumpIn (device d : String) (event : SessionEvent) (ts : List (String × Tally)) :
    ((bumpIn device event ts).lookup d).getD {} =
      if d = device then ((ts.lookup d).getD {}).bump event else (ts.lookup d).getD {} := by
  have hlookup (k : String) (t : Tally) (rest : List (String × Tally)) :
      ((k, t) :: rest).lookup d = if d = k then some t else rest.lookup d := by
    by_cases h : d = k
    · simp [h]
    · rw [List.lookup_cons, beq_false_of_ne h, if_neg h]
  induction ts with
  | nil =>
    rw [bumpIn, hlookup]
    split <;> rfl
  | cons entry rest ih =>
    obtain ⟨other, t⟩ := entry
    by_cases ho : other = device
    · by_cases hd : d = device <;> simp [bumpIn, hlookup, ho, hd]
    · by_cases hd : d = other
      · simp [bumpIn, ho, hd]
      · simpa [bumpIn, hlookup, ho, hd] using ih

theorem count_record (s : Statistics) (device d : String) (event e : SessionEvent) :
    (s.record device event).count d e =
      s.count d e + if d = device ∧ e = event then 1 else 0 := by
  unfold count record
  rw [lookup_bumpIn]
  by_cases hd : d = device <;> simp [hd, Tally.count_bump, eq_comm (a := e)]

def total (s : Statistics) (event : SessionEvent) : Nat :=
  s.tallies.foldr (fun entry n => entry.2.count event + n) 0

theorem total_record (s : Statistics) (device : String) (event e : SessionEvent) :
    (s.record device event).total e = s.total e + if event = e then 1 else 0 := by
  obtain ⟨tallies⟩ := s
  unfold total record
  induction tallies with
  | nil => cases event <;> cases e <;> rfl
  | cons entry rest ih =>
    obtain ⟨other, t⟩ := entry
    by_cases ho : other = device
    · simp only [bumpIn, ho, if_true, List.foldr_cons, Tally.count_bump]
      omega
    · simp only [bumpIn, ho, if_false, List.foldr_cons] at ih ⊢
      omega

def reset (s : Statistics) (device : String) : Statistics :=
  ⟨s.tallies.filter fun entry => entry.1 != device⟩

theorem reset_record_self (s : Statistics) (device : String) (event : SessionEvent) :
    (s.record device event).reset device = s.reset device := by
  obtain ⟨tallies⟩ := s
  apply congrArg mk
  unfold record
  induction tallies with
  | nil => simp [bumpIn]
  | cons entry rest ih =>
    obtain ⟨other, t⟩ := entry
    by_cases ho : other = device
    · simp [bumpIn, ho]
    · simpa [bumpIn, ho] using ih

theorem reset_record_of_ne (s : Statistics) {device d : String} (hd : device ≠ d)
    (event : SessionEvent) : (s.record device event).reset d = (s.reset d).record device event := by
  obtain ⟨tallies⟩ := s
  apply congrArg mk
  unfold record reset
  induction tallies with
  | nil => simp [bumpIn, hd]
  | cons entry rest ih =>
    obtain ⟨other, t⟩ := entry
    by_cases ho : other = device
    · simp [bumpIn, ho, hd]
    · by_cases hod : other = d
      · subst hod
        simpa [bumpIn, ho] using ih
      · simpa [bumpIn, ho, hod] using ih

end Statistics

end SwitchSession
