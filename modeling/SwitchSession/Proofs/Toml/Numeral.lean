import SwitchSession.External.Toml.Document

namespace SwitchSession.External.Toml

open Text

variable {c d stop : Char} {ds s t rest : List Char} {n : Nat}

/-- The characters that may follow a value. -/
def isStop (c : Char) : Bool := isBlank c || c == '\n' || c == ',' || c == ']'

theorem isStop_cases (h : isStop c = true) : c = ' ' ∨ c = '\t' ∨ c = '\n' ∨ c = ',' ∨ c = ']' := by
  simpa [isStop, isBlank, or_assoc] using h

/-- A character of some class is none of those outside it. -/
theorem ne_of_class {p : Char → Bool} (hc : p c = true) (hd : p d = false) : c ≠ d := by
  rintro rfl
  exact Bool.noConfusion (hd.symm.trans hc)

theorem append_ne_cons {p : Char → Bool} (hne : s ≠ []) (hs : ∀ c ∈ s, p c = true)
    (hd : p d = false) : s ++ rest ≠ d :: t := by
  obtain ⟨c, s, rfl⟩ := List.exists_cons_of_ne_nil hne
  intro he
  exact ne_of_class (hs c List.mem_cons_self) hd (List.cons.inj he).1

theorem digitValue?_of_isDigit (h : c.isDigit = true) : digitValue? c = some (c.toNat - 48) := by
  rw [Char.isDigit, Bool.and_eq_true, decide_eq_true_iff, decide_eq_true_iff] at h
  exact if_pos h

theorem isDigitIn_of_isDigit (h : c.isDigit = true) : isDigitIn 10 c = true := by
  rw [isDigitIn, digitValue?_of_isDigit h, Option.any_some, decide_eq_true_iff]
  rw [Char.isDigit, Bool.and_eq_true, decide_eq_true_iff, decide_eq_true_iff] at h
  have hle : c.toNat ≤ 57 := UInt32.le_iff_toNat_le.1 h.2
  omega

theorem isDigitIn_of_isStop (h : isStop c = true) : isDigitIn 10 c = false := by
  rcases isStop_cases h with rfl | rfl | rfl | rfl | rfl <;> rfl

theorem isDigit_of_mem_toDigits (hc : c ∈ Nat.toDigits 10 n) : c.isDigit = true :=
  Nat.isDigit_of_mem_toDigits (by decide) (by decide) hc

theorem toDigits_ne_cons (hd : d.isDigit = false) : Nat.toDigits 10 n ++ rest ≠ d :: t :=
  append_ne_cons Nat.toDigits_ne_nil (fun _ => isDigit_of_mem_toDigits) hd

theorem toDigits_eq_cons (n : Nat) : ∃ d ds, Nat.toDigits 10 n = d :: ds ∧ (d = '0' → n = 0) := by
  induction n using Nat.strongRecOn with
  | ind n ih =>
    by_cases hn : n < 10
    · exact ⟨n.digitChar, [], Nat.toDigits_of_lt_base hn, Nat.digitChar_eq_zero.1⟩
    · -- the first digit is that of the tens, of which there is at least one
      obtain ⟨d, ds, hds, hzero⟩ := ih (n / 10) (by omega)
      refine ⟨d, ds ++ [(n % 10).digitChar], ?_, fun h => absurd (hzero h) (by omega)⟩
      rw [Nat.toDigits_of_base_le (by decide) (by omega), hds, List.cons_append]

/-- A numeral starts with a zero only as the whole of it. -/
theorem eq_stop_of_zero (h : Nat.toDigits 10 n ++ stop :: rest = '0' :: c :: ds) : c = stop := by
  obtain ⟨d, ds', hds, hzero⟩ := toDigits_eq_cons n
  have hd : d = '0' := by
    rw [hds] at h
    exact (List.cons.inj h).1
  rw [hzero hd, Nat.toDigits_zero] at h
  exact (List.cons.inj (List.cons.inj h).2).1.symm

theorem moreDigits_append (hds : ∀ c ∈ ds, c.isDigit = true) (hstop : isStop stop = true) :
    moreDigits 10 (ds ++ stop :: rest) = (ds, stop :: rest) := by
  induction ds with
  | nil =>
    rw [List.nil_append, moreDigits]
    · rw [isDigitIn_of_isStop hstop]
      rfl
    · intro _ _ h
      exact absurd h (ne_of_class hstop rfl)
  | cons c ds ih =>
    rw [List.forall_mem_cons] at hds
    rw [List.cons_append, moreDigits, isDigitIn_of_isDigit hds.1, ih hds.2]
    · rfl
    · intro _ _ h
      exact absurd h (ne_of_class hds.1 rfl)

theorem plainDigits_toDigits (hstop : isStop stop = true) :
    plainDigits (Nat.toDigits 10 n ++ stop :: rest) =
      some (Nat.toDigits 10 n, stop :: rest) := by
  obtain ⟨d, ds, hds, hzero⟩ := toDigits_eq_cons n
  have hall : ∀ c ∈ d :: ds, c.isDigit = true := fun _ hc => isDigit_of_mem_toDigits (hds ▸ hc)
  by_cases h : d = '0'
  · rw [hzero h, Nat.toDigits_zero]
    rfl
  · rw [List.forall_mem_cons] at hall
    rw [hds, List.cons_append, plainDigits]
    · rw [digits, isDigitIn_of_isDigit hall.1, moreDigits_append hall.2 hstop]
      rfl
    · intro _ he
      exact h (List.cons.inj he).1

theorem ofDigits_toDigits (n : Nat) : ofDigits 10 (Nat.toDigits 10 n) = n := by
  have hfold (ds : List Char) (hds : ∀ c ∈ ds, c.isDigit = true) (m : Nat) :
      ds.foldl (fun n c => n * 10 + (digitValue? c).getD 0) m = Nat.ofDigitChars 10 ds m := by
    induction ds generalizing m with
    | nil => rfl
    | cons c ds ih =>
      rw [List.forall_mem_cons] at hds
      rw [List.foldl_cons, ih hds.2, digitValue?_of_isDigit hds.1, Nat.ofDigitChars_cons,
        Nat.mul_comm]
      rfl
  rw [ofDigits, hfold _ fun _ => isDigit_of_mem_toDigits]
  exact Nat.ofDigitChars_ten_toDigits

theorem integerOf_natCast (hn : n ≤ 9223372036854775807) :
    integerOf (n : Int) = some (.integer n) := by
  rw [integerOf, if_pos]
  rw [inSignedRange, Bool.and_eq_true, decide_eq_true_iff, decide_eq_true_iff]
  omega

theorem unsigned_toDigits (hn : n ≤ 9223372036854775807) (hstop : isStop stop = true) :
    unsigned false (Nat.toDigits 10 n ++ stop :: rest) = some (.integer n, stop :: rest) := by
  rw [unsigned, plainDigits_toDigits hstop]
  · have hread : integerOf (ofDigits 10 (Nat.toDigits 10 n) : Int) = some (.integer n) := by
      rw [ofDigits_toDigits, integerOf_natCast hn]
    simp only [Bool.false_eq_true, if_false, hread, Option.map_some]
    rcases isStop_cases hstop with rfl | rfl | rfl | rfl | rfl <;> rfl
  all_goals exact fun _ => toDigits_ne_cons rfl

theorem number_toDigits (hn : n ≤ 9223372036854775807) (hstop : isStop stop = true) :
    number (Nat.toDigits 10 n ++ stop :: rest) = some (.integer n, stop :: rest) := by
  have hsign : sign (Nat.toDigits 10 n ++ stop :: rest) =
      (false, Nat.toDigits 10 n ++ stop :: rest) := by
    rw [sign] <;> exact fun _ => toDigits_ne_cons rfl
  rw [number, hsign]
  · exact unsigned_toDigits hn hstop
  -- the base of a number stands behind a zero
  all_goals
    intro _ he
    exact ne_of_class hstop rfl (eq_stop_of_zero he).symm

theorem mark_digits (hds : ∀ c ∈ ds, c.isDigit = true) (hc : c.isDigit = false) (hs : stop ≠ c) :
    mark c (ds ++ stop :: rest) = none := by
  cases ds with
  | nil =>
    rw [List.nil_append, mark, if_neg]
    simpa using hs
  | cons d ds =>
    rw [List.cons_append, mark, if_neg]
    simpa using ne_of_class (hds d List.mem_cons_self) hc

/-- Some of the digits are taken, and what is left are digits up to the stop. -/
theorem fixedDigits_digits (hds : ∀ c ∈ ds, c.isDigit = true) (hstop : isStop stop = true)
    {count : Nat} {s : List Char} (h : fixedDigits count (ds ++ stop :: rest) = some (n, s)) :
    ∃ ds', s = ds' ++ stop :: rest ∧ ∀ c ∈ ds', c.isDigit = true := by
  obtain ⟨⟨-, htake⟩, hs⟩ := Option.ite_none_right_eq_some.1 h
  cases hs
  refine ⟨ds.drop count, ?_, fun c hc => hds c (List.mem_of_mem_drop hc)⟩
  apply List.drop_append_of_le_length
  apply Nat.le_of_not_lt
  intro hlt
  -- a longer cut takes the stop for a digit
  have hmem : stop ∈ (ds ++ stop :: rest).take count := by
    obtain ⟨k, hk⟩ : ∃ k, count = ds.length + (k + 1) := ⟨count - ds.length - 1, by omega⟩
    rw [hk, List.take_length_add_append, List.take_succ_cons]
    exact List.mem_append_right ds List.mem_cons_self
  have hdigit := List.all_eq_true.1 htake stop hmem
  rw [isDigitIn_of_isStop hstop] at hdigit
  cases hdigit

theorem date?_digits (hds : ∀ c ∈ ds, c.isDigit = true) (hstop : isStop stop = true) :
    date? (ds ++ stop :: rest) = none := by
  unfold date?
  cases h : fixedDigits 4 (ds ++ stop :: rest) with
  | none => rfl
  | some x =>
    obtain ⟨ds', hs, hds'⟩ := fixedDigits_digits hds hstop h
    have hmark : mark '-' x.2 = none := hs ▸ mark_digits hds' rfl (ne_of_class hstop rfl)
    simp only [Option.bind_eq_bind, Option.bind_some, hmark, Option.bind_none]

theorem time?_digits (hds : ∀ c ∈ ds, c.isDigit = true) (hstop : isStop stop = true) :
    time? (ds ++ stop :: rest) = none := by
  unfold time?
  cases h : field 0 23 (ds ++ stop :: rest) with
  | none => rfl
  | some x =>
    have hfield : ∃ n, fixedDigits 2 (ds ++ stop :: rest) = some (n, x.2) := by
      unfold field at h
      split at h
      · next n s hf =>
        obtain ⟨-, hx⟩ := Option.ite_none_right_eq_some.1 h
        cases hx
        exact ⟨n, hf⟩
      · cases h
    obtain ⟨n, hf⟩ := hfield
    obtain ⟨ds', hs, hds'⟩ := fixedDigits_digits hds hstop hf
    have hmark : mark ':' x.2 = none := hs ▸ mark_digits hds' rfl (ne_of_class hstop rfl)
    simp only [Option.bind_eq_bind, Option.bind_some, hmark, Option.bind_none]

theorem moment_digits (hds : ∀ c ∈ ds, c.isDigit = true) (hstop : isStop stop = true) :
    moment (ds ++ stop :: rest) = none := by
  rw [moment, date?_digits hds hstop, time?_digits hds hstop]
  rfl

theorem scalar_toDigits (hn : n ≤ 9223372036854775807) (hstop : isStop stop = true) :
    scalar (Nat.toDigits 10 n ++ stop :: rest) = some (.integer n, stop :: rest) := by
  rw [scalar, moment_digits (fun _ => isDigit_of_mem_toDigits) hstop, number_toDigits hn hstop]
  · split <;> rfl
  all_goals exact fun _ => toDigits_ne_cons rfl

theorem value_eq_scalar (depth : Nat) (harray : ∀ t, s ≠ '[' :: t) (htable : ∀ t, s ≠ '{' :: t) :
    value depth s = scalar s := by
  cases depth <;> simp only [value]

theorem value_toDigits (depth : Nat) (hn : n ≤ 9223372036854775807) (hstop : isStop stop = true) :
    value depth (Nat.toDigits 10 n ++ stop :: rest) = some (.integer n, stop :: rest) := by
  rw [value_eq_scalar depth (fun _ => toDigits_ne_cons rfl) fun _ => toDigits_ne_cons rfl]
  exact scalar_toDigits hn hstop

end SwitchSession.External.Toml
