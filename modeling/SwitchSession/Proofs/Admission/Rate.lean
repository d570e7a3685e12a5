import SwitchSession.Proofs.Admission.Bucket
import Mathlib.Tactic.Linarith
import Mathlib.Tactic.Ring

/-!
How many calls a token bucket grants over time.

A refill charges whole milliseconds for the tokens it adds. If the limit divides a minute, or a
minute the limit, nothing is lost in that and the bucket keeps to its rate. Otherwise the charge is
rounded down, and a caller who asks often enough is granted more than the rate.
-/

namespace SwitchSession.TokenBucket

variable {b c : TokenBucket} {now T : UInt64} {readings later : List UInt64} {granted : Bool}
  {P n d k : ℕ}

def admitted (b : TokenBucket) : List UInt64 → ℕ
  | [] => 0
  | now :: later => (b.tryAcquire now).1.toNat + (b.tryAcquire now).2.admitted later

theorem admitted_cons (b : TokenBucket) (now : UInt64) (later : List UInt64) :
    b.admitted (now :: later) =
      (b.tryAcquire now).1.toNat + (b.tryAcquire now).2.admitted later := rfl

/-- No refill adds more tokens than `n` for each `d` milliseconds that it charges. -/
def Covers (P n d : ℕ) : Prop :=
  ∀ e, d * (e * P / 60000) ≤ n * (e * P / 60000 * 60000 / P)

theorem covers_exact (h : P ∣ 60000 ∨ 60000 ∣ P) : Covers P P 60000 := by
  intro e
  have hd : P ∣ e * P / 60000 * 60000 := by
    rcases h with h | ⟨g, rfl⟩
    · exact h.mul_left _
    · rw [Nat.div_mul_cancel ⟨e * g, by ring⟩]
      exact Nat.dvd_mul_left _ _
  rw [Nat.mul_div_cancel' hd, Nat.mul_comm]

theorem covers_interval (hP : 0 < P) : Covers P 1 (60000 / P) := by
  intro e
  rw [Nat.one_mul, Nat.le_div_iff_mul_le hP, Nat.mul_right_comm, Nat.mul_comm (_ / 60000)]
  exact Nat.mul_le_mul_right _ (Nat.div_mul_le_self _ _)

/-- Tokens and grants never outgrow the time they were charged for. -/
theorem Answers.paid (h : Answers b now granted c) (hc : Covers b.permits.toNat n d) :
    d * (granted.toNat + c.tokens.toNat) + n * b.lastRefill.toNat ≤
      d * b.tokens.toNat + n * c.lastRefill.toNat := by
  obtain ⟨b', hr, _, hl, hk⟩ := h.refills
  have hcov : d * b.due now ≤ n * b.charge now := hc _
  rw [hk, hl]
  calc d * b'.tokens.toNat + n * b.lastRefill.toNat
      ≤ d * (b.tokens.toNat + b.due now) + n * b.lastRefill.toNat := by
        gcongr
        exact hr.tokens_le
    _ = d * b.tokens.toNat + (d * b.due now + n * b.lastRefill.toNat) := by ring
    _ ≤ d * b.tokens.toNat + (n * b.charge now + n * b.lastRefill.toNat) := by gcongr
    _ = d * b.tokens.toNat + n * (b.lastRefill.toNat + b.charge now) := by ring
    _ ≤ d * b.tokens.toNat + n * b'.lastRefill.toNat := by
        gcongr
        exact hr.charged

theorem admitted_le (hb : b.Sound) (hc : Covers b.permits.toNat n d)
    (hs : (b.lastRefill :: readings).Pairwise (· ≤ ·))
    (hT : ∀ t ∈ b.lastRefill :: readings, t ≤ T) :
    d * b.admitted readings + n * b.lastRefill.toNat ≤ d * b.tokens.toNat + n * T.toNat := by
  induction readings generalizing b with
  | nil =>
    have hl : b.lastRefill.toNat ≤ T.toNat := UInt64.le_iff_toNat_le.1 (hT _ (by simp))
    simp only [admitted]
    gcongr
    exact Nat.zero_le _
  | cons now later ih =>
    have ha := tryAcquire_answers hb now
    rw [admitted_cons]
    generalize (b.tryAcquire now).1 = granted, (b.tryAcquire now).2 = c at ha
    rw [List.pairwise_cons, List.pairwise_cons] at hs
    obtain ⟨hbs, hns, hs⟩ := hs
    have hcn : c.lastRefill ≤ now := ha.lastRefill_le (hbs now (by simp))
    rw [List.forall_mem_cons, List.forall_mem_cons] at hT
    obtain ⟨-, hnT, hT⟩ := hT
    have ih := ih (ha.sound hb) (ha.permits ▸ hc)
      (List.pairwise_cons.2 ⟨fun t ht => UInt64.le_trans hcn (hns t ht), hs⟩)
      (List.forall_mem_cons.2 ⟨UInt64.le_trans hcn hnT, hT⟩)
    have hp := ha.paid hc
    rw [Nat.mul_add] at hp ⊢
    omega

theorem admitted_full_le {permits : UInt32} {start : UInt64} (hp : 0 < permits)
    (hc : Covers permits.toNat n d) (hs : (start :: readings).Pairwise (· ≤ ·))
    (hT : (start :: readings).getLast? = some T) :
    d * (full permits start).admitted readings ≤
      d * permits.toNat + n * (T.toNat - start.toNat) := by
  have hle : ∀ t ∈ start :: readings, t ≤ T := by
    obtain ⟨ys, hys⟩ := List.getLast?_eq_some_iff.1 hT
    rw [hys, List.pairwise_append] at hs
    rw [hys]
    intro t ht
    rcases List.mem_append.1 ht with ht | ht
    · exact hs.2.2 t ht T (List.mem_singleton_self T)
    · exact UInt64.le_of_eq (List.mem_singleton.1 ht)
  have hP : (full permits start).permits.toNat = permits.toNat := permits.toNat_toUInt64
  have hk : (full permits start).tokens.toNat = permits.toNat := permits.toNat_toUInt64
  have hl : (full permits start).lastRefill = start := rfl
  have h := admitted_le (sound_full hp start) (hP.symm ▸ hc) hs hle
  have hst : start.toNat ≤ T.toNat := UInt64.le_iff_toNat_le.1 (hle start (by simp))
  have hn := Nat.mul_le_mul_left n hst
  rw [hk, hl] at h
  rw [Nat.mul_sub]
  omega

/-- The rate that a limit comes to: one call in each whole number of milliseconds of a token. -/
theorem admitted_le_of_le_minute {permits : UInt32} {start : UInt64} (hp : 0 < permits)
    (hP : permits.toNat ≤ 60000) (hs : (start :: readings).Pairwise (· ≤ ·))
    (hT : (start :: readings).getLast? = some T) :
    (full permits start).admitted readings ≤
      permits.toNat + (T.toNat - start.toNat) / (60000 / permits.toNat) := by
  have hp0 : 0 < permits.toNat := UInt32.lt_iff_toNat_lt.1 hp
  have h := admitted_full_le hp (covers_interval hp0) hs hT
  rw [← Nat.sub_le_iff_le_add', Nat.le_div_iff_mul_le (Nat.div_pos hP hp0), Nat.sub_mul]
  rw [Nat.mul_comm, Nat.mul_comm _ permits.toNat] at h
  omega

theorem exists_burst (hb : b.Sound) (hn : now ≤ b.lastRefill) (hk : k ≤ b.tokens.toNat) :
    ∃ c : TokenBucket, c.Sound ∧ c.permits = b.permits ∧ c.lastRefill = b.lastRefill ∧
      c.tokens.toNat + k = b.tokens.toNat ∧
      ∀ later, b.admitted (.replicate k now ++ later) = k + c.admitted later := by
  induction k generalizing b with
  | zero => exact ⟨b, hb, rfl, rfl, rfl, fun later => (Nat.zero_add _).symm⟩
  | succ k ih =>
    have ha := tryAcquire_answers hb now
    have hg := (ha.granted_iff hb).2 (by omega)
    rw [hg] at ha
    obtain ⟨b', hr, hp, hl, ht⟩ := ha.refills
    obtain rfl := hr.eq_of_due_eq_zero (due_of_le hn)
    rw [Bool.toNat_true] at ht
    obtain ⟨c, hc, hcp, hcl, hct, hadm⟩ := ih (ha.sound hb) (hl ▸ hn) (by omega)
    refine ⟨c, hc, hcp.trans hp, hcl.trans hl, by omega, fun later => ?_⟩
    rw [List.replicate_succ, List.cons_append, admitted_cons, hg, hadm, Bool.toNat_true]
    omega

theorem one_token_late (hp : 0 < P) (hP : P < 60000) (hd : ¬ P ∣ 60000) :
    (60000 / P + 1) * P / 60000 = 1 := by
  have hq := Nat.div_add_mod 60000 P
  have hr := Nat.mod_lt 60000 hp
  have hz := mt Nat.dvd_of_mod_eq_zero hd
  rw [Nat.div_eq_iff (by decide), Nat.add_mul, Nat.one_mul, Nat.mul_comm]
  omega

/-- A token that is asked for a millisecond late is charged as if it was not. -/
theorem Answers.late (h : Answers b now granted c) (hb : b.Sound) (hk : b.tokens.toNat = 0)
    (hP : b.permits.toNat < 60000) (hd : ¬ b.permits.toNat ∣ 60000)
    (hn : now.toNat = b.lastRefill.toNat + 60000 / b.permits.toNat + 1) :
    granted = true ∧ c.tokens.toNat = 0 ∧
      c.lastRefill.toNat = b.lastRefill.toNat + 60000 / b.permits.toNat := by
  have hdue : b.due now = 1 := by
    rw [due, hn, Nat.add_assoc, Nat.add_sub_cancel_left, one_token_late hb.pos hP hd]
  have hg := (h.granted_iff hb).2 (by omega)
  rw [hg] at h
  have hp : b.permits.toNat ≠ 1 := fun hp => hd (hp ▸ Nat.one_dvd _)
  have hpos := hb.pos
  obtain ⟨b', hr, _, hl, ht⟩ := h.refills
  obtain ⟨hk', hl'⟩ := hr.of_lt (by omega)
  rw [Bool.toNat_true] at ht
  refine ⟨hg, by omega, ?_⟩
  rw [hl, hl', charge, hdue, Nat.one_mul]

theorem admitted_drip (hb : b.Sound) (hk : b.tokens.toNat = 0) (hP : b.permits.toNat < 60000)
    (hd : ¬ b.permits.toNat ∣ 60000)
    (hl : b.lastRefill.toNat + k * (60000 / b.permits.toNat) + 1 < 2 ^ 64) :
    b.admitted ((List.range' (b.lastRefill.toNat + 60000 / b.permits.toNat + 1) k
      (60000 / b.permits.toNat)).map .ofNat) = k := by
  induction k generalizing b with
  | zero => rfl
  | succ k ih =>
    rw [Nat.add_mul, Nat.one_mul] at hl
    have hn : (UInt64.ofNat (b.lastRefill.toNat + 60000 / b.permits.toNat + 1)).toNat =
        b.lastRefill.toNat + 60000 / b.permits.toNat + 1 :=
      UInt64.toNat_ofNat_of_lt' (by change _ < 2 ^ 64; omega)
    have ha := tryAcquire_answers hb
      (.ofNat (b.lastRefill.toNat + 60000 / b.permits.toNat + 1))
    obtain ⟨hg, ht, hl'⟩ := ha.late hb hk hP hd hn
    have ih := ih (ha.sound hb) ht (by rwa [ha.permits]) (by rwa [ha.permits])
      (by rw [ha.permits, hl']; omega)
    rw [ha.permits, hl'] at ih
    rw [List.range'_succ, List.map_cons, admitted_cons, hg, Bool.toNat_true,
      Nat.add_right_comm (_ + _) 1, ih, Nat.add_comm]

theorem le_admitted_flood (hb : b.Sound) (hP : 60000 < b.permits.toNat)
    (hd : ¬ 60000 ∣ b.permits.toNat) (hn : now.toNat = b.lastRefill.toNat + 1)
    (hk : k ≤ b.permits.toNat) : k ≤ b.admitted (.replicate k now) := by
  induction k generalizing b with
  | zero => exact Nat.zero_le _
  | succ k ih =>
    have hdue : b.due now = b.permits.toNat / 60000 := by
      rw [due, hn, Nat.add_sub_cancel_left, Nat.one_mul]
    have hfree : b.charge now = 0 := by
      rw [charge, hdue]
      exact Nat.div_eq_of_lt (by omega)
    have ha := tryAcquire_answers hb now
    have hg := (ha.granted_iff hb).2 (by omega)
    have hs := ha.sound hb
    have hp := ha.permits
    rw [List.replicate_succ, admitted_cons, hg, Bool.toNat_true, Nat.add_comm]
    apply Nat.add_le_add_left
    rw [hg] at ha
    obtain ⟨b', hr, -, hl, ht⟩ := ha.refills
    rw [Bool.toNat_true] at ht
    cases hr with
    | idle h => omega
    | fills =>
      -- a full bucket has enough for all the calls that are left
      simp only at hl ht
      obtain ⟨_, -, -, -, -, hadm⟩ := exists_burst (k := k) hs (UInt64.le_of_eq hl.symm) (by omega)
      rw [← List.append_nil (List.replicate k now), hadm]
      exact Nat.le_add_right _ _
    | gains _ _ _ hl' =>
      simp only at hl
      exact ih hs (by rwa [hp]) (by rwa [hp]) (by rw [hl, hl', hfree, hn]) (by rw [hp]; omega)

theorem exists_empty (permits : UInt32) (hp : 0 < permits) :
    ∃ c : TokenBucket, c.Sound ∧ c.permits.toNat = permits.toNat ∧ c.lastRefill = 0 ∧
      c.tokens.toNat = 0 ∧ ∀ later,
        (full permits 0).admitted (.replicate permits.toNat 0 ++ later) =
          permits.toNat + c.admitted later := by
  obtain ⟨c, hc, hcp, hcl, hct, hadm⟩ := exists_burst (k := permits.toNat)
    (sound_full hp 0) (UInt64.le_refl 0) (Nat.le_of_eq permits.toNat_toUInt64.symm)
  refine ⟨c, hc, by rw [hcp]; exact permits.toNat_toUInt64, hcl, ?_, hadm⟩
  have : (full permits 0).tokens.toNat = permits.toNat := permits.toNat_toUInt64
  omega

theorem pairwise_le_drip {q : ℕ} (hq : 0 < q) (hk : (k + 1) * q + 1 < 2 ^ 64) :
    ((List.range' (q + 1) k q).map UInt64.ofNat).Pairwise (· ≤ ·) := by
  have hlt : ∀ m ∈ List.range' (q + 1) k q, m < 2 ^ 64 := by
    intro m hm
    obtain ⟨i, hi, rfl⟩ := List.mem_range'.1 hm
    have : q * i ≤ q * k := Nat.mul_le_mul_left q hi.le
    rw [Nat.add_mul, Nat.one_mul, Nat.mul_comm k] at hk
    omega
  refine List.pairwise_map.2 ((List.pairwise_lt_range' q hq).imp_of_mem ?_)
  intro m n hm hn h
  rw [UInt64.le_iff_toNat_le, UInt64.toNat_ofNat_of_lt' (hlt m hm),
    UInt64.toNat_ofNat_of_lt' (hlt n hn)]
  exact h.le

def Exceeds (permits : UInt32) : Prop :=
  ∃ readings T, (0 :: readings).Pairwise (· ≤ ·) ∧ (0 :: readings).getLast? = some T ∧
    permits.toNat + T.toNat * permits.toNat / 60000 < (full permits 0).admitted readings

theorem exceeds_of_lt_minute {permits : UInt32} (hp : 0 < permits) (hP : permits.toNat < 60000)
    (hd : ¬ permits.toNat ∣ 60000) : Exceeds permits := by
  -- after the burst, one call more than the limit, each for a token that is a millisecond late
  obtain ⟨c, hc, hcp, hcl, hct, hadm⟩ := exists_empty permits hp
  have hp0 : 0 < permits.toNat := UInt32.lt_iff_toNat_lt.1 hp
  have hq := Nat.div_add_mod 60000 permits.toNat
  have hr := mt Nat.dvd_of_mod_eq_zero hd
  have hq0 : 0 < 60000 / permits.toNat := Nat.div_pos hP.le hp0
  have hdrip := admitted_drip (k := permits.toNat + 1) hc hct (hcp ▸ hP) (hcp ▸ hd)
  rw [hcl, hcp, UInt64.toNat_zero, Nat.zero_add, Nat.zero_add] at hdrip
  have hsort := pairwise_le_drip (k := permits.toNat + 1) hq0
  generalize 60000 / permits.toNat = q at hq hq0 hdrip hsort
  have hpq : q ≤ permits.toNat * q := Nat.le_mul_of_pos_left q hp0
  have hle : (permits.toNat + 1 + 1) * q + 1 < 2 ^ 64 := by
    rw [Nat.add_mul, Nat.add_mul]
    omega
  refine ⟨.replicate permits.toNat 0 ++ (List.range' (q + 1) (permits.toNat + 1) q).map .ofNat,
    .ofNat (q + 1 + q * permits.toNat), ?_, ?_, ?_⟩
  · have hz : ∀ t : UInt64, 0 ≤ t := fun t => UInt64.le_iff_toNat_le.2 (Nat.zero_le _)
    rw [List.pairwise_cons, List.pairwise_append]
    refine ⟨fun t _ => hz t, List.pairwise_replicate.2 (.inr (UInt64.le_refl _)), hsort hle, ?_⟩
    intro t ht u _
    rw [List.eq_of_mem_replicate ht]
    exact hz u
  · rw [List.range'_concat, List.map_append, List.map_singleton, ← List.append_assoc,
      ← List.cons_append, List.getLast?_concat]
  · have hT : q + 1 + q * permits.toNat < 2 ^ 64 := by
      rw [Nat.mul_comm]
      omega
    -- each of them saves the remainder of a minute by the limit, which is at least one
    have hlt : (q + 1 + q * permits.toNat) * permits.toNat / 60000 < permits.toNat + 1 := by
      rw [Nat.div_lt_iff_lt_mul (by decide)]
      nlinarith [Nat.pos_of_ne_zero hr]
    rw [hadm, hdrip (by rw [Nat.add_mul] at hle; omega), UInt64.toNat_ofNat_of_lt' hT]
    exact Nat.add_lt_add_left hlt _

theorem exceeds_of_minute_lt {permits : UInt32} (hp : 0 < permits) (hP : 60000 < permits.toNat)
    (hd : ¬ 60000 ∣ permits.toNat) : Exceeds permits := by
  obtain ⟨c, hc, hcp, hcl, hct, hadm⟩ := exists_empty permits hp
  refine ⟨.replicate permits.toNat 0 ++ .replicate (permits.toNat / 60000 + 1) 1, 1, ?_, ?_, ?_⟩
  · simp [List.pairwise_append, List.pairwise_replicate]
  · rw [List.replicate_succ', ← List.append_assoc, ← List.cons_append, List.getLast?_concat]
  · have h : permits.toNat / 60000 + 1 ≤ c.admitted (.replicate (permits.toNat / 60000 + 1) 1) :=
      le_admitted_flood hc (hcp ▸ hP) (hcp ▸ hd) (by rw [hcl]; rfl) (by omega)
    rw [hadm, UInt64.toNat_one, Nat.one_mul]
    omega

/-- The grants of every run stay within the limit and what it regains in the time of the run, if and
only if the limit divides a minute or a minute the limit. -/
theorem admitted_le_rate_iff {permits : UInt32} (hp : 0 < permits) :
    (∀ start readings T, (start :: readings).Pairwise (· ≤ ·) →
      (start :: readings).getLast? = some T →
      (full permits start).admitted readings ≤
        permits.toNat + (T.toNat - start.toNat) * permits.toNat / 60000) ↔
    permits.toNat ∣ 60000 ∨ 60000 ∣ permits.toNat := by
  constructor
  · intro h
    by_contra hn
    rw [not_or] at hn
    have he : Exceeds permits := by
      rcases lt_trichotomy permits.toNat 60000 with hlt | heq | hgt
      · exact exceeds_of_lt_minute hp hlt hn.1
      · exact absurd (Dvd.intro_left 1 (by omega)) hn.1
      · exact exceeds_of_minute_lt hp hgt hn.2
    obtain ⟨readings, T, hs, hT, hlt⟩ := he
    exact absurd (h 0 readings T hs hT) (by simpa using hlt)
  · intro hd start readings T hs hT
    have h := admitted_full_le hp (covers_exact hd) hs hT
    rw [← Nat.sub_le_iff_le_add', Nat.le_div_iff_mul_le (by decide), Nat.mul_comm, Nat.mul_sub,
      Nat.mul_comm (_ - _)]
    omega

theorem not_admitted_le_rate_seven :
    (0 : UInt32) < 7 ∧ ¬ ∀ start readings T, (start :: readings).Pairwise (· ≤ ·) →
      (start :: readings).getLast? = some T →
      (full 7 start).admitted readings ≤ 7 + (T.toNat - start.toNat) * 7 / 60000 := by
  have hp : (0 : UInt32) < 7 := by decide
  refine ⟨hp, fun h => ?_⟩
  exact absurd ((admitted_le_rate_iff hp).1 h) (by decide)

example : (full 7 0).admitted (.replicate 7 0 ++ [8572, 17143, 25714]) = 10 := by decide

end SwitchSession.TokenBucket
