import SwitchSession.Admission.TokenBucket
import Mathlib.Order.Lattice

namespace SwitchSession.TokenBucket

variable {b b' : TokenBucket} {now : UInt64} {granted : Bool}

structure Sound (b : TokenBucket) : Prop where
  permits : b.permits.toNat < 4294967296
  pos : 0 < b.permits.toNat
  tokens : b.tokens.toNat ≤ b.permits.toNat

theorem sound_full {permits : UInt32} (h : 0 < permits) (start : UInt64) :
    (full permits start).Sound where
  permits := by simpa [full] using permits.toNat_lt
  pos := by simpa [full, UInt32.lt_iff_toNat_lt] using h
  tokens := le_refl _

theorem Sound.permits_ne_zero (hb : b.Sound) : b.permits ≠ 0 := by
  intro h
  have hpos := hb.pos
  rw [h] at hpos
  exact absurd hpos (Nat.lt_irrefl 0)

theorem one_le_of_ne_zero {w : UInt64} (h : w ≠ 0) : 1 ≤ w := by
  rw [UInt64.le_iff_toNat_le, UInt64.toNat_one, Nat.one_le_iff_ne_zero]
  intro h0
  exact h (UInt64.toNat_inj.1 h0)

def due (b : TokenBucket) (now : UInt64) : ℕ :=
  (now.toNat - b.lastRefill.toNat) * b.permits.toNat / 60000

theorem due_of_le (h : now ≤ b.lastRefill) : b.due now = 0 := by
  rw [UInt64.le_iff_toNat_le] at h
  rw [due, Nat.sub_eq_zero_of_le h, Nat.zero_mul, Nat.zero_div]

/-- Time that the tokens due at `now` are charged for. -/
def charge (b : TokenBucket) (now : UInt64) : ℕ :=
  b.due now * 60000 / b.permits.toNat

theorem charge_le (b : TokenBucket) (now : UInt64) :
    b.charge now ≤ now.toNat - b.lastRefill.toNat := by
  have hd : b.due now * 60000 ≤ (now.toNat - b.lastRefill.toNat) * b.permits.toNat :=
    Nat.div_mul_le_self _ _
  exact Nat.div_le_of_le_mul (by rwa [Nat.mul_comm b.permits.toNat])

theorem toNat_elapsed (b : TokenBucket) (now : UInt64) :
    (b.elapsed now).toNat = now.toNat - b.lastRefill.toNat := by
  simp only [elapsed]
  split
  · next h => rw [UInt64.toNat_sub_of_le _ _ h]
  · next h =>
    rw [UInt64.le_iff_toNat_le] at h
    simp only [UInt64.toNat_zero]
    omega

theorem toNat_gained (b : TokenBucket) (now : UInt64) :
    (b.gained now).toNat = min (b.due now) 307445734561825 := by
  rw [gained, UInt64.toNat_div, toNat_saturatingMul, toNat_elapsed]
  simp only [due, minute, UInt64.reduceToNat]
  omega

inductive Refills (b : TokenBucket) (now : UInt64) : TokenBucket → Prop
  | idle (h : b.due now = 0) : Refills b now b
  | fills (h : 0 < b.due now) (hf : b.permits.toNat ≤ b.tokens.toNat + b.due now) :
      Refills b now { b with tokens := b.permits, lastRefill := now }
  | gains {k l : UInt64} (h : 0 < b.due now) (hf : b.tokens.toNat + b.due now < b.permits.toNat)
      (hk : k.toNat = b.tokens.toNat + b.due now)
      (hl : l.toNat = b.lastRefill.toNat + b.charge now) :
      Refills b now { b with tokens := k, lastRefill := l }

theorem refill_refills (hb : b.Sound) (now : UInt64) : Refills b now (b.refill now) := by
  have hg := b.toNat_gained now
  have hP := hb.permits
  have hk := hb.tokens
  have hz : b.gained now = 0 ↔ b.due now = 0 := by
    rw [← UInt64.toNat_inj, UInt64.toNat_zero]
    omega
  have hs : (b.tokens + b.gained now).toNat = b.tokens.toNat + (b.gained now).toNat := by
    rw [UInt64.toNat_add, Nat.mod_eq_of_lt (by omega)]
  simp only [refill]
  split
  · next h => exact .idle (hz.1 h)
  split
  · next h hf =>
    rw [UInt64.le_iff_toNat_le, hs] at hf
    exact .fills (Nat.pos_of_ne_zero (mt hz.2 h)) (by omega)
  · next h hf =>
    rw [UInt64.le_iff_toNat_le, hs] at hf
    have hd : (b.gained now).toNat = b.due now := by omega
    have hc := b.charge_le now
    have hn := now.toNat_lt
    have hm : (b.gained now * minute).toNat = b.due now * 60000 := by
      rw [UInt64.toNat_mul, hd]
      exact Nat.mod_eq_of_lt (by simp only [minute, UInt64.reduceToNat]; omega)
    refine .gains (Nat.pos_of_ne_zero (mt hz.2 h)) (by omega) (by omega) ?_
    rw [UInt64.toNat_add, UInt64.toNat_div, hm]
    change (b.lastRefill.toNat + b.charge now) % 2 ^ 64 = _
    have hl := b.lastRefill.toNat_lt
    exact Nat.mod_eq_of_lt (by omega)

namespace Refills

theorem permits (h : Refills b now b') : b'.permits = b.permits := by
  cases h <;> rfl

theorem sound (h : Refills b now b') (hb : b.Sound) : b'.Sound := by
  cases h with
  | idle => exact hb
  | fills => exact ⟨hb.permits, hb.pos, le_refl _⟩
  | gains _ hf hk => exact ⟨hb.permits, hb.pos, by simp only [hk]; omega⟩

theorem lastRefill_le (h : Refills b now b') :
    b'.lastRefill.toNat ≤ max b.lastRefill.toNat now.toNat := by
  cases h with
  | idle => exact le_max_left _ _
  | fills => exact le_max_right _ _
  | gains _ _ _ hl =>
    have hc := b.charge_le now
    simp only [hl]
    omega

theorem tokens_le (h : Refills b now b') :
    b'.tokens.toNat ≤ b.tokens.toNat + b.due now := by
  cases h with
  | idle => exact Nat.le_add_right _ _
  | fills _ hf => exact hf
  | gains _ _ hk => exact hk.le

theorem charged (h : Refills b now b') :
    b.lastRefill.toNat + b.charge now ≤ b'.lastRefill.toNat := by
  cases h with
  | idle hd => simp [charge, hd]
  | fills hd =>
    have hc := b.charge_le now
    have he : now.toNat - b.lastRefill.toNat ≠ 0 := by
      intro he
      simp [due, he] at hd
    simp only
    omega
  | gains _ _ _ hl => exact hl.ge

theorem eq_of_due_eq_zero (h : Refills b now b') (hd : b.due now = 0) : b' = b := by
  cases h with
  | idle => rfl
  | fills hp => omega
  | gains hp => omega

theorem of_lt (h : Refills b now b') (hf : b.tokens.toNat + b.due now < b.permits.toNat) :
    b'.tokens.toNat = b.tokens.toNat + b.due now ∧
      b'.lastRefill.toNat = b.lastRefill.toNat + b.charge now := by
  cases h with
  | idle hd => simp [charge, hd]
  | fills _ hf' => omega
  | gains _ _ hk hl => exact ⟨hk, hl⟩

end Refills

inductive Answers (b : TokenBucket) (now : UInt64) : Bool → TokenBucket → Prop
  | denies {c : TokenBucket} (h : Refills b now c) (hk : c.tokens.toNat = 0) : Answers b now false c
  | grants {c : TokenBucket} {k : UInt64} (h : Refills b now c)
      (hk : k.toNat + 1 = c.tokens.toNat) : Answers b now true { c with tokens := k }

theorem tryAcquire_answers (hb : b.Sound) (now : UInt64) :
    Answers b now (b.tryAcquire now).1 (b.tryAcquire now).2 := by
  have hr := refill_refills hb now
  simp only [tryAcquire, if_neg hb.permits_ne_zero]
  split
  · next hk => exact .denies hr (by rw [hk, UInt64.toNat_zero])
  · next hk =>
    have h1 := UInt64.le_iff_toNat_le.1 (one_le_of_ne_zero hk)
    rw [UInt64.toNat_one] at h1
    apply Answers.grants hr
    rw [UInt64.toNat_sub_of_le _ _ (one_le_of_ne_zero hk), UInt64.toNat_one]
    omega

namespace Answers

theorem sound (h : Answers b now granted b') (hb : b.Sound) : b'.Sound := by
  cases h with
  | denies h => exact h.sound hb
  | grants h hk =>
    have hs := h.sound hb
    have ht := hs.tokens
    exact ⟨hs.permits, hs.pos, by simp only; omega⟩

theorem refills (h : Answers b now granted b') :
    ∃ c, Refills b now c ∧ b'.permits = c.permits ∧ b'.lastRefill = c.lastRefill ∧
      granted.toNat + b'.tokens.toNat = c.tokens.toNat := by
  cases h with
  | denies h => exact ⟨_, h, rfl, rfl, Nat.zero_add _⟩
  | grants h hk => exact ⟨_, h, rfl, rfl, by simp only [Bool.toNat_true]; omega⟩

theorem permits (h : Answers b now granted b') : b'.permits = b.permits := by
  obtain ⟨c, hr, hp, _⟩ := h.refills
  rw [hp, hr.permits]

theorem lastRefill_le (h : Answers b now granted b') (hl : b.lastRefill ≤ now) :
    b'.lastRefill ≤ now := by
  obtain ⟨c, hr, _, hc, _⟩ := h.refills
  have hr := hr.lastRefill_le
  rw [UInt64.le_iff_toNat_le] at hl ⊢
  rw [hc]
  omega

theorem granted_iff (h : Answers b now granted b') (hb : b.Sound) :
    granted = true ↔ 0 < b.tokens.toNat + b.due now := by
  have hP := hb.pos
  cases h with
  | denies h hk =>
    cases h with
    | idle hd => simp [hk, hd]
    | fills => simp only at hk; omega
    | gains => simp only at hk; omega
  | grants h hk =>
    have ht := h.tokens_le
    simp only [true_iff]
    omega

end Answers

end SwitchSession.TokenBucket
