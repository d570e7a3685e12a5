import SwitchSession.Proofs.Admission.Overflow
import Mathlib.Algebra.Order.Floor.Div

/-!
Refills of a token bucket at many readings of the clock, against one refill at the last of them.

Every refill rounds down twice, but it charges no more time than its tokens took. What is left of a
token stays in the reference time, so what a refill would leave later on never falls.
-/

namespace SwitchSession.TokenBucket

variable {limit : UInt32} {b c : TokenBucket} {now t T : UInt64} {polls : List UInt64}

/-- The tokens that one refill at `T` leaves. -/
def worth (b : TokenBucket) (T : UInt64) : ℕ :=
  min b.permits.toNat (b.tokens.toNat + b.due T)

theorem worth_le_permits (b : TokenBucket) (T : UInt64) : b.worth T ≤ b.permits.toNat :=
  min_le_left _ _

/-- The charge, rounded down, is paid for by the tokens it is for. -/
theorem charge_mul_le (b : TokenBucket) (t : UInt64) :
    b.charge t * b.permits.toNat ≤ b.due t * 60000 :=
  Nat.div_mul_le_self _ _

theorem due_le_add (ht : t ≤ T) (hp : c.permits = b.permits)
    (hl : c.lastRefill.toNat = b.lastRefill.toNat + b.charge t) :
    b.due T ≤ b.due t + c.due T := by
  rw [UInt64.le_iff_toNat_le] at ht
  have hc := b.charge_le t
  have hs : T.toNat - b.lastRefill.toNat = T.toNat - c.lastRefill.toNat + b.charge t := by omega
  have hd : c.due T = (T.toNat - c.lastRefill.toNat) * b.permits.toNat / 60000 := by rw [due, hp]
  calc b.due T
      = ((T.toNat - c.lastRefill.toNat) * b.permits.toNat + b.charge t * b.permits.toNat)
          / 60000 := by rw [due, hs, Nat.add_mul]
    _ ≤ ((T.toNat - c.lastRefill.toNat) * b.permits.toNat + b.due t * 60000) / 60000 :=
        Nat.div_le_div_right (Nat.add_le_add_left (b.charge_mul_le t) _)
    _ = (T.toNat - c.lastRefill.toNat) * b.permits.toNat / 60000 + b.due t :=
        Nat.add_mul_div_right _ _ (by decide)
    _ = b.due t + c.due T := by rw [hd, Nat.add_comm]

namespace Refills

theorem tokens_eq (h : Refills b T c) (hb : b.Sound) : c.tokens.toNat = b.worth T := by
  cases h with
  | idle hd =>
    rw [worth, hd, Nat.add_zero]
    exact (min_eq_right hb.tokens).symm
  | fills _ hf => exact (min_eq_left hf).symm
  | gains _ hf hk => exact hk.trans (min_eq_right hf.le).symm

/-- A bucket that was refilled loses nothing of what a later refill leaves. -/
theorem worth_le (h : Refills b t c) (ht : t ≤ T) : b.worth T ≤ c.worth T := by
  cases h with
  | idle => exact le_refl _
  | fills =>
    apply le_trans (b.worth_le_permits T)
    exact le_min (le_refl _) (Nat.le_add_right _ _)
  | @gains k l _ _ hk hl =>
    have hd : b.due T ≤ b.due t + due ⟨b.permits, k, l⟩ T := due_le_add ht rfl hl
    simp only [worth, hk]
    omega

end Refills

/-- The bucket after a refill at each of the readings. -/
def poll (b : TokenBucket) (readings : List UInt64) : TokenBucket :=
  readings.foldl refill b

theorem poll_concat (b : TokenBucket) (polls : List UInt64) (now : UInt64) :
    b.poll (polls ++ [now]) = (b.poll polls).refill now := by
  simp [poll]

theorem toNat_tokens_refill (hb : b.Sound) (now : UInt64) :
    (b.refill now).tokens.toNat = b.worth now :=
  (refill_refills hb now).tokens_eq hb

theorem Sound.poll (hb : b.Sound) (polls : List UInt64) : (b.poll polls).Sound := by
  induction polls generalizing b with
  | nil => exact hb
  | cons t polls ih => exact ih ((refill_refills hb t).sound hb)

theorem worth_le_poll (hb : b.Sound) (hT : ∀ t ∈ polls, t ≤ T) :
    b.worth T ≤ (b.poll polls).worth T := by
  induction polls generalizing b with
  | nil => exact le_refl _
  | cons t polls ih =>
    rw [List.forall_mem_cons] at hT
    have hr := refill_refills hb t
    calc b.worth T
        ≤ (b.refill t).worth T := hr.worth_le hT.1
      _ ≤ ((b.refill t).poll polls).worth T := ih (hr.sound hb) hT.2

theorem refill_le_poll (hb : b.Sound) (hn : ∀ t ∈ polls, t ≤ now) :
    (b.refill now).tokens.toNat ≤ (b.poll (polls ++ [now])).tokens.toNat := by
  rw [poll_concat, toNat_tokens_refill hb, toNat_tokens_refill (hb.poll polls)]
  exact worth_le_poll hb hn

/-- A call is denied only by an empty bucket with nothing due, which its refill leaves alone. -/
theorem tryAcquire_of_denied (hb : b.Sound) (h : (b.tryAcquire now).1 = false) :
    (b.tryAcquire now).2 = b := by
  have ha := tryAcquire_answers hb now
  have hg := ha.granted_iff hb
  rw [h] at ha
  cases ha with
  | denies hr =>
    apply hr.eq_of_due_eq_zero
    simp only [h, Bool.false_eq_true, false_iff] at hg
    omega

theorem due_pos_of_interval (hb : b.Sound)
    (h : b.lastRefill.toNat + 60000 ⌈/⌉ b.permits.toNat ≤ now.toNat) : 0 < b.due now := by
  have hi : 60000 ⌈/⌉ b.permits.toNat ≤ now.toNat - b.lastRefill.toNat := by omega
  rw [ceilDiv_le_iff_le_smul hb.pos, smul_eq_mul, Nat.mul_comm] at hi
  exact Nat.div_pos hi (by decide)

theorem tryAcquire_of_interval (hb : b.Sound)
    (h : b.lastRefill.toNat + 60000 ⌈/⌉ b.permits.toNat ≤ now.toNat) :
    (b.tryAcquire now).1 = true := by
  rw [(tryAcquire_answers hb now).granted_iff hb]
  exact Nat.add_pos_right _ (due_pos_of_interval hb h)

/-- Refills at any number of earlier readings leave no fewer tokens than one refill at the last, a
denied call leaves the bucket as it was, and a call is granted once the time of a token, rounded up,
has passed since the reference time. -/
theorem polling_keeps_credit (hl : 0 < limit) (start : UInt64) (calls : List UInt64) :
    let b := (full limit start).after calls
    (∀ polls now, (∀ t ∈ polls, t ≤ now) →
      min limit.toNat
          (b.tokens.toNat + (now.toNat - b.lastRefill.toNat) * limit.toNat / 60000) =
        (b.refill now).tokens.toNat ∧
      (b.refill now).tokens.toNat ≤ (b.poll (polls ++ [now])).tokens.toNat) ∧
    (∀ now, (b.tryAcquire now).1 = false → (b.tryAcquire now).2 = b) ∧
    (∀ now, b.lastRefill.toNat + 60000 ⌈/⌉ limit.toNat ≤ now.toNat →
      (b.tryAcquire now).1 = true) := by
  intro b
  have hd : Dated limit (start :: calls) b := dated_after limit start calls
  have hb : b.Sound := by
    apply hd.sound
    rintro rfl
    exact absurd hl (by decide)
  rw [← hd.toNat_permits]
  refine ⟨?_, ?_, ?_⟩
  · intro polls now hn
    exact ⟨(toNat_tokens_refill hb now).symm, refill_le_poll hb hn⟩
  · intro now h
    exact tryAcquire_of_denied hb h
  · intro now h
    exact tryAcquire_of_interval hb h

/-- One refill of a bucket of seven leaves two tokens where three refills leave three. -/
theorem polling_keeps_credit_seven :
    let b := (full 7 0).after (.replicate 7 0)
    (0 : UInt32) < 7 ∧ (∀ t ∈ [(8572 : UInt64), 17143], t ≤ 25714) ∧
    (b.refill 25714).tokens.toNat = 2 ∧ (b.poll [8572, 17143, 25714]).tokens.toNat = 3 ∧
    min 7 (b.tokens.toNat + (25714 - b.lastRefill.toNat) * 7 / 60000) = 2 ∧
    (b.tryAcquire 8571).1 = false ∧ (b.tryAcquire 8571).2 = b ∧
    b.lastRefill.toNat + 60000 ⌈/⌉ 7 ≤ (8572 : UInt64).toNat ∧ (b.tryAcquire 8572).1 = true := by
  intro b
  have hl : (0 : UInt32) < 7 := by decide
  have ht : ∀ t ∈ [(8572 : UInt64), 17143], t ≤ 25714 := by
    rw [List.forall_mem_cons, List.forall_mem_singleton]
    decide
  have hd : (b.tryAcquire 8571).1 = false := by decide
  have hi : b.lastRefill.toNat + 60000 ⌈/⌉ 7 ≤ (8572 : UInt64).toNat := by
    rw [Nat.ceilDiv_eq_add_pred_div]
    decide
  obtain ⟨hpolls, hdenied, hgranted⟩ := polling_keeps_credit hl 0 (.replicate 7 0)
  have htwo : (b.refill 25714).tokens.toNat = 2 := by decide
  have hmin : min 7 (b.tokens.toNat + (25714 - b.lastRefill.toNat) * 7 / 60000) = 2 :=
    (hpolls [8572, 17143] 25714 ht).1.trans htwo
  exact ⟨hl, ht, htwo, by decide, hmin, hd, hdenied 8571 hd, hi, hgranted 8572 hi⟩

end SwitchSession.TokenBucket
