import SwitchSession.Proofs.Admission.Bucket
import Mathlib.Data.List.Induction

namespace SwitchSession

/-- The sum of two words, if it is a word. -/
def checkedAdd (a b : UInt64) : Option UInt64 :=
  if a.toNat + b.toNat < 18446744073709551616 then some (a + b) else none

def checkedMul (a b : UInt64) : Option UInt64 :=
  if a.toNat * b.toNat < 18446744073709551616 then some (a * b) else none

def checkedSub (a b : UInt64) : Option UInt64 :=
  if b.toNat ≤ a.toNat then some (a - b) else none

def checkedDiv (a b : UInt64) : Option UInt64 :=
  if b.toNat = 0 then none else some (a / b)

namespace TokenBucket

variable {limit : UInt32} {b b' : TokenBucket} {now : UInt64} {seen : List UInt64} {granted : Bool}

def checkedElapsed (b : TokenBucket) (now : UInt64) : Option UInt64 :=
  if b.lastRefill ≤ now then checkedSub now b.lastRefill else some 0

/-- A refill, operation by operation; none if one of them goes wrong. -/
def checkedRefill (b : TokenBucket) (now : UInt64) : Option TokenBucket := do
  let elapsed ← b.checkedElapsed now
  let due ← checkedDiv (saturatingMul elapsed b.permits) minute
  if due = 0 then some b
  else
    let level ← checkedAdd b.tokens due
    if b.permits ≤ level then some { b with tokens := b.permits, lastRefill := now }
    else
      let tokens ← checkedAdd b.tokens due
      let time ← checkedMul due minute
      let charge ← checkedDiv time b.permits
      let lastRefill ← checkedAdd b.lastRefill charge
      some { b with tokens, lastRefill }

def checkedTryAcquire (b : TokenBucket) (now : UInt64) : Option (Bool × TokenBucket) :=
  if b.permits = 0 then some (true, b)
  else do
    let b ← b.checkedRefill now
    if b.tokens = 0 then some (false, b)
    else
      let tokens ← checkedSub b.tokens 1
      some (true, { b with tokens })

theorem checkedElapsed_eq (b : TokenBucket) (now : UInt64) :
    b.checkedElapsed now = some (b.elapsed now) := by
  unfold checkedElapsed elapsed
  split
  · next h => rw [checkedSub, if_pos (UInt64.le_iff_toNat_le.1 h)]
  · rfl

/-- The saturated product leaves so much room that its quotient can be added to any token count. -/
theorem gained_le (b : TokenBucket) (now : UInt64) : (b.gained now).toNat ≤ 307445734561825 := by
  rw [toNat_gained]
  exact min_le_right _ _

theorem checkedGained_eq (b : TokenBucket) (now : UInt64) :
    checkedDiv (saturatingMul (b.elapsed now) b.permits) minute = some (b.gained now) := by
  rw [checkedDiv, if_neg (by decide)]
  rfl

theorem checkedLevel_eq (hb : b.Sound) (now : UInt64) :
    checkedAdd b.tokens (b.gained now) = some (b.tokens + b.gained now) := by
  have hg := b.gained_le now
  have hP := hb.permits
  have hk := hb.tokens
  rw [checkedAdd, if_pos (by omega)]

/-- A bucket that a refill does not fill gains fewer tokens than its limit, and all that are due. -/
theorem gained_of_not_full (hb : b.Sound)
    (hf : ¬ b.permits ≤ b.tokens + b.gained now) :
    (b.gained now).toNat < 4294967296 ∧ (b.gained now).toNat = b.due now := by
  have hg := b.toNat_gained now
  have hP := hb.permits
  have hk := hb.tokens
  rw [UInt64.le_iff_toNat_le, UInt64.toNat_add, Nat.mod_eq_of_lt (by omega)] at hf
  omega

theorem checkedTime_eq (hg : (b.gained now).toNat < 4294967296) :
    checkedMul (b.gained now) minute = some (b.gained now * minute) := by
  rw [checkedMul, if_pos]
  simp only [minute, UInt64.reduceToNat]
  omega

theorem checkedCharge_eq (hb : b.Sound) (time : UInt64) :
    checkedDiv time b.permits = some (time / b.permits) := by
  rw [checkedDiv, if_neg hb.pos.ne']

/-- The charge takes the reference time no further than the clock. -/
theorem checkedLastRefill_eq (hg : (b.gained now).toNat < 4294967296)
    (hd : (b.gained now).toNat = b.due now) :
    checkedAdd b.lastRefill (b.gained now * minute / b.permits) =
      some (b.lastRefill + b.gained now * minute / b.permits) := by
  have hm : (b.gained now * minute).toNat = b.due now * 60000 := by
    rw [UInt64.toNat_mul, hd]
    exact Nat.mod_eq_of_lt (by simp only [minute, UInt64.reduceToNat]; omega)
  have hcharge : (b.gained now * minute / b.permits).toNat = b.charge now := by
    rw [UInt64.toNat_div, hm, charge]
  have hc := b.charge_le now
  have hl := b.lastRefill.toNat_lt
  have hn := now.toNat_lt
  rw [checkedAdd, if_pos]
  omega

theorem checkedRefill_eq (hb : b.Sound) (now : UInt64) :
    b.checkedRefill now = some (b.refill now) := by
  rw [checkedRefill, checkedElapsed_eq, Option.bind_eq_bind, Option.bind_some, checkedGained_eq,
    Option.bind_some]
  change _ = some (if b.gained now = 0 then b else _)
  by_cases h : b.gained now = 0
  · rw [if_pos h, if_pos h]
  rw [if_neg h, if_neg h, checkedLevel_eq hb, Option.bind_some]
  by_cases hf : b.permits ≤ b.tokens + b.gained now
  · rw [if_pos hf, if_pos hf]
  · obtain ⟨hg, hd⟩ := gained_of_not_full hb hf
    rw [if_neg hf, if_neg hf, Option.bind_some, checkedTime_eq hg, Option.bind_some,
      checkedCharge_eq hb, Option.bind_some, checkedLastRefill_eq hg hd, Option.bind_some]

theorem checkedTryAcquire_eq (hb : b.Sound) (now : UInt64) :
    b.checkedTryAcquire now = some (b.tryAcquire now) := by
  simp only [checkedTryAcquire, tryAcquire, if_neg hb.permits_ne_zero, checkedRefill_eq hb,
    Option.bind_eq_bind, Option.bind_some]
  by_cases hk : (b.refill now).tokens = 0
  · rw [if_pos hk, if_pos hk]
  · have hone := UInt64.le_iff_toNat_le.1 (one_le_of_ne_zero hk)
    rw [if_neg hk, if_neg hk, checkedSub, if_pos hone, Option.bind_some]

/-- The bucket after a call at each of the readings. -/
def after (b : TokenBucket) (readings : List UInt64) : TokenBucket :=
  readings.foldl (fun b now => (b.tryAcquire now).2) b

theorem after_append (b : TokenBucket) (readings : List UInt64) (now : UInt64) :
    b.after (readings ++ [now]) = ((b.after readings).tryAcquire now).2 := by
  simp [after]

theorem refill_eq_of_le (hb : b.Sound) (h : now ≤ b.lastRefill) : b.refill now = b :=
  (refill_refills hb now).eq_of_due_eq_zero (due_of_le h)

theorem Refills.lastRefill_mono (h : Refills b now b') : b.lastRefill ≤ b'.lastRefill := by
  have hc := h.charged
  rw [UInt64.le_iff_toNat_le]
  omega

theorem Answers.lastRefill_mono (h : Answers b now granted b') :
    b.lastRefill ≤ b'.lastRefill := by
  obtain ⟨c, hr, -, hl, -⟩ := h.refills
  rw [hl]
  exact hr.lastRefill_mono

theorem Answers.lastRefill_seen (h : Answers b now granted b')
    (hs : ∃ t ∈ seen, b.lastRefill ≤ t) : ∃ t ∈ seen ++ [now], b'.lastRefill ≤ t := by
  obtain ⟨c, hr, -, hl, -⟩ := h.refills
  obtain ⟨t, ht, hle⟩ := hs
  have hmax := hr.lastRefill_le
  rw [UInt64.le_iff_toNat_le] at hle
  rcases Nat.le_total b.lastRefill.toNat now.toNat with hn | hn
  · refine ⟨now, List.mem_append_right _ (List.mem_singleton_self now), ?_⟩
    rw [hl, UInt64.le_iff_toNat_le]
    omega
  · refine ⟨t, List.mem_append_left _ ht, ?_⟩
    rw [hl, UInt64.le_iff_toNat_le]
    omega

/-- A bucket of a limit whose reference time is no later than some reading. -/
structure Dated (limit : UInt32) (seen : List UInt64) (b : TokenBucket) : Prop where
  permits : b.permits = limit.toUInt64
  tokens : b.tokens.toNat ≤ limit.toNat
  seen : ∃ t ∈ seen, b.lastRefill ≤ t

theorem dated_full (limit : UInt32) (start : UInt64) : Dated limit [start] (full limit start) where
  permits := rfl
  tokens := limit.toNat_toUInt64.le
  seen := ⟨start, List.mem_singleton_self start, UInt64.le_refl start⟩

namespace Dated

theorem toNat_permits (h : Dated limit seen b) : b.permits.toNat = limit.toNat := by
  rw [h.permits, UInt32.toNat_toUInt64]

theorem permits_eq_zero (h : Dated limit seen b) : b.permits = 0 ↔ limit = 0 := by
  rw [← UInt64.toNat_inj, h.toNat_permits, ← UInt32.toNat_inj]
  rfl

theorem sound (h : Dated limit seen b) (hl : limit ≠ 0) : b.Sound where
  permits := by rw [h.toNat_permits]; exact limit.toNat_lt
  pos := by
    rw [h.toNat_permits]
    exact Nat.pos_of_ne_zero fun h0 => hl (UInt32.toNat_inj.1 h0)
  tokens := by rw [h.toNat_permits]; exact h.tokens

theorem of_answers (h : Dated limit seen b) (hl : limit ≠ 0) (ha : Answers b now granted b') :
    Dated limit (seen ++ [now]) b' where
  permits := by rw [ha.permits, h.permits]
  tokens := by
    have ht := (ha.sound (h.sound hl)).tokens
    rwa [ha.permits, h.toNat_permits] at ht
  seen := ha.lastRefill_seen h.seen

theorem tryAcquire_of_unlimited (h : Dated limit seen b) (hl : limit = 0) (now : UInt64) :
    b.tryAcquire now = (true, b) := by
  rw [tryAcquire, if_pos (h.permits_eq_zero.2 hl)]

theorem tryAcquire (h : Dated limit seen b) (now : UInt64) :
    Dated limit (seen ++ [now]) (b.tryAcquire now).2 := by
  by_cases hl : limit = 0
  · obtain ⟨t, ht, hle⟩ := h.seen
    rw [h.tryAcquire_of_unlimited hl now]
    exact ⟨h.permits, h.tokens, t, List.mem_append_left _ ht, hle⟩
  · exact h.of_answers hl (tryAcquire_answers (h.sound hl) now)

theorem lastRefill_mono (h : Dated limit seen b) (now : UInt64) :
    b.lastRefill ≤ (b.tryAcquire now).2.lastRefill := by
  by_cases hl : limit = 0
  · rw [h.tryAcquire_of_unlimited hl now]
    exact UInt64.le_refl _
  · exact (tryAcquire_answers (h.sound hl) now).lastRefill_mono

theorem checked (h : Dated limit seen b) (now : UInt64) :
    b.checkedTryAcquire now = some (b.tryAcquire now) := by
  by_cases hl : limit = 0
  · rw [checkedTryAcquire, if_pos (h.permits_eq_zero.2 hl), h.tryAcquire_of_unlimited hl now]
  · exact checkedTryAcquire_eq (h.sound hl) now

/-- The clock did not move past the reference time: nothing is regained. -/
theorem tryAcquire_of_le (h : Dated limit seen b) (hn : now ≤ b.lastRefill) :
    b.tryAcquire now =
      if limit = 0 then (true, b)
      else if b.tokens = 0 then (false, b) else (true, { b with tokens := b.tokens - 1 }) := by
  by_cases hl : limit = 0
  · rw [if_pos hl, h.tryAcquire_of_unlimited hl now]
  · rw [if_neg hl, TokenBucket.tryAcquire, if_neg (mt h.permits_eq_zero.1 hl),
      refill_eq_of_le (h.sound hl) hn]

end Dated

theorem dated_after (limit : UInt32) (start : UInt64) (readings : List UInt64) :
    Dated limit (start :: readings) ((full limit start).after readings) := by
  induction readings using List.reverseRecOn with
  | nil => exact dated_full limit start
  | append_singleton readings now ih =>
    rw [after_append]
    exact ih.tryAcquire now

/-- At no call does an operation run over or divide by zero, whatever the readings; the tokens stay
within the limit, and the reference time neither goes back nor passes every reading. A call at a
reading no later than the reference time can only take a token. -/
theorem arithmetic_is_safe (limit : UInt32) (start : UInt64) (readings : List UInt64)
    (now : UInt64) :
    let b := (full limit start).after readings
    let c := (b.tryAcquire now).2
    b.checkedTryAcquire now = some (b.tryAcquire now) ∧
    c.tokens.toNat ≤ limit.toNat ∧
    b.lastRefill ≤ c.lastRefill ∧
    (∃ t ∈ start :: (readings ++ [now]), c.lastRefill ≤ t) ∧
    (now ≤ b.lastRefill →
      b.tryAcquire now =
        if limit = 0 then (true, b)
        else if b.tokens = 0 then (false, b) else (true, { b with tokens := b.tokens - 1 })) := by
  have hb := dated_after limit start readings
  have hc := hb.tryAcquire now
  exact ⟨hb.checked now, hc.tokens, hb.lastRefill_mono now, hc.seen, hb.tryAcquire_of_le⟩

end TokenBucket

end SwitchSession
