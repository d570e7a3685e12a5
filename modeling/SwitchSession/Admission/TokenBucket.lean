namespace SwitchSession

def saturatingMul (a b : UInt64) : UInt64 :=
  if a.toNat * b.toNat < 18446744073709551616 then a * b else 18446744073709551615

theorem toNat_saturatingMul (a b : UInt64) :
    (saturatingMul a b).toNat = min (a.toNat * b.toNat) 18446744073709551615 := by
  unfold saturatingMul
  split
  · next h => rw [UInt64.toNat_mul, Nat.mod_eq_of_lt h]; omega
  · next h =>
    have : (18446744073709551615 : UInt64).toNat = 18446744073709551615 := rfl
    rw [this]; omega

/-- A bucket that starts full. The fraction of a token that a refill leaves over stays in the
reference time. -/
structure TokenBucket where
  permits : UInt64
  tokens : UInt64
  lastRefill : UInt64
deriving DecidableEq

namespace TokenBucket

def minute : UInt64 := 60000

def full (permits : UInt32) (now : UInt64) : TokenBucket :=
  ⟨permits.toUInt64, permits.toUInt64, now⟩

def elapsed (b : TokenBucket) (now : UInt64) : UInt64 :=
  if b.lastRefill ≤ now then now - b.lastRefill else 0

def gained (b : TokenBucket) (now : UInt64) : UInt64 :=
  saturatingMul (b.elapsed now) b.permits / minute

/-- Charges only the time that the gained tokens took, unless the bucket is full. -/
def refill (b : TokenBucket) (now : UInt64) : TokenBucket :=
  let due := b.gained now
  if due = 0 then b
  else if b.permits ≤ b.tokens + due then { b with tokens := b.permits, lastRefill := now }
  else
    { b with
      tokens := b.tokens + due
      lastRefill := b.lastRefill + due * minute / b.permits }

/-- Refills and takes a token; a bucket of no permits sets no limit. -/
def tryAcquire (b : TokenBucket) (now : UInt64) : Bool × TokenBucket :=
  if b.permits = 0 then (true, b)
  else
    let b := b.refill now
    if b.tokens = 0 then (false, b) else (true, { b with tokens := b.tokens - 1 })

end TokenBucket

end SwitchSession
