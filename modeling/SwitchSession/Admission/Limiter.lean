import SwitchSession.Admission
import SwitchSession.Admission.TokenBucket

namespace SwitchSession

inductive Limiter
  | unlimited
  /-- The same answer for everybody; counts who asked. -/
  | fixed (admits : Bool) (attempts : Nat)
  | bucket (state : TokenBucket) (now : UInt64)
deriving DecidableEq

namespace Limiter

/-- A limit of `rate` devices a minute; zero means no limit. -/
def perMinute (rate : UInt32) (now : UInt64) : Limiter :=
  if rate = 0 then .unlimited else .bucket (.full rate now) now

def tryAcquire : Limiter → Bool × Limiter
  | .unlimited => (true, .unlimited)
  | .fixed admits attempts => (admits, .fixed admits (attempts + 1))
  | .bucket state now =>
    let (granted, state) := state.tryAcquire now
    (granted, .bucket state now)

instance : Admission Limiter := ⟨tryAcquire⟩

def setClock (now : UInt64) : Limiter → Limiter
  | .bucket state _ => .bucket state now
  | other => other

end Limiter

end SwitchSession
