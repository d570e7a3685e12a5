namespace SwitchSession

/-- Asking grants or denies, and may change what later askers get. -/
class Admission (σ : Type) where
  tryAcquire : σ → Bool × σ

namespace Admission

def acquireMany [Admission σ] : Nat → Nat → σ → Nat × σ
  | 0, count, s => (count, s)
  | n + 1, count, s =>
    let (granted, s) := tryAcquire s
    acquireMany n (count + granted.toNat) s

end Admission

end SwitchSession
