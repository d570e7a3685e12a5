import SwitchSession.Proofs.Transport.Traffic
import Mathlib.Order.Bounds.Basic

namespace SwitchSession

namespace Exchange

/-- There is such an exchange, and it has no reply. -/
def IsOpen (xs : List (Exchange μ α)) (i : Nat) : Prop := ∃ x, xs[i]? = some x ∧ x.reply = none

theorem isOpen_iff {xs : List (Exchange μ α)} {i : Nat} :
    IsOpen xs i ↔ i < xs.length ∧ xs[i]?.bind reply = none := by
  constructor
  · rintro ⟨x, hx, hr⟩
    obtain ⟨hi, -⟩ := List.getElem?_eq_some_iff.1 hx
    exact ⟨hi, by rw [hx, Option.bind_some, hr]⟩
  · rintro ⟨hi, hr⟩
    rw [List.getElem?_eq_getElem hi] at hr
    exact ⟨xs[i], List.getElem?_eq_getElem hi, hr⟩

theorem not_isOpen_failOpen (xs : List (Exchange μ α)) (i : Nat) : ¬IsOpen (failOpen xs) i := by
  rintro ⟨y, hy, hr⟩
  rw [failOpen, List.getElem?_map, Option.map_eq_some_iff] at hy
  obtain ⟨x, -, rfl⟩ := hy
  cases hx : x.reply <;> simp [hx] at hr

theorem reply_failOpen_of_isOpen {xs : List (Exchange μ α)} {i : Nat} (h : IsOpen xs i) :
    (failOpen xs)[i]?.bind reply = some (.error .connectionClosed) := by
  obtain ⟨x, hx, hr⟩ := h
  simp [failOpen, hx, hr]

theorem isOpen_concat {xs : List (Exchange μ α)} {x : Exchange μ α} {i : Nat} :
    IsOpen (xs ++ [x]) i ↔ IsOpen xs i ∨ i = xs.length ∧ x.reply = none := by
  rcases Nat.lt_trichotomy i xs.length with hi | rfl | hi
  · simp [IsOpen, List.getElem?_append_left hi, hi.ne]
  · simp [IsOpen]
  · have hnone : (xs ++ [x])[i]? = none := by
      rw [List.getElem?_eq_none_iff, List.length_append, List.length_singleton]
      exact hi
    have hnone' : xs[i]? = none := List.getElem?_eq_none hi.le
    simp [IsOpen, hnone, hnone', hi.ne']

/-- Either nothing is open and nothing happens, or the oldest open exchange gets the answer. -/
theorem answerOldest_cases (result : Except TransportError α) (xs : List (Exchange μ α)) :
    (∀ i, ¬IsOpen xs i) ∧ answerOldest result xs = (false, xs) ∨
      ∃ n x, IsLeast {i | IsOpen xs i} n ∧ xs[n]? = some x ∧
        answerOldest result xs = (x.awaited, xs.set n { x with reply := some result }) := by
  induction xs with
  | nil => exact .inl ⟨by simp [IsOpen], rfl⟩
  | cons x rest ih =>
    unfold answerOldest
    cases hx : x.reply with
    | none =>
      right
      exact ⟨0, x, ⟨⟨x, rfl, hx⟩, fun i _ => Nat.zero_le i⟩, rfl, rfl⟩
    | some r =>
      have hzero : ¬IsOpen (x :: rest) 0 := by
        rintro ⟨y, hy, hr⟩
        cases hy
        rw [hx] at hr
        cases hr
      rcases ih with ⟨hnone, he⟩ | ⟨n, y, hn, hy, he⟩
      · left
        constructor
        · intro i hi
          cases i with
          | zero => exact hzero hi
          | succ i => exact hnone i hi
        · rw [he]
      · right
        refine ⟨n + 1, y, ⟨hn.1, ?_⟩, hy, by rw [he]; rfl⟩
        intro i hi
        cases i with
        | zero => exact absurd hi hzero
        | succ i => exact Nat.succ_le_succ (hn.2 hi)

theorem isOpen_set {xs : List (Exchange μ α)} {n i : Nat} (hx : xs[n]? = some x)
    (result : Except TransportError α) :
    IsOpen (xs.set n { x with reply := some result }) i ↔ i ≠ n ∧ IsOpen xs i := by
  obtain ⟨hn, -⟩ := List.getElem?_eq_some_iff.1 hx
  by_cases hi : i = n
  · subst hi
    simp [IsOpen, List.getElem?_set_self hn]
  · simp [IsOpen, List.getElem?_set_ne (Ne.symm hi), hi]

theorem answerOldest_found {xs : List (Exchange μ α)} (ha : false ∉ awaits xs)
    (result : Except TransportError α) :
    (answerOldest result xs).1 = true ↔ ∃ i, IsOpen xs i := by
  rcases answerOldest_cases result xs with ⟨hnone, he⟩ | ⟨n, x, hn, hx, he⟩
  · simp [he, hnone]
  · have hawaited : x.awaited = true := by
      rw [← Bool.not_eq_false]
      intro hf
      exact ha (List.mem_map.2 ⟨x, List.mem_of_getElem? hx, hf⟩)
    rw [he]
    exact ⟨fun _ => ⟨n, hn.1⟩, fun _ => hawaited⟩

theorem answerOldest_eq_self {xs : List (Exchange μ α)} (h : ∀ i, ¬IsOpen xs i)
    (result : Except TransportError α) : answerOldest result xs = (false, xs) := by
  rcases answerOldest_cases result xs with ⟨-, he⟩ | ⟨n, x, hn, -, -⟩
  · exact he
  · exact absurd hn.1 (h n)

theorem reply_answerOldest_of_isLeast {xs : List (Exchange μ α)} {n : Nat}
    (h : IsLeast {i | IsOpen xs i} n) (result : Except TransportError α) (i : Nat) :
    (answerOldest result xs).2[i]?.bind reply =
      if i = n then some result else xs[i]?.bind reply := by
  rcases answerOldest_cases result xs with ⟨hnone, -⟩ | ⟨m, x, hm, hx, he⟩
  · exact absurd h.1 (hnone n)
  · rw [hm.unique h] at hx he
    obtain ⟨hn, -⟩ := List.getElem?_eq_some_iff.1 hx
    rw [he]
    split
    · next hi => simp [hi, List.getElem?_set_self hn]
    · next hi => rw [List.getElem?_set_ne (Ne.symm hi)]

/-- The requests of one kind, at a time when the next one gets the reply `next`: the callers await
all of them, none is answered before an older one, and none stays open unless the next one does. -/
structure Queued (next : Option (Except TransportError α)) (xs : List (Exchange μ α)) : Prop where
  awaited : false ∉ awaits xs
  inOrder : ∀ i j, IsOpen xs i → i ≤ j → j < xs.length → IsOpen xs j
  joined : ∀ i, IsOpen xs i → next = none

variable {next : Option (Except TransportError α)} {xs : List (Exchange μ α)}

theorem queued_nil (next : Option (Except TransportError α)) :
    Queued next ([] : List (Exchange μ α)) where
  awaited := List.not_mem_nil
  inOrder i j hi := by simp [IsOpen] at hi
  joined i hi := by simp [IsOpen] at hi

theorem Queued.issue (h : Queued next xs) (request : μ) :
    Queued next (xs ++ [⟨request, next, true⟩]) where
  awaited := by
    have ha := h.awaited
    simp only [awaits] at ha
    simp [awaits, ha]
  inOrder i j hi hij hj := by
    rw [isOpen_concat] at hi ⊢
    rw [List.length_append, List.length_singleton] at hj
    have hnext : next = none := hi.elim (h.joined i) (·.2)
    rcases Nat.lt_succ_iff_lt_or_eq.1 hj with hj | rfl
    · rcases hi with hi | ⟨rfl, -⟩
      · exact .inl (h.inOrder i j hi hij hj)
      · omega
    · exact .inr ⟨rfl, hnext⟩
  joined i hi := by
    rw [isOpen_concat] at hi
    exact hi.elim (h.joined i) (·.2)

theorem Queued.answerOldest (h : Queued next xs) (result : Except TransportError α) :
    Queued next (answerOldest result xs).2 := by
  have ha := awaits_answerOldest result xs
  rcases answerOldest_cases result xs with ⟨-, he⟩ | ⟨n, x, hn, hx, he⟩
  · rw [he]
    exact h
  · rw [he] at ha ⊢
    constructor
    · rw [ha]
      exact h.awaited
    · intro i j hi hij hj
      rw [isOpen_set hx] at hi ⊢
      rw [List.length_set] at hj
      -- The one that got the answer was the first of the open ones, so it is before all others.
      have hni : n ≤ i := hn.2 hi.2
      exact ⟨by omega, h.inOrder i j hi.2 hij hj⟩
    · intro i hi
      exact h.joined i ((isOpen_set hx result).1 hi).2

theorem Queued.failOpen (h : Queued next xs) (next' : Option (Except TransportError α)) :
    Queued next' (failOpen xs) where
  awaited := by
    rw [awaits_failOpen]
    exact h.awaited
  inOrder i _ hi := absurd hi (not_isOpen_failOpen xs i)
  joined i hi := absurd hi (not_isOpen_failOpen xs i)

end Exchange

end SwitchSession
