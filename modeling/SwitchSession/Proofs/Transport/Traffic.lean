import SwitchSession.Transport

namespace SwitchSession

theorem map_modify_of_eq {f : α → β} {g : α → α} (h : ∀ x, f (g x) = f x) (xs : List α)
    (i : Nat) : (xs.modify i g).map f = xs.map f := by
  induction xs generalizing i with
  | nil => cases i <;> rfl
  | cons x rest ih =>
    cases i with
    | zero => exact congrArg (· :: rest.map f) (h x)
    | succ i => exact congrArg (f x :: ·) (ih i)

namespace Exchange

theorem map_request_failOpen (xs : List (Exchange μ α)) :
    (failOpen xs).map request = xs.map request := by
  simp [failOpen]

theorem map_request_answerOldest (result : Except TransportError α) (xs : List (Exchange μ α)) :
    (answerOldest result xs).2.map request = xs.map request := by
  induction xs with
  | nil => rfl
  | cons x rest ih =>
    unfold answerOldest
    cases x.reply with
    | some => simp [ih]
    | none => rfl

/-- For each exchange, whether somebody was there to wait for its reply. -/
def awaits (xs : List (Exchange μ α)) : List Bool := xs.map awaited

theorem awaits_failOpen (xs : List (Exchange μ α)) : awaits (failOpen xs) = awaits xs := by
  simp [awaits, failOpen]

theorem awaits_answerOldest (result : Except TransportError α) (xs : List (Exchange μ α)) :
    awaits (answerOldest result xs).2 = awaits xs := by
  induction xs with
  | nil => rfl
  | cons x rest ih =>
    unfold answerOldest
    cases x.reply with
    | some => exact congrArg (x.awaited :: ·) ih
    | none => rfl

/-- The second list has the exchanges of the first, in their places, with what was replied there. -/
def Grows (xs ys : List (Exchange μ α)) : Prop :=
  ∀ (i : Nat) x, xs[i]? = some x →
    ∃ y, ys[i]? = some y ∧ y.request = x.request ∧ ∀ r, x.reply = some r → y.reply = some r

theorem Grows.refl (xs : List (Exchange μ α)) : Grows xs xs :=
  fun _ x hx => ⟨x, hx, rfl, fun _ => id⟩

theorem Grows.trans {xs ys zs : List (Exchange μ α)} (h : Grows xs ys) (h' : Grows ys zs) :
    Grows xs zs := by
  intro i x hx
  obtain ⟨y, hy, hr, hy'⟩ := h i x hx
  obtain ⟨z, hz, hr', hz'⟩ := h' i y hy
  exact ⟨z, hz, hr'.trans hr, fun r => hz' r ∘ hy' r⟩

theorem Grows.reply {xs ys : List (Exchange μ α)} {i : Nat} (h : Grows xs ys)
    (hr : xs[i]?.bind reply = some r) : ys[i]?.bind reply = some r := by
  obtain ⟨x, hx, hr⟩ := Option.bind_eq_some_iff.1 hr
  obtain ⟨y, hy, -, hy'⟩ := h i x hx
  rw [hy]
  exact hy' r hr

theorem Grows.answered {xs ys : List (Exchange μ α)} (h : Grows xs ys) (P : μ → Prop)
    (hx : ∃ x ∈ xs, P x.request ∧ x.reply = some r) :
    ∃ y ∈ ys, P y.request ∧ y.reply = some r := by
  obtain ⟨x, hx, hp, hr⟩ := hx
  obtain ⟨i, hi⟩ := List.mem_iff_getElem?.1 hx
  obtain ⟨y, hy, hq, hy'⟩ := h i x hi
  exact ⟨y, List.mem_of_getElem? hy, hq ▸ hp, hy' r hr⟩

theorem grows_append (xs ys : List (Exchange μ α)) : Grows xs (xs ++ ys) := by
  intro i x hx
  obtain ⟨hi, -⟩ := List.getElem?_eq_some_iff.1 hx
  exact ⟨x, by rw [List.getElem?_append_left hi, hx], rfl, fun _ => id⟩

theorem grows_failOpen (xs : List (Exchange μ α)) : Grows xs (failOpen xs) := by
  intro i x hx
  refine ⟨{ x with reply := x.reply <|> some (.error .connectionClosed) }, ?_, rfl, fun r hr => ?_⟩
  · rw [failOpen, List.getElem?_map, hx]
    rfl
  · simp [hr]

theorem grows_answerOldest (result : Except TransportError α) (xs : List (Exchange μ α)) :
    Grows xs (answerOldest result xs).2 := by
  induction xs with
  | nil => exact .refl []
  | cons x rest ih =>
    intro i y hy
    unfold answerOldest
    cases hx : x.reply with
    | some =>
      cases i with
      | zero => exact ⟨y, hy, rfl, fun _ => id⟩
      | succ i => exact ih i y hy
    | none =>
      cases i with
      | zero =>
        cases hy
        refine ⟨{ x with reply := some result }, rfl, rfl, fun r hr => ?_⟩
        rw [hx] at hr
        cases hr
      | succ i => exact ⟨y, hy, rfl, fun _ => id⟩

/-- Answers the exchange in one place, unless it is answered already. -/
def answerAt (index : Nat) (result : Except TransportError α) (xs : List (Exchange μ α)) :
    List (Exchange μ α) :=
  xs.modify index fun x => { x with reply := x.reply <|> some result }

theorem map_answerAt (f : Exchange μ α → β) (hf : ∀ x reply, f { x with reply } = f x)
    (index : Nat) (result : Except TransportError α) (xs : List (Exchange μ α)) :
    (answerAt index result xs).map f = xs.map f := by
  apply map_modify_of_eq
  intro x
  exact hf x _

theorem grows_answerAt (index : Nat) (result : Except TransportError α)
    (xs : List (Exchange μ α)) : Grows xs (answerAt index result xs) := by
  intro i x hx
  rw [answerAt]
  by_cases hi : index = i
  · subst hi
    rw [List.getElem?_modify_eq, hx]
    refine ⟨_, rfl, rfl, fun r hr => ?_⟩
    simp [hr]
  · rw [List.getElem?_modify_ne _ _ hi, hx]
    exact ⟨x, rfl, rfl, fun _ => id⟩

end Exchange

/-- The requests that a transport was given, each kind in the order of issue. -/
structure Traffic where
  hellos : List Hello
  features : List Request
  barriers : List Request
deriving DecidableEq

namespace Transport

def traffic (t : Transport) : Traffic where
  hellos := t.hellos.map (·.request)
  features := t.features.map (·.request)
  barriers := t.barriers.map (·.request)

/-- The second transport is the first some time later, without a new barrier. -/
structure Continues (t t' : Transport) : Prop where
  remote : t'.remote = t.remote
  barriers : t'.traffic.barriers = t.traffic.barriers
  disconnected : t.isDisconnected → t'.isDisconnected
  barrier : ∀ i r, t.barrierReply? i = some r → t'.barrierReply? i = some r

/-- The second transport is the first some time later, without a new request. -/
structure Follows (t t' : Transport) : Prop where
  remote : t'.remote = t.remote
  traffic : t'.traffic = t.traffic
  disconnected : t.isDisconnected → t'.isDisconnected
  barrier : ∀ i r, t.barrierReply? i = some r → t'.barrierReply? i = some r

theorem Continues.trans {t : Transport} (h : t.Continues t') (h' : t'.Continues t'') :
    t.Continues t'' :=
  ⟨h'.remote.trans h.remote, h'.barriers.trans h.barriers, h'.disconnected ∘ h.disconnected,
    fun i r => h'.barrier i r ∘ h.barrier i r⟩

theorem Follows.continues {t : Transport} (h : t.Follows t') : t.Continues t' :=
  ⟨h.remote, congrArg Traffic.barriers h.traffic, h.disconnected, h.barrier⟩

theorem Follows.refl (t : Transport) : t.Follows t :=
  ⟨rfl, rfl, id, fun _ _ => id⟩

theorem isDisconnected_disconnect (t : Transport) : t.disconnect.isDisconnected := by
  simp [isDisconnected, disconnect]

theorem follows_disconnect (t : Transport) : t.Follows t.disconnect where
  remote := rfl
  traffic := by simp [traffic, disconnect, Exchange.map_request_failOpen]
  disconnected _ := t.isDisconnected_disconnect
  barrier _ _ := (Exchange.grows_failOpen t.barriers).reply

theorem follows_completeFeatures (t : Transport) (result : Except TransportError FeatureSet) :
    t.Follows (t.completeFeatures result).2 where
  remote := rfl
  traffic := by simp [traffic, completeFeatures, Exchange.map_request_answerOldest]
  disconnected := id
  barrier _ _ := id

theorem follows_completeBarrier (t : Transport) (result : Except TransportError Unit) :
    t.Follows (t.completeBarrier result).2 where
  remote := rfl
  traffic := by simp [traffic, completeBarrier, Exchange.map_request_answerOldest]
  disconnected := id
  barrier _ _ := (Exchange.grows_answerOldest result t.barriers).reply

/-- What the handshake has asked of the device, and what came back, is still known. -/
structure Retains (t t' : Transport) : Prop where
  hellos : Exchange.Grows t.hellos t'.hellos
  features : Exchange.Grows t.features t'.features

theorem Retains.refl (t : Transport) : t.Retains t := ⟨.refl _, .refl _⟩

theorem Retains.trans {t : Transport} (h : t.Retains t') (h' : t'.Retains t'') : t.Retains t'' :=
  ⟨h.hellos.trans h'.hellos, h.features.trans h'.features⟩

theorem retains_sendHello (t : Transport) (hello : Hello) (awaited : Bool) :
    t.Retains (t.sendHello hello awaited) :=
  ⟨Exchange.grows_append _ _, .refl _⟩

theorem retains_requestFeatures (t : Transport) (request : Request) (awaited : Bool) :
    t.Retains (t.requestFeatures request awaited) :=
  ⟨.refl _, Exchange.grows_append _ _⟩

theorem retains_completeFeatures (t : Transport) (result : Except TransportError FeatureSet) :
    t.Retains (t.completeFeatures result).2 :=
  ⟨.refl _, Exchange.grows_answerOldest result _⟩

theorem retains_disconnect (t : Transport) : t.Retains t.disconnect :=
  ⟨Exchange.grows_failOpen _, Exchange.grows_failOpen _⟩

/-- The reply to any one request. Replies come in whatever order, each with a result of its own. -/
inductive Response
  | hello (index : Nat) (result : Except TransportError Unit)
  | features (index : Nat) (result : Except TransportError FeatureSet)
  | barrier (index : Nat) (result : Except TransportError Unit)

def respond (t : Transport) : Response → Transport
  | .hello index result => { t with hellos := Exchange.answerAt index result t.hellos }
  | .features index result => { t with features := Exchange.answerAt index result t.features }
  | .barrier index result => { t with barriers := Exchange.answerAt index result t.barriers }

theorem follows_respond (t : Transport) (response : Response) : t.Follows (t.respond response) where
  remote := by cases response <;> rfl
  traffic := by
    cases response <;>
      simp only [traffic, respond, Exchange.map_answerAt (·.request) fun _ _ => rfl]
  disconnected := by cases response <;> exact id
  barrier i r h := by
    cases response with
    | barrier index result => exact (Exchange.grows_answerAt index result t.barriers).reply h
    | _ => exact h

theorem retains_respond (t : Transport) (response : Response) : t.Retains (t.respond response) := by
  cases response with
  | hello index result => exact ⟨Exchange.grows_answerAt index result t.hellos, .refl _⟩
  | features index result => exact ⟨.refl _, Exchange.grows_answerAt index result t.features⟩
  | barrier => exact ⟨.refl _, .refl _⟩

end Transport

end SwitchSession
