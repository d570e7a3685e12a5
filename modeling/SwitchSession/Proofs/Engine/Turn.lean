import SwitchSession.Engine

namespace SwitchSession

namespace Engine

theorem post_nil (e : Engine) : e.post [] = e := by
  unfold post
  split
  · rfl
  · rw [List.append_nil]

theorem post_append (e : Engine) (earlier later : List Event) :
    (e.post earlier).post later = e.post (earlier ++ later) := by
  unfold post
  cases hp : e.progress <;> simp [hp]

theorem inFlight_post (e : Engine) (events : List Event) :
    (e.post events).inFlight = e.inFlight := by
  unfold post
  cases e.progress <;> rfl

theorem post_inFlight (e : Engine) (events : List Event) (inFlight : List InFlight) :
    { e.post events with inFlight } = { e with inFlight }.post events := by
  unfold post
  cases hp : e.progress <;> simp [hp]

end Engine

namespace Handshake

variable [Admission σ]

/-- The engine at work reads events, and in between replies are delivered to it. -/
inductive Works : Handshake σ → Handshake σ → List Notice → Prop
  | done (h : Handshake σ) : Works h h []
  | read (hr : h.read? = some (h₁, ns)) (hw : Works h₁ h₂ more) : Works h h₂ (ns ++ more)
  | deliver (i : Nat) (hd : h.deliver? i = some h₁) (hw : Works h₁ h₂ more) : Works h h₂ more

theorem Works.trans {h h₁ h₂ : Handshake σ} (hw : Works h h₁ ns) (hw' : Works h₁ h₂ more) :
    Works h h₂ (ns ++ more) := by
  induction hw with
  | done => exact hw'
  | read hr _ ih =>
    rw [List.append_assoc]
    exact .read hr (ih hw')
  | deliver i hd _ ih => exact .deliver i hd (ih hw')

omit [Admission σ] in
/-- The message behind the first `waiting` is the next to be delivered. -/
theorem deliver?_next {h : Handshake σ} {waiting rest : List InFlight}
    (hf : h.engine.inFlight = waiting ++ message :: rest)
    (hr : replyEvent? h.transport message = some event) :
    h.deliver? waiting.length =
      some (h.withEngine ({ h.engine with inFlight := waiting ++ rest }.post [event])) := by
  simp [deliver?, hf, hr, List.eraseIdx_append_of_length_le]

/-- Those messages that are answered leave one by one, the others stay. -/
theorem works_deliver {h : Handshake σ} (waiting rest : List InFlight)
    (hf : h.engine.inFlight = waiting ++ rest) :
    Works h (h.withEngine
      ({ h.engine with
        inFlight := waiting ++ rest.filter fun message =>
          (replyEvent? h.transport message).isNone }.post
        (rest.filterMap (replyEvent? h.transport)))) [] := by
  induction rest generalizing h waiting with
  | nil =>
    rw [List.filter_nil, ← hf, List.filterMap_nil, Engine.post_nil]
    exact .done h
  | cons message rest ih =>
    cases hr : replyEvent? h.transport message with
    | none =>
      have := ih (h := h) (waiting ++ [message]) (by simp [hf])
      simpa [hr] using this
    | some event =>
      refine .deliver _ (deliver?_next hf hr) ?_
      let e : Engine := { h.engine with inFlight := waiting ++ rest }
      have := ih (h := h.withEngine (e.post [event])) waiting (e.inFlight_post [event])
      simpa [e, withEngine, hr, Engine.post_inFlight, Engine.post_append] using this

theorem works_deliverAll (h : Handshake σ) : Works h h.deliverAll [] :=
  works_deliver [] h.engine.inFlight rfl

theorem works_runFor (steps : Nat) (h : Handshake σ) :
    Works h (h.runFor steps).1 (h.runFor steps).2 := by
  induction steps generalizing h with
  | zero => exact .done h
  | succ steps ih =>
    rw [runFor]
    cases ha : h.advance? with
    | none => exact .done h
    | some next =>
      have hrest := ih next.1
      unfold advance? at ha
      split at ha
      · cases ha
        exact h.works_deliverAll.trans hrest
      · exact .read ha hrest

theorem works_run (h : Handshake σ) : Works h h.run.1 h.run.2 := works_runFor _ h

end Handshake

end SwitchSession
