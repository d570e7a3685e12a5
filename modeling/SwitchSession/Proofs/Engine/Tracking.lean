import SwitchSession.Proofs.Engine.Notices
import SwitchSession.Proofs.Engine.Turn

namespace SwitchSession

namespace Exchange

theorem awaits_getElem? {xs : List (Exchange μ α)} {i : Nat} (h : (awaits xs)[i]? = some b) :
    ∃ x, xs[i]? = some x ∧ x.awaited = b := by
  rw [awaits, List.getElem?_map] at h
  exact Option.map_eq_some_iff.1 h

theorem awaits_append (xs ys : List (Exchange μ α)) : awaits xs <+: awaits (xs ++ ys) := by
  rw [awaits, awaits, List.map_append]
  exact List.prefix_append _ _

end Exchange

namespace Transport

/-- Who waits for a request stays as it was at the time of issue. -/
structure Marks (t t' : Transport) : Prop where
  hellos : Exchange.awaits t.hellos <+: Exchange.awaits t'.hellos
  features : Exchange.awaits t.features <+: Exchange.awaits t'.features

theorem Marks.refl (t : Transport) : t.Marks t := ⟨List.prefix_refl _, List.prefix_refl _⟩

theorem Marks.trans {t : Transport} (h : t.Marks t') (h' : t'.Marks t'') : t.Marks t'' :=
  ⟨h.hellos.trans h'.hellos, h.features.trans h'.features⟩

theorem Marks.of_eq {t t' : Transport}
    (hh : Exchange.awaits t'.hellos = Exchange.awaits t.hellos)
    (hf : Exchange.awaits t'.features = Exchange.awaits t.features) : t.Marks t' :=
  ⟨hh ▸ List.prefix_refl _, hf ▸ List.prefix_refl _⟩

theorem marks_respond (t : Transport) (response : Response) : t.Marks (t.respond response) := by
  apply Marks.of_eq
  · cases response with
    | hello => exact Exchange.map_answerAt _ (fun _ _ => rfl) _ _ _
    | _ => rfl
  · cases response with
    | features => exact Exchange.map_answerAt _ (fun _ _ => rfl) _ _ _
    | _ => rfl

end Transport

namespace InFlight

/-- There is such a request, and its reply is awaited. -/
def Awaited (t : Transport) : InFlight → Prop
  | .hello index _ _ => (Exchange.awaits t.hellos)[index]? = some true
  | .features index _ => (Exchange.awaits t.features)[index]? = some true

/-- There is such a request, issued while somebody could still post, and it is unanswered. -/
def Outstanding (t : Transport) : InFlight → Prop
  | .hello index _ _ => ∃ x, t.hellos[index]? = some x ∧ x.awaited = true ∧ x.reply = none
  | .features index _ => ∃ x, t.features[index]? = some x ∧ x.awaited = true ∧ x.reply = none

theorem getElem?_of_prefix {xs ys : List α} {i : Nat} (h : xs <+: ys) (hx : xs[i]? = some x) :
    ys[i]? = some x := by
  obtain ⟨zs, rfl⟩ := h
  rw [List.getElem?_append_left (List.getElem?_eq_some_iff.1 hx).1, hx]

theorem Awaited.marks {message : InFlight} (h : message.Awaited t) (hm : t.Marks t') :
    message.Awaited t' := by
  cases message with
  | hello => exact getElem?_of_prefix hm.hellos h
  | features => exact getElem?_of_prefix hm.features h

theorem Awaited.outstanding {message : InFlight} (h : message.Awaited t)
    (hr : Handshake.replyEvent? t message = none) : message.Outstanding t := by
  cases message with
  | hello index xid next =>
    obtain ⟨x, hx, ha⟩ := Exchange.awaits_getElem? h
    refine ⟨x, hx, ha, ?_⟩
    simpa [Handshake.replyEvent?, Transport.helloReply?, hx] using hr
  | features index xid =>
    obtain ⟨x, hx, ha⟩ := Exchange.awaits_getElem? h
    refine ⟨x, hx, ha, ?_⟩
    simpa [Handshake.replyEvent?, Transport.featuresReply?, hx] using hr

end InFlight

namespace Handshake

/-- Whatever is newly in flight is a request whose reply is awaited. -/
structure Tracks (h h' : Handshake σ) : Prop where
  marks : h.transport.Marks h'.transport
  inFlight : ∀ message ∈ h'.engine.inFlight,
    message ∈ h.engine.inFlight ∨ message.Awaited h'.transport

theorem Tracks.refl (h : Handshake σ) : h.Tracks h := ⟨.refl _, fun _ => .inl⟩

theorem Tracks.trans {h : Handshake σ} (ht : h.Tracks h') (ht' : h'.Tracks h'') :
    h.Tracks h'' where
  marks := ht.marks.trans ht'.marks
  inFlight message hm := by
    rcases ht'.inFlight message hm with hm | hm
    · exact (ht.inFlight message hm).imp_right (·.marks ht'.marks)
    · exact .inr hm

theorem Tracks.of_inFlight {h h' : Handshake σ} (ht : h'.transport = h.transport)
    (hf : h'.engine.inFlight ⊆ h.engine.inFlight) : h.Tracks h' :=
  ⟨ht ▸ .refl _, fun _ hm => .inl (hf hm)⟩

theorem Tracks.of_marks {h h' : Handshake σ} (ht : h.transport.Marks h'.transport)
    (he : h'.engine = h.engine) : h.Tracks h' :=
  ⟨ht, fun _ hm => .inl (he ▸ hm)⟩

theorem mem_track {e : Engine} (hm : other ∈ (e.track message).inFlight) :
    other ∈ e.inFlight ∨ e.isOpen = true ∧ other = message := by
  unfold Engine.track at hm
  split at hm
  · next ho => simpa [ho] using hm
  · exact .inl hm

theorem tracks_perform (h : Handshake σ) (a : Action) : h.Tracks (h.perform a).1 := by
  cases a with
  | sendHello hello next =>
    refine ⟨⟨Exchange.awaits_append _ _, List.prefix_refl _⟩, fun message hm => ?_⟩
    refine (mem_track hm).imp_right ?_
    rintro ⟨ho, rfl⟩
    simp [InFlight.Awaited, Exchange.awaits, perform, Transport.sendHello, ho]
  | requestFeatures request =>
    refine ⟨⟨List.prefix_refl _, Exchange.awaits_append _ _⟩, fun message hm => ?_⟩
    refine (mem_track hm).imp_right ?_
    rintro ⟨ho, rfl⟩
    simp [InFlight.Awaited, Exchange.awaits, perform, Transport.requestFeatures, ho]
  | _ => exact .refl h

theorem tracks_performAll (as : List Action) (h : Handshake σ) :
    h.Tracks (performAll as h).1 := by
  induction as generalizing h with
  | nil => exact .refl h
  | cons a as ih => exact (h.tracks_perform a).trans (ih (h.perform a).1)

theorem tracks_withEngine (h : Handshake σ) {e : Engine} (hf : e.inFlight ⊆ h.engine.inFlight) :
    h.Tracks (h.withEngine e) :=
  .of_inFlight rfl hf

theorem tracks_deliver {h : Handshake σ} (hd : h.deliver? i = some h') : h.Tracks h' := by
  unfold deliver? at hd
  split at hd
  · cases hd
  · cases hd
    refine h.tracks_withEngine ?_
    rw [Engine.inFlight_post]
    exact List.eraseIdx_subset

variable [Admission σ]

theorem tracks_handle (h : Handshake σ) (e : Event) : h.Tracks (h.handle e).1 := by
  have hr : h.Tracks (h.reacted e) := .of_inFlight rfl (List.Subset.refl _)
  have hp := hr.trans (tracks_performAll (h.actionsOn e) (h.reacted e))
  exact hp.trans (.of_inFlight rfl (List.Subset.refl _))

theorem tracks_read {h : Handshake σ} (hr : h.read? = some (h', ns)) : h.Tracks h' := by
  unfold read? at hr
  split at hr
  · split at hr
    · next event queue _ =>
      cases hr
      have hh := (h.withEngine { h.engine with queue }).tracks_handle event
      exact ⟨hh.marks, hh.inFlight⟩
    · split at hr
      · cases hr
      · cases hr
        exact tracks_handle _ _
  · cases hr

theorem tracks_move {h : Handshake σ} (hm : h.move? m = some (h', ns)) : h.Tracks h' := by
  cases m with
  | tell signal =>
    cases hm
    obtain ⟨queue, hq⟩ := h.engine.tell_eq signal
    rw [hq]
    exact h.tracks_withEngine (List.Subset.refl _)
  | cloneHandle =>
    cases hm
    unfold Engine.cloneHandle
    split <;> exact h.tracks_withEngine (List.Subset.refl _)
  | dropHandle =>
    cases hm
    exact h.tracks_withEngine (List.Subset.refl _)
  | disconnect =>
    cases hm
    exact .of_marks (.of_eq (Exchange.awaits_failOpen _) (Exchange.awaits_failOpen _)) rfl
  | completeFeatures result =>
    cases hm
    exact .of_marks (.of_eq rfl (Exchange.awaits_answerOldest result _)) rfl
  | completeBarrier result =>
    cases hm
    exact .of_marks (.of_eq rfl rfl) rfl
  | read => exact tracks_read hm
  | deliver i =>
    obtain ⟨g, hd, hg⟩ := Option.map_eq_some_iff.1 hm
    cases hg
    exact tracks_deliver hd
  | acknowledge =>
    cases hm
    unfold Engine.acknowledge
    split <;> exact h.tracks_withEngine (List.Subset.refl _)

end Handshake

end SwitchSession
