import SwitchSession.Transport.Watch
import SwitchSession.Proofs.Transport.Queue
import Mathlib.Data.List.Induction

namespace SwitchSession

namespace Transport

/-- A transport before its first request. HELLOs are never held back. -/
def scripted (remote : String) (hello : Except TransportError Unit) (features : Plan FeatureSet)
    (barrier : Plan Unit) : Transport :=
  { remote, helloPlan := .immediate hello, featuresPlan := features, barrierPlan := barrier }

/-- What is done with a transport. Whoever issues a request keeps awaiting its reply. -/
inductive Use
  | hello (message : Hello)
  | features (request : Request)
  | barrier (request : Request)
  | completeFeatures (result : Except TransportError FeatureSet)
  | completeBarrier (result : Except TransportError Unit)
  | disconnect
deriving DecidableEq

namespace Use

def hello? : Use → Option Hello
  | .hello message => some message
  | _ => none

def features? : Use → Option Request
  | .features request => some request
  | _ => none

def barrier? : Use → Option Request
  | .barrier request => some request
  | _ => none

/-- The messages that are issued, each kind in the order of issue. -/
def sent (uses : List Use) : Traffic where
  hellos := uses.filterMap hello?
  features := uses.filterMap features?
  barriers := uses.filterMap barrier?

end Use

def use (t : Transport) : Use → Transport
  | .hello message => t.sendHello message true
  | .features request => t.requestFeatures request true
  | .barrier request => t.requestBarrier request true
  | .completeFeatures result => (t.completeFeatures result).2
  | .completeBarrier result => (t.completeBarrier result).2
  | .disconnect => t.disconnect

/-- The transport after all the uses, one after the other. -/
def after (t : Transport) (uses : List Use) : Transport := uses.foldl use t

/-- The ticket of the request that a use issues. -/
def ticket? (t : Transport) : Use → Option Ticket
  | .hello _ => some (.hello t.hellos.length)
  | .features _ => some (.features t.features.length)
  | .barrier _ => some (.barrier t.barriers.length)
  | _ => none

def Issued (t : Transport) : Ticket → Prop
  | .hello index => index < t.hellos.length
  | .features index => index < t.features.length
  | .barrier index => index < t.barriers.length

def Unanswered (t : Transport) (ticket : Ticket) : Prop :=
  t.Issued ticket ∧ t.reply? ticket = none

/-- What the script has in store for a request, if it does not leave it to a completion. -/
def script? (t : Transport) : Ticket → Option Reply
  | .hello _ => t.helloPlan.reply.map (·.map fun _ => none)
  | .features _ => t.featuresPlan.reply.map (·.map some)
  | .barrier _ => t.barrierPlan.reply.map (·.map fun _ => none)

/-- The waiting requests of one kind are a queue: a completion answers the oldest of them and no
other request, and it tells whether there was one. -/
structure Queues (t : Transport) (ticket : Nat → Ticket)
    (complete : Except TransportError α → Bool × Transport)
    (seen : Except TransportError α → Reply) : Prop where
  inOrder : ∀ i j, t.Unanswered (ticket i) → i ≤ j → t.Issued (ticket j) → t.Unanswered (ticket j)
  found : ∀ result, (complete result).1 = true ↔ ∃ i, t.Unanswered (ticket i)
  missed : ∀ result, (complete result).1 = false → (complete result).2 = t
  oldest : ∀ result n, IsLeast {i | t.Unanswered (ticket i)} n →
    (complete result).2.reply? (ticket n) = some (seen result) ∧
      ∀ other, other ≠ ticket n → (complete result).2.reply? other = t.reply? other

variable {t t' t'' : Transport} {ticket : Ticket}

theorem after_append (t : Transport) (before later : List Use) :
    t.after (before ++ later) = (t.after before).after later :=
  List.foldl_append

theorem traffic_use (t : Transport) (u : Use) : (t.use u).traffic =
    ⟨t.traffic.hellos ++ u.hello?.toList, t.traffic.features ++ u.features?.toList,
      t.traffic.barriers ++ u.barrier?.toList⟩ := by
  have hnothing {t' : Transport} (h : t'.traffic = t.traffic) : t'.traffic =
      ⟨t.traffic.hellos ++ [], t.traffic.features ++ [], t.traffic.barriers ++ []⟩ := by
    simpa only [List.append_nil] using h
  cases u with
  | hello => simp [use, traffic, sendHello, Use.hello?, Use.features?, Use.barrier?]
  | features => simp [use, traffic, requestFeatures, Use.hello?, Use.features?, Use.barrier?]
  | barrier => simp [use, traffic, requestBarrier, Use.hello?, Use.features?, Use.barrier?]
  | completeFeatures result => exact hnothing (t.follows_completeFeatures result).traffic
  | completeBarrier result => exact hnothing (t.follows_completeBarrier result).traffic
  | disconnect => exact hnothing t.follows_disconnect.traffic

theorem traffic_after (ht : t.traffic = Use.sent []) (uses : List Use) :
    (t.after uses).traffic = Use.sent uses := by
  induction uses using List.reverseRecOn with
  | nil => exact ht
  | append_singleton before u ih =>
    calc (t.after (before ++ [u])).traffic = ((t.after before).use u).traffic :=
          congrArg traffic (t.after_append before [u])
      _ = Use.sent (before ++ [u]) := by
          simp only [traffic_use, ih, Use.sent, List.filterMap_append, List.filterMap_cons,
            List.filterMap_nil, Option.toList]
          cases u <;> rfl

/-- Nothing that was asked or answered is forgotten. -/
structure Preserves (t t' : Transport) : Prop where
  retains : t.Retains t'
  barriers : Exchange.Grows t.barriers t'.barriers

theorem Preserves.trans (h : t.Preserves t') (h' : t'.Preserves t'') : t.Preserves t'' :=
  ⟨h.retains.trans h'.retains, h.barriers.trans h'.barriers⟩

theorem preserves_use (t : Transport) (u : Use) : t.Preserves (t.use u) := by
  cases u with
  | hello message => exact ⟨t.retains_sendHello message true, .refl _⟩
  | features request => exact ⟨t.retains_requestFeatures request true, .refl _⟩
  | barrier => exact ⟨⟨.refl _, .refl _⟩, Exchange.grows_append _ _⟩
  | completeFeatures result => exact ⟨t.retains_completeFeatures result, .refl _⟩
  | completeBarrier result => exact ⟨⟨.refl _, .refl _⟩, Exchange.grows_answerOldest result _⟩
  | disconnect => exact ⟨t.retains_disconnect, Exchange.grows_failOpen _⟩

theorem preserves_after (t : Transport) (uses : List Use) : t.Preserves (t.after uses) := by
  induction uses generalizing t with
  | nil => exact ⟨.refl t, .refl _⟩
  | cons u uses ih => exact (t.preserves_use u).trans (ih (t.use u))

theorem Preserves.reply? (h : t.Preserves t') (hr : t.reply? ticket = some r) :
    t'.reply? ticket = some r := by
  cases ticket with
  | hello i =>
    obtain ⟨r, hi, rfl⟩ := Option.map_eq_some_iff.1 hr
    exact congrArg (Option.map _) (h.retains.hellos.reply hi)
  | features i =>
    obtain ⟨r, hi, rfl⟩ := Option.map_eq_some_iff.1 hr
    exact congrArg (Option.map _) (h.retains.features.reply hi)
  | barrier i =>
    obtain ⟨r, hi, rfl⟩ := Option.map_eq_some_iff.1 hr
    exact congrArg (Option.map _) (h.barriers.reply hi)

theorem isDisconnected_use (t : Transport) (u : Use) :
    (t.use u).isDisconnected ↔ t.isDisconnected ∨ u = .disconnect := by
  cases u with
  | disconnect => simp [use, isDisconnected_disconnect]
  | _ =>
    rw [or_iff_left nofun]
    rfl

theorem isDisconnected_after (t : Transport) (uses : List Use) :
    (t.after uses).isDisconnected ↔ t.isDisconnected ∨ .disconnect ∈ uses := by
  induction uses generalizing t with
  | nil => simp [after]
  | cons u uses ih =>
    calc ((t.use u).after uses).isDisconnected
        ↔ (t.use u).isDisconnected ∨ .disconnect ∈ uses := ih (t.use u)
      _ ↔ (t.isDisconnected ∨ u = .disconnect) ∨ .disconnect ∈ uses := by rw [isDisconnected_use]
      _ ↔ t.isDisconnected ∨ .disconnect ∈ u :: uses := by
          rw [or_assoc, List.mem_cons, @eq_comm _ u]

theorem script?_after (t : Transport) (uses : List Use) : (t.after uses).script? = t.script? := by
  induction uses generalizing t with
  | nil => rfl
  | cons u uses ih =>
    have hu : (t.use u).script? = t.script? := by cases u <;> rfl
    exact (ih (t.use u)).trans hu

/-- The reply to a request that is issued now, if it does not have to wait. -/
def replyNow? (t : Transport) : Ticket → Option Reply
  | .hello _ => (t.replyTo t.helloPlan).map (·.map fun _ => none)
  | .features _ => (t.replyTo t.featuresPlan).map (·.map some)
  | .barrier _ => (t.replyTo t.barrierPlan).map (·.map fun _ => none)

theorem map_replyTo (t : Transport) (plan : Plan α) (f : α → Option FeatureSet) :
    (t.replyTo plan).map (·.map f) =
      if t.isDisconnected then some (.error .connectionClosed) else plan.reply.map (·.map f) := by
  unfold replyTo
  split <;> rfl

theorem replyNow?_eq (t : Transport) (ticket : Ticket) : t.replyNow? ticket =
    if t.isDisconnected then some (.error .connectionClosed) else t.script? ticket := by
  cases ticket with
  | hello => exact t.map_replyTo t.helloPlan _
  | features => exact t.map_replyTo t.featuresPlan _
  | barrier => exact t.map_replyTo t.barrierPlan _

theorem reply?_use_of_ticket? {u : Use} (h : t.ticket? u = some ticket) :
    (t.use u).reply? ticket = t.replyNow? ticket := by
  cases u with
  | hello =>
    cases h
    simp [use, reply?, replyNow?, helloReply?, sendHello]
  | features =>
    cases h
    simp [use, reply?, replyNow?, featuresReply?, requestFeatures]
  | barrier =>
    cases h
    simp [use, reply?, replyNow?, barrierReply?, requestBarrier]
  | _ => cases h

/-- Each kind of request is a queue, which the next request of that kind joins. -/
structure Orderly (t : Transport) : Prop where
  hellos : Exchange.Queued (t.replyTo t.helloPlan) t.hellos
  features : Exchange.Queued (t.replyTo t.featuresPlan) t.features
  barriers : Exchange.Queued (t.replyTo t.barrierPlan) t.barriers

theorem Orderly.use (h : t.Orderly) (u : Use) : (t.use u).Orderly := by
  cases u with
  | hello message => exact ⟨h.hellos.issue message, h.features, h.barriers⟩
  | features request => exact ⟨h.hellos, h.features.issue request, h.barriers⟩
  | barrier request => exact ⟨h.hellos, h.features, h.barriers.issue request⟩
  | completeFeatures result => exact ⟨h.hellos, h.features.answerOldest result, h.barriers⟩
  | completeBarrier result => exact ⟨h.hellos, h.features, h.barriers.answerOldest result⟩
  | disconnect => exact ⟨h.hellos.failOpen _, h.features.failOpen _, h.barriers.failOpen _⟩

theorem Orderly.after (h : t.Orderly) (uses : List Use) : (t.after uses).Orderly := by
  induction uses generalizing t with
  | nil => exact h
  | cons u uses ih => exact ih (h.use u)

/-- The exchange that a ticket stands for is open. -/
def IsOpen (t : Transport) : Ticket → Prop
  | .hello index => Exchange.IsOpen t.hellos index
  | .features index => Exchange.IsOpen t.features index
  | .barrier index => Exchange.IsOpen t.barriers index

theorem unanswered_iff : t.Unanswered ticket ↔ t.IsOpen ticket := by
  cases ticket with
  | _ =>
    rw [IsOpen, Exchange.isOpen_iff, Unanswered, reply?, Option.map_eq_none_iff]
    rfl

theorem Orderly.replyNow? (h : t.Orderly) (hu : t.Unanswered ticket) :
    t.replyNow? ticket = none := by
  rw [unanswered_iff] at hu
  cases ticket with
  | hello i => rw [Transport.replyNow?, h.hellos.joined i hu, Option.map_none]
  | features i => rw [Transport.replyNow?, h.features.joined i hu, Option.map_none]
  | barrier i => rw [Transport.replyNow?, h.barriers.joined i hu, Option.map_none]

theorem reply?_disconnect (h : t.Unanswered ticket) :
    t.disconnect.reply? ticket = some (.error .connectionClosed) := by
  rw [unanswered_iff] at h
  cases ticket with
  | _ => exact congrArg (Option.map _) (Exchange.reply_failOpen_of_isOpen h)

/-- Requests of one kind are served as a queue, wherever the transport keeps them. -/
theorem queues_of_queued {xs : List (Exchange μ α)} (h : Exchange.Queued next xs)
    {tickets : Nat → Ticket} {seen : Except TransportError α → Reply}
    (put : List (Exchange μ α) → Transport) (hput : put xs = t)
    (hopen : ∀ i, t.Unanswered (tickets i) ↔ Exchange.IsOpen xs i)
    (hissued : ∀ i, t.Issued (tickets i) → i < xs.length)
    (hreply : ∀ ys i, (put ys).reply? (tickets i) = (ys[i]?.bind (·.reply)).map seen)
    (hothers : ∀ ys other, (∀ i, other ≠ tickets i) → (put ys).reply? other = t.reply? other) :
    t.Queues tickets
      (fun result => (Exchange.answerOldest result xs).map id put) seen where
  inOrder i j hi hij hj := by
    rw [hopen] at hi ⊢
    exact h.inOrder i j hi hij (hissued j hj)
  found result := by
    simp only [hopen]
    exact Exchange.answerOldest_found h.awaited result
  missed result hf := by
    have hnone : ∀ i, ¬Exchange.IsOpen xs i := by
      intro i hi
      have hfound := (Exchange.answerOldest_found h.awaited result).2 ⟨i, hi⟩
      rw [Prod.map_fst, id, hfound] at hf
      cases hf
    rw [Exchange.answerOldest_eq_self hnone]
    exact hput
  oldest result n hn := by
    simp only [hopen] at hn
    have hlane := Exchange.reply_answerOldest_of_isLeast hn result
    constructor
    · rw [Prod.map_snd, hreply, hlane, if_pos rfl, Option.map_some]
    · intro other hne
      by_cases hother : ∃ i, other = tickets i
      · obtain ⟨i, rfl⟩ := hother
        have hi : i ≠ n := fun hi => hne (congrArg tickets hi)
        rw [Prod.map_snd, hreply, hlane, if_neg hi, ← hreply, hput]
      · exact hothers _ other (not_exists.1 hother)

theorem Queues.idle {tickets : Nat → Ticket} {seen : Except TransportError α → Reply}
    (h : t.Queues tickets complete seen) (hn : ∀ ticket, ¬t.Unanswered ticket)
    (result : Except TransportError α) : (complete result).1 = false := by
  rw [← Bool.not_eq_true, h.found result]
  rintro ⟨i, hi⟩
  exact hn (tickets i) hi

theorem Orderly.queues_features (h : t.Orderly) :
    t.Queues .features t.completeFeatures (·.map some) := by
  apply queues_of_queued h.features (fun features => { t with features }) rfl
  · exact fun _ => unanswered_iff
  · exact fun _ => id
  · exact fun _ _ => rfl
  · intro ys other hother
    cases other with
    | features i => exact absurd rfl (hother i)
    | _ => rfl

theorem Orderly.queues_barrier (h : t.Orderly) :
    t.Queues .barrier t.completeBarrier (·.map fun _ => none) := by
  apply queues_of_queued h.barriers (fun barriers => { t with barriers }) rfl
  · exact fun _ => unanswered_iff
  · exact fun _ => id
  · exact fun _ _ => rfl
  · intro ys other hother
    cases other with
    | barrier i => exact absurd rfl (hother i)
    | _ => rfl

/-- Whatever is done with a scripted transport, in whatever order: it has recorded the messages as
they were issued, and no reply is taken back or changed. A request is answered when it is issued, as
the script says, or with `connectionClosed` once the transport is cut. Only before that, and only
where the script defers, a request waits; each completion answers the oldest that does and no other
one, and a disconnect answers them all. -/
theorem each_request_answered_once (remote : String) (hello : Except TransportError Unit)
    (features : Plan FeatureSet) (barrier : Plan Unit) (uses : List Use) :
    let fresh := scripted remote hello features barrier
    let t := fresh.after uses
    t.traffic = Use.sent uses ∧
    (∀ later ticket r, t.reply? ticket = some r → (t.after later).reply? ticket = some r) ∧
    (∀ u ticket, t.ticket? u = some ticket → (t.use u).reply? ticket =
      if .disconnect ∈ uses then some (.error .connectionClosed) else fresh.script? ticket) ∧
    (∀ ticket, t.Unanswered ticket → .disconnect ∉ uses ∧ fresh.script? ticket = none) ∧
    t.Queues .features t.completeFeatures (·.map some) ∧
    t.Queues .barrier t.completeBarrier (·.map fun _ => none) ∧
    (∀ ticket, t.Unanswered ticket →
      t.disconnect.reply? ticket = some (.error .connectionClosed)) ∧
    (.disconnect ∈ uses → (∀ result, (t.completeFeatures result).1 = false) ∧
      ∀ result, (t.completeBarrier result).1 = false) := by
  intro fresh t
  have horderly : t.Orderly := by
    have hfresh : fresh.Orderly :=
      ⟨Exchange.queued_nil _, Exchange.queued_nil _, Exchange.queued_nil _⟩
    exact hfresh.after uses
  have hcut : t.isDisconnected ↔ .disconnect ∈ uses := by
    rw [isDisconnected_after]
    exact or_iff_right nofun
  have hnow (ticket : Ticket) : t.replyNow? ticket =
      if .disconnect ∈ uses then some (.error .connectionClosed) else fresh.script? ticket := by
    rw [replyNow?_eq, script?_after]
    exact if_congr hcut rfl rfl
  have hwaits (ticket : Ticket) (hu : t.Unanswered ticket) :
      .disconnect ∉ uses ∧ fresh.script? ticket = none := by
    have hnone := horderly.replyNow? hu
    rw [hnow] at hnone
    split at hnone
    · cases hnone
    · next hd => exact ⟨hd, hnone⟩
  have hfeatures := horderly.queues_features
  have hbarrier := horderly.queues_barrier
  refine ⟨traffic_after rfl uses, ?_, ?_, hwaits, hfeatures, hbarrier, ?_, ?_⟩
  · intro later ticket r hr
    exact (t.preserves_after later).reply? hr
  · intro u ticket hu
    rw [reply?_use_of_ticket? hu, hnow]
  · intro ticket hu
    exact reply?_disconnect hu
  · intro hd
    have hnone (ticket : Ticket) : ¬t.Unanswered ticket := fun hu => (hwaits ticket hu).1 hd
    exact ⟨hfeatures.idle hnone, hbarrier.idle hnone⟩

/-- A completion goes to the older of two barriers, and the disconnect to the other one. -/
example :
    let t := (scripted "10.0.0.1:6653" (.ok ()) .deferred .deferred).after
      [.barrier ⟨4, 1⟩, .barrier ⟨4, 2⟩, .completeBarrier (.error (.rejected "busy")),
        .disconnect, .completeBarrier (.ok ()), .barrier ⟨4, 3⟩]
    t.reply? (.barrier 0) = some (.error (.rejected "busy")) ∧
      t.reply? (.barrier 1) = some (.error .connectionClosed) ∧
      t.reply? (.barrier 2) = some (.error .connectionClosed) := by
  decide

end Transport

end SwitchSession
