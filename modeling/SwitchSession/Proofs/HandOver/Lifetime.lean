import SwitchSession.Proofs.HandOver.Closing

namespace SwitchSession

def ConnectionState.rank : ConnectionState → Nat
  | .handshaking => 0
  | .working => 1
  | .closed => 2

theorem Context.rank_toWorking (c : Context) : c.state.rank ≤ c.toWorking.state.rank := by
  unfold toWorking
  cases hs : c.state <;> simp [hs, ConnectionState.rank]

theorem Context.label_eq (c : Context) (remote : String) :
    c.label remote = c.node.elim remote NodeId.text := by
  unfold label
  cases c.node <;> rfl

namespace Site

inductive Use
  | toWorking
  | setFeatures (features : FeatureSet)
  | setNode (node : NodeId)
  | close (propagate : Bool)

namespace Use

def features? : Use → Option FeatureSet
  | .setFeatures features => some features
  | _ => none

def node? : Use → Option NodeId
  | .setNode node => some node
  | _ => none

def propagate? : Use → Option Bool
  | .close propagate => some propagate
  | _ => none

/-- What the uses gave last, if any of them gave anything. -/
def last? (given : Use → Option α) (uses : List Use) : Option α := uses.reverse.findSome? given

theorem last?_cons (given : Use → Option α) (u : Use) (uses : List Use) :
    last? given (u :: uses) = (last? given uses).or (given u) := by
  simp [last?, List.findSome?_append]

end Use

variable {s s' s'' : Site} {u : Use} {uses before later : List Use} {propagate : Bool}

def use (s : Site) : Use → Site
  | .toWorking => { s with context := s.context.toWorking }
  | .setFeatures features => { s with context := s.context.setFeatures features }
  | .setNode node => { s with context := s.context.setNode node }
  | .close propagate => s.close propagate

/-- The site after all the uses, one after the other. -/
def after (s : Site) (uses : List Use) : Site := uses.foldl use s

theorem after_append (s : Site) (before later : List Use) :
    s.after (before ++ later) = (s.after before).after later :=
  List.foldl_append

theorem rank_use (s : Site) (u : Use) : s.context.state.rank ≤ (s.use u).context.state.rank := by
  cases u with
  | toWorking => exact s.context.rank_toWorking
  | setFeatures => exact Nat.le_refl _
  | setNode => exact Nat.le_refl _
  | close propagate =>
    rw [use, state_close]
    cases s.context.state <;> decide

theorem rank_after (s : Site) (uses : List Use) :
    s.context.state.rank ≤ (s.after uses).context.state.rank := by
  induction uses generalizing s with
  | nil => exact Nat.le_refl _
  | cons u uses ih => exact Nat.le_trans (s.rank_use u) (ih (s.use u))

/-- A field of the context that each use sets to what it gives holds what was given last. -/
theorem read_after {read : Context → Option α} {given : Use → Option α}
    (hread : ∀ (s : Site) (u : Use), read (s.use u).context = (given u).or (read s.context))
    (s : Site) (uses : List Use) :
    read (s.after uses).context = (Use.last? given uses).or (read s.context) := by
  induction uses generalizing s with
  | nil => rfl
  | cons u uses ih =>
    calc read ((s.use u).after uses).context
        = (Use.last? given uses).or (read (s.use u).context) := ih (s.use u)
      _ = ((Use.last? given uses).or (given u)).or (read s.context) := by
          rw [hread, Option.or_assoc]
      _ = (Use.last? given (u :: uses)).or (read s.context) := by rw [Use.last?_cons]

theorem features_use (s : Site) (u : Use) :
    (s.use u).context.features = u.features?.or s.context.features := by
  cases u with
  | toWorking =>
    rw [use, HandOver.toWorking_eq]
    rfl
  | setFeatures => rfl
  | setNode => rfl
  | close propagate => exact s.features_close propagate

theorem node_use (s : Site) (u : Use) : (s.use u).context.node = u.node?.or s.context.node := by
  cases u with
  | toWorking =>
    rw [use, HandOver.toWorking_eq]
    rfl
  | setFeatures => rfl
  | setNode => rfl
  | close propagate => exact s.node_close propagate

/-- Nothing was closed from the first site to the second. -/
structure Undisturbed (s s' : Site) : Prop where
  closed : s'.context.state = .closed ↔ s.context.state = .closed
  closedWith : s'.context.closedWith = s.context.closedWith
  transport : s'.transport = s.transport
  journal : s'.journal = s.journal

theorem Undisturbed.refl (s : Site) : s.Undisturbed s := ⟨.rfl, rfl, rfl, rfl⟩

theorem Undisturbed.trans (h : s.Undisturbed s') (h' : s'.Undisturbed s'') : s.Undisturbed s'' :=
  ⟨h'.closed.trans h.closed, h'.closedWith.trans h.closedWith, h'.transport.trans h.transport,
    h'.journal.trans h.journal⟩

theorem undisturbed_use (h : s.context.state = .closed ∨ u.propagate? = none) :
    s.Undisturbed (s.use u) := by
  cases u with
  | toWorking =>
    have hw : s.context.toWorking.closedWith = s.context.closedWith := by
      rw [HandOver.toWorking_eq]
    exact ⟨HandOver.closed_toWorking_iff s.context, hw, rfl, rfl⟩
  | setFeatures => exact ⟨.rfl, rfl, rfl, rfl⟩
  | setNode => exact ⟨.rfl, rfl, rfl, rfl⟩
  | close propagate =>
    rcases h with h | h
    · rw [use, close_of_closed h]
      exact .refl s
    · cases h

theorem undisturbed_after
    (h : s.context.state = .closed ∨ ∀ u ∈ uses, u.propagate? = none) :
    s.Undisturbed (s.after uses) := by
  induction uses generalizing s with
  | nil => exact .refl s
  | cons u uses ih =>
    have hu : s.Undisturbed (s.use u) := by
      apply undisturbed_use
      exact h.imp_right fun h => h u List.mem_cons_self
    apply hu.trans
    apply ih
    rcases h with h | h
    · exact .inl (hu.closed.2 h)
    · exact .inr fun u hu => h u (List.mem_cons_of_mem _ hu)

/-- What the first close leaves, whatever comes after it. -/
structure ClosedAs (s s' : Site) (label : String) (propagate : Bool) : Prop where
  state : s'.context.state = .closed
  closedWith : s'.context.closedWith = some propagate
  transport : s'.transport = s.transport.disconnect
  journal : s'.journal = s.journal.write [.device (.disconnect label propagate)]

theorem closedAs_close (hs : s.context.state ≠ .closed) (propagate : Bool) :
    s.ClosedAs (s.close propagate) (s.context.label s.transport.remote) propagate := by
  rw [close_of_open hs]
  exact ⟨rfl, rfl, rfl, rfl⟩

theorem closedAs_after (hs : s.context.state ≠ .closed)
    (hb : ∀ u ∈ before, u.propagate? = none) :
    s.ClosedAs (s.after (before ++ .close propagate :: later))
      ((s.after before).context.label s.transport.remote) propagate := by
  have hu : s.Undisturbed (s.after before) := undisturbed_after (.inr hb)
  have hc := closedAs_close (mt hu.closed.1 hs) propagate
  have hl : ((s.after before).close propagate).Undisturbed
      (((s.after before).close propagate).after later) := undisturbed_after (.inl hc.state)
  rw [hu.transport] at hc
  rw [after_append]
  constructor
  · exact hl.closed.2 hc.state
  · exact hl.closedWith.trans hc.closedWith
  · rw [← hu.transport]
    exact hl.transport.trans hc.transport
  · rw [← hu.journal]
    exact hl.journal.trans hc.journal

theorem exists_first_close (hf : uses.findSome? Use.propagate? = some propagate) :
    ∃ before later, uses = before ++ .close propagate :: later ∧
      ∀ u ∈ before, u.propagate? = none := by
  obtain ⟨before, u, later, huses, hu, hb⟩ := List.findSome?_eq_some_iff.1 hf
  cases u with
  | close => cases hu; exact ⟨before, later, huses, hb⟩
  | _ => cases hu

theorem closed_after (hs : s.context.state ≠ .closed) (hw : s.context.closedWith = none)
    (uses : List Use) :
    let first := uses.findSome? Use.propagate?
    (s.after uses).context.closedWith = first ∧
      ((s.after uses).context.state = .closed ↔ first.isSome) ∧
      (s.after uses).transport.disconnects = s.transport.disconnects + first.isSome.toNat := by
  intro first
  cases hf : first with
  | none =>
    have hu : s.Undisturbed (s.after uses) :=
      undisturbed_after (.inr (List.findSome?_eq_none_iff.1 hf))
    refine ⟨hu.closedWith.trans hw, ?_, congrArg Transport.disconnects hu.transport⟩
    simp [hu.closed, hs]
  | some propagate =>
    obtain ⟨before, later, rfl, hb⟩ := exists_first_close hf
    have hc : s.ClosedAs (s.after (before ++ .close propagate :: later)) _ propagate :=
      closedAs_after hs hb
    refine ⟨hc.closedWith, ?_, congrArg Transport.disconnects hc.transport⟩
    simp [hc.state]

theorem working_use (hs : s.context.state ≠ .closed) (hu : u.propagate? = none) :
    (s.use u).context.state = .working ↔ s.context.state = .working ∨ u = .toWorking := by
  cases u with
  | toWorking =>
    obtain ⟨hleft, hclosed⟩ := HandOver.state_toWorking s.context
    cases hw : s.context.toWorking.state with
    | handshaking => exact absurd hw hleft
    | working => simp [use, hw]
    | closed => exact absurd (hclosed hw) hs
  | setFeatures => simp [use, Context.setFeatures]
  | setNode => simp [use, Context.setNode]
  | close => cases hu

theorem working_after (hs : s.context.state ≠ .closed) (hb : ∀ u ∈ uses, u.propagate? = none) :
    (s.after uses).context.state = .working ↔ s.context.state = .working ∨ .toWorking ∈ uses := by
  induction uses generalizing s with
  | nil => simp [after]
  | cons u uses ih =>
    rw [List.forall_mem_cons] at hb
    have hopen : (s.use u).context.state ≠ .closed := mt (undisturbed_use (.inr hb.1)).closed.1 hs
    calc ((s.use u).after uses).context.state = .working
        ↔ (s.use u).context.state = .working ∨ .toWorking ∈ uses := ih hopen hb.2
      _ ↔ (s.context.state = .working ∨ u = .toWorking) ∨ .toWorking ∈ uses := by
          rw [working_use hs hb.1]
      _ ↔ s.context.state = .working ∨ .toWorking ∈ u :: uses := by
          rw [or_assoc, List.mem_cons, @eq_comm _ u]

/-- Whatever is done to a new connection and in whatever order, its state goes forward only, and
once closed it stays closed. The first close cuts the transport and is recorded, with its flag and
under the node stored by then; no other use touches either. Features and node are those stored
last. -/
theorem connection_closes_once (t : Transport) (j : Journal) (uses : List Use) :
    let fresh : Site := { transport := t, journal := j }
    let s := fresh.after uses
    let first := uses.findSome? Use.propagate?
    (∀ later, s.context.state.rank ≤ (s.after later).context.state.rank ∧
      (s.context.state = .closed → (s.after later).context.state = .closed)) ∧
    s.context.closedWith = first ∧
    (s.context.state = .closed ↔ first.isSome) ∧
    s.transport.disconnects = t.disconnects + first.isSome.toNat ∧
    (first = none → s.transport = t ∧ s.journal = j ∧
      (s.context.state = .working ↔ .toWorking ∈ uses)) ∧
    (∀ propagate, first = some propagate → ∃ before later,
      uses = before ++ .close propagate :: later ∧ (∀ u ∈ before, u.propagate? = none) ∧
      s.transport = t.disconnect ∧ s.journal = j.write [.device
        (.disconnect ((Use.last? Use.node? before).elim t.remote NodeId.text) propagate)]) ∧
    s.context.features = Use.last? Use.features? uses ∧
    s.context.node = Use.last? Use.node? uses := by
  intro fresh s first
  have hfresh : fresh.context.state ≠ .closed := ConnectionState.noConfusion
  have hnode (uses : List Use) : (fresh.after uses).context.node = Use.last? Use.node? uses :=
    (read_after node_use fresh uses).trans Option.or_none
  obtain ⟨hwith, hstate, hdisconnects⟩ := closed_after hfresh rfl uses
  refine ⟨?_, hwith, hstate, hdisconnects, ?_, ?_, ?_, hnode uses⟩
  · intro later
    exact ⟨s.rank_after later, fun h => (undisturbed_after (.inl h)).closed.2 h⟩
  · intro hf
    have hnone : ∀ u ∈ uses, u.propagate? = none := List.findSome?_eq_none_iff.1 hf
    have hu : fresh.Undisturbed s := undisturbed_after (.inr hnone)
    refine ⟨hu.transport, hu.journal, ?_⟩
    rw [working_after hfresh hnone]
    exact or_iff_right ConnectionState.noConfusion
  · intro propagate hf
    obtain ⟨before, later, huses, hb⟩ := exists_first_close hf
    have hc : fresh.ClosedAs s _ propagate := huses ▸ closedAs_after hfresh hb
    rw [Context.label_eq, hnode] at hc
    exact ⟨before, later, huses, hb, hc.transport, hc.journal⟩
  · exact (read_after features_use fresh uses).trans Option.or_none

/-- The record names the node stored before the close, not the one stored after it. -/
example :
    let s := ({ transport := { remote := "10.0.0.1:6653" } } : Site).after
      [.setNode ⟨"openflow:1"⟩, .close true, .toWorking, .setNode ⟨"openflow:2"⟩, .close false]
    s.context.state = .closed ∧ s.context.closedWith = some true ∧ s.transport.disconnects = 1 ∧
      s.journal.log = [.device (.disconnect "openflow:1" true)] ∧
      s.context.node = some ⟨"openflow:2"⟩ := by
  decide

end Site

end SwitchSession
