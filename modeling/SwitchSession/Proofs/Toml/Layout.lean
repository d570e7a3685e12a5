import SwitchSession.Proofs.Toml.Grammar
import SwitchSession.Proofs.Toml.Numeral

namespace SwitchSession.External.Toml

open SwitchSession.Toml

variable {α : Type} {item : Reader Node} {node : Node} {s t before after rest : List Char}
  {c : Char} {v : Value} {vs : List Value} {key name text : String} {line : Line}
  {entries : Entries} {depth count : Nat}

/-- The text goes on with something that ends a value. -/
def Stops (s : List Char) : Prop := ∃ stop rest, s = stop :: rest ∧ isStop stop = true

theorem stops_cons (hc : isStop c = true) : Stops (c :: rest) :=
  ⟨c, rest, rfl, hc⟩

theorem Stops.of_spaces (h : Stops rest) (hs : Spaces s) : Stops (s ++ rest) := by
  cases s with
  | nil => exact h
  | cons c s =>
    apply stops_cons
    rcases hs c List.mem_cons_self with rfl | rfl | rfl <;> rfl

/-- The text is read as `x`, and no more than the text, if it stops there. -/
def Reads (read : Reader α) (s : List Char) (x : α) : Prop :=
  ∀ rest, Stops rest → read (s ++ rest) = some (x, rest)

/-- The characters with which blanks, line ends and comments begin. -/
def isLayout (c : Char) : Bool := isBlank c || c == '\n' || c == '\r' || c == '#'

/-- The text begins with a character of its own, which closes no array. -/
def Opens (s : List Char) : Prop := ∃ c rest, s = c :: rest ∧ isLayout c = false ∧ c ≠ ']'

theorem isLayout_eq_false : isLayout c = false ↔
    isBlank c = false ∧ c ≠ '\n' ∧ c ≠ '\r' ∧ c ≠ '#' := by
  simp [isLayout, and_assoc]

theorem Opens.append (h : Opens s) (rest : List Char) : Opens (s ++ rest) := by
  obtain ⟨c, s, rfl, hc⟩ := h
  exact ⟨c, s ++ rest, rfl, hc⟩

theorem Opens.ne_nil (h : Opens s) : s ≠ [] := by
  obtain ⟨c, s, rfl, -⟩ := h
  exact List.cons_ne_nil c s

theorem Opens.skipBlanks_eq (h : Opens s) : skipBlanks s = s := by
  obtain ⟨c, s, rfl, hc, -⟩ := h
  exact List.dropWhile_cons_of_neg (by rw [(isLayout_eq_false.1 hc).1]; exact Bool.false_ne_true)

theorem Opens.skipSpace_eq (h : Opens s) : skipSpace false s = s := by
  obtain ⟨c, s, rfl, hc, -⟩ := h
  obtain ⟨hblank, hnewline, hreturn, hcomment⟩ := isLayout_eq_false.1 hc
  rw [skipSpace]
  · simp [hblank, hcomment]
  · exact hnewline
  · intro _ he _
    exact hreturn he

theorem Opens.endLine?_eq_none (h : Opens s) : endLine? s = none := by
  rw [endLine?, h.skipBlanks_eq]
  obtain ⟨c, s, rfl, hc, -⟩ := h
  obtain ⟨-, hnewline, hreturn, hcomment⟩ := isLayout_eq_false.1 hc
  simp [skipComment, newline?, hnewline, hreturn, hcomment]

theorem opens_bracket (rest : List Char) : Opens ('[' :: rest) :=
  ⟨'[', rest, rfl, rfl, by decide⟩

theorem opens_of_isBareKeyChar (hc : isBareKeyChar c = true) (rest : List Char) :
    Opens (c :: rest) := by
  refine ⟨c, rest, rfl, isLayout_eq_false.2 ⟨?_, ?_, ?_, ?_⟩, ne_of_class hc rfl⟩
  · rw [isBlank, Bool.or_eq_false_iff, beq_eq_false_iff_ne, beq_eq_false_iff_ne]
    exact ⟨ne_of_class hc rfl, ne_of_class hc rfl⟩
  all_goals exact ne_of_class hc rfl

theorem isBlank_of_blanks (h : Blanks s) : ∀ c ∈ s, isBlank c = true := by
  intro c hc
  rcases h c hc with rfl | rfl <;> rfl

theorem spaces_of_blanks (h : Blanks s) : Spaces s := by
  intro c hc
  rcases h c hc with rfl | rfl
  · exact .inl rfl
  · exact .inr (.inl rfl)

theorem skipBlanks_append (h : Blanks s) : skipBlanks (s ++ rest) = skipBlanks rest :=
  List.dropWhile_append_of_pos (isBlank_of_blanks h)

theorem endLine?_append (h : Blanks s) : endLine? (s ++ rest) = endLine? rest := by
  rw [endLine?, endLine?, skipBlanks_append h]

theorem skipSpace_append (h : Spaces s) : skipSpace false (s ++ rest) = skipSpace false rest := by
  induction s with
  | nil => rfl
  | cons c s ih =>
    obtain ⟨hc, hs⟩ := List.forall_mem_cons.1 h
    rw [← ih hs]
    rcases hc with rfl | rfl | rfl <;> rfl

theorem opens_toDigits (n : Nat) : Opens (Nat.toDigits 10 n) := by
  obtain ⟨d, ds, hds⟩ := List.exists_cons_of_ne_nil (@Nat.toDigits_ne_nil n 10)
  have hd : d.isDigit = true := isDigit_of_mem_toDigits (hds ▸ List.mem_cons_self)
  rw [hds]
  apply opens_of_isBareKeyChar
  simp [isBareKeyChar, Char.isAlphanum, hd]

/-- What the reader makes of a value of the grammar stands for that value. -/
theorem reads_scalar (depth : Nat) (h : Scalar s v) :
    ∃ node : Node, node.plain = v ∧ Opens s ∧ Reads (value depth) s node := by
  cases h with
  | integer n hn =>
    refine ⟨.integer n, rfl, opens_toDigits n, ?_⟩
    rintro _ ⟨stop, rest, rfl, hstop⟩
    exact value_toDigits depth hn hstop
  | yes =>
    refine ⟨.boolean true, rfl, opens_of_isBareKeyChar rfl _, fun rest _ => ?_⟩
    cases depth <;> rfl
  | no =>
    refine ⟨.boolean false, rfl, opens_of_isBareKeyChar rfl _, fun rest _ => ?_⟩
    cases depth <;> rfl

theorem arrayItems_of_opens (h : Opens s) : arrayItems item (count + 1) s =
    match item s with
    | none => none
    | some (x, rest) =>
      match skipSpace false rest with
      | ',' :: rest => (arrayItems item count rest).map fun (xs, rest) => (x :: xs, rest)
      | ']' :: rest => some ([x], rest)
      | _ => none := by
  rw [arrayItems, h.skipSpace_eq]
  obtain ⟨c, s, rfl, -, hc⟩ := h
  split
  · next he => exact absurd (List.cons.inj he).1 hc
  · rfl

theorem arrayItems_append (h : Spaces s) :
    arrayItems item count (s ++ rest) = arrayItems item count rest := by
  cases count with
  | zero => rfl
  | succ count => rw [arrayItems, arrayItems, skipSpace_append h]

theorem arrayItems_last (ho : Opens s) (hr : Reads item s node) (ha : Spaces after) :
    arrayItems item (count + 1) (s ++ (after ++ ']' :: rest)) = some ([node], rest) := by
  have hstops : Stops (after ++ ']' :: rest) := (stops_cons rfl).of_spaces ha
  rw [arrayItems_of_opens (ho.append _), hr _ hstops]
  simp only [skipSpace_append ha]
  rfl

theorem arrayItems_more (ho : Opens s) (hr : Reads item s node) (ha : Spaces after) :
    arrayItems item (count + 1) (s ++ (after ++ ',' :: rest)) =
      (arrayItems item count rest).map fun (nodes, rest) => (node :: nodes, rest) := by
  have hstops : Stops (after ++ ',' :: rest) := (stops_cons rfl).of_spaces ha
  rw [arrayItems_of_opens (ho.append _), hr _ hstops]
  simp only [skipSpace_append ha]
  rfl

theorem reads_items (depth : Nat) (h : Items s vs) : ∃ nodes, plainItems nodes = vs ∧
    ∀ count rest, s.length ≤ count →
      arrayItems (value depth) (count + 1) (s ++ ']' :: rest) = some (nodes, rest) := by
  induction h with
  | none hs =>
    refine ⟨[], rfl, fun count rest _ => ?_⟩
    rw [arrayItems_append hs]
    rfl
  | last hb hv ha =>
    obtain ⟨node, rfl, ho, hr⟩ := reads_scalar depth hv
    refine ⟨[node], rfl, fun count rest _ => ?_⟩
    rw [List.append_assoc, List.append_assoc, arrayItems_append hb]
    exact arrayItems_last ho hr ha
  | @more s v others vs before after hb hv ha _ ih =>
    obtain ⟨node, rfl, ho, hr⟩ := reads_scalar depth hv
    obtain ⟨nodes, rfl, hread⟩ := ih
    refine ⟨node :: nodes, rfl, fun count rest hc => ?_⟩
    -- the comma leaves one character less for the other items
    obtain ⟨count, rfl, hothers⟩ : ∃ k, count = k + 1 ∧ others.length ≤ k := by
      refine ⟨count - 1, ?_⟩
      simp only [List.length_append, List.length_cons] at hc
      omega
    rw [List.append_assoc, List.append_assoc, List.append_assoc, List.cons_append,
      arrayItems_append hb, arrayItems_more ho hr ha, hread count rest hothers]
    rfl

theorem reads_value (depth : Nat) (h : Denotes s v) :
    ∃ node : Node, node.plain = v ∧ Opens s ∧ Reads (value (depth + 1)) s node := by
  cases h with
  | scalar h => exact reads_scalar (depth + 1) h
  | @array s _ h =>
    obtain ⟨nodes, rfl, hread⟩ := reads_items depth h
    refine ⟨.array nodes, rfl, opens_bracket _, fun rest _ => ?_⟩
    have hlen : s.length ≤ (s ++ ']' :: rest).length := by
      rw [List.length_append]
      omega
    rw [List.cons_append, List.append_assoc, List.singleton_append]
    show (arrayItems (value depth) _ _).map _ = _
    rw [hread _ rest hlen]
    rfl

theorem isBareKeyChar_of_bareKey (h : BareKey key) : ∀ c ∈ key.toList, isBareKeyChar c = true := by
  intro c hc
  simpa [isBareKeyChar, or_assoc] using h.2 c hc

theorem toList_ne_nil_of_bareKey (h : BareKey key) : key.toList ≠ [] := by
  simpa using h.1

theorem opens_bareKey (h : BareKey key) : Opens key.toList := by
  have hchar := isBareKeyChar_of_bareKey h
  obtain ⟨c, rest, he⟩ := List.exists_cons_of_ne_nil (toList_ne_nil_of_bareKey h)
  rw [he] at hchar ⊢
  exact opens_of_isBareKeyChar (hchar c List.mem_cons_self) rest

theorem bareKey_ne_cons (h : BareKey key) (hc : isBareKeyChar c = false) :
    key.toList ++ s ≠ c :: t :=
  append_ne_cons (toList_ne_nil_of_bareKey h) (isBareKeyChar_of_bareKey h) hc

theorem simpleKey_of_bareKey (h : BareKey key) (hc : isBareKeyChar c = false) :
    simpleKey (key.toList ++ c :: rest) = some (key, c :: rest) := by
  have hchar := isBareKeyChar_of_bareKey h
  have htake : (key.toList ++ c :: rest).takeWhile isBareKeyChar = key.toList := by
    rw [List.takeWhile_append_of_pos hchar, List.takeWhile_cons, hc]
    exact List.append_nil key.toList
  have hdrop : (key.toList ++ c :: rest).dropWhile isBareKeyChar = c :: rest := by
    rw [List.dropWhile_append_of_pos hchar, List.dropWhile_cons, hc]
    rfl
  have hne := toList_ne_nil_of_bareKey h
  rw [simpleKey, htake, hdrop, if_neg (by simpa using hne), String.ofList_toList]
  · exact fun _ => bareKey_ne_cons h rfl
  · exact fun _ => bareKey_ne_cons h rfl

/-- A bare key is a path of its own, unless a dot follows. -/
theorem dottedKey_of_bareKey (h : BareKey key) (hc : isBareKeyChar c = false)
    (hs : skipBlanks (c :: rest) = s) (hdot : ∀ t, s ≠ '.' :: t) :
    dottedKey (key.toList ++ c :: rest) = some (([], key), s) := by
  have hparts : keyParts (depthLimit - 1) (key.toList ++ c :: rest) = some ([key], s) := by
    rw [show depthLimit - 1 = 78 + 1 from rfl, keyParts,
      ((opens_bareKey h).append _).skipBlanks_eq, simpleKey_of_bareKey h hc]
    simp only [hs]
  rw [dottedKey, hparts]
  rfl

theorem dottedKey_equals (h : BareKey key) (hb : Blanks before) :
    dottedKey (key.toList ++ (before ++ '=' :: rest)) = some (([], key), '=' :: rest) := by
  have hs : skipBlanks (before ++ '=' :: rest) = '=' :: rest := skipBlanks_append hb
  cases before with
  | nil => exact dottedKey_of_bareKey h rfl hs (by simp)
  | cons c before =>
    have hc : isBareKeyChar c = false := by
      rcases hb c List.mem_cons_self with rfl | rfl <;> rfl
    exact dottedKey_of_bareKey h hc hs (by simp)

theorem reads_definition (hk : BareKey key) (hb : Blanks before) (ha : Blanks after)
    (ho : Opens s) (hr : Reads (value (depthLimit - 1)) s node) :
    Reads lineContent (key.toList ++ (before ++ '=' :: (after ++ s)))
      (.define ⟨[], key, node⟩) := by
  intro rest hrest
  have hblank : skipBlanks (after ++ (s ++ rest)) = s ++ rest := by
    rw [skipBlanks_append ha]
    exact (ho.append _).skipBlanks_eq
  simp only [List.append_assoc, List.cons_append]
  rw [lineContent, definition]
  · simp only [dottedKey_equals hk hb, hblank, hr rest hrest, Option.map_some]
  all_goals exact fun _ => bareKey_ne_cons hk rfl

theorem reads_header (hk : BareKey name) :
    Reads lineContent ('[' :: (name.toList ++ [']'])) (.table [] name) := by
  intro rest _
  have hkey : dottedKey (name.toList ++ ']' :: rest) = some (([], name), ']' :: rest) :=
    dottedKey_of_bareKey hk rfl rfl (by simp)
  rw [List.cons_append, List.append_assoc, List.singleton_append, lineContent]
  · rw [hkey]
    rfl
  · exact fun _ => bareKey_ne_cons hk rfl

theorem linesUpTo_cons (hb : Blanks before) (ho : Opens s) (hr : Reads lineContent s line)
    (ha : Blanks after) : linesUpTo (count + 1) (before ++ (s ++ (after ++ '\n' :: rest))) =
      (linesUpTo count rest).map (line :: ·) := by
  have ho' : Opens (s ++ (after ++ '\n' :: rest)) := ho.append _
  have hstops : Stops (after ++ '\n' :: rest) := (stops_cons rfl).of_spaces (spaces_of_blanks ha)
  have hend : endLine? (after ++ '\n' :: rest) = some rest := endLine?_append ha
  rw [linesUpTo, endLine?_append hb, ho'.endLine?_eq_none, skipBlanks_append hb, ho'.skipBlanks_eq,
    hr _ hstops]
  · simp only [hend]
  · exact List.append_ne_nil_of_right_ne_nil before ho'.ne_nil

theorem reads_defines (h : Defines key v s) : 0 < s.length ∧
    ∃ d : Definition, d.path = [] ∧ (d.key, d.value.plain) = (key, v) ∧
      ∀ count rest, linesUpTo (count + 1) (s ++ rest) =
        (linesUpTo count rest).map (.define d :: ·) := by
  obtain ⟨hk, lead, before, after, s, tail, hl, hb, ha, hv, ht, rfl⟩ := h
  obtain ⟨node, rfl, ho, hr⟩ := reads_value (depthLimit - 2) hv
  let line := key.toList ++ (before ++ '=' :: (after ++ s))
  have hline (count : Nat) (rest : List Char) :
      linesUpTo (count + 1) (lead ++ (line ++ (tail ++ '\n' :: rest))) =
        (linesUpTo count rest).map (.define ⟨[], key, node⟩ :: ·) :=
    linesUpTo_cons hl ((opens_bareKey hk).append _) (reads_definition hk hb ha ho hr) ht
  refine ⟨?_, ⟨[], key, node⟩, rfl, rfl, fun count rest => ?_⟩
  · simp only [List.length_append, List.length_cons]
    omega
  · simpa only [line, List.append_assoc, List.cons_append, List.nil_append] using hline count rest

theorem reads_body (h : Body s entries) : ∃ ds : List Definition,
    (∀ d ∈ ds, d.path = []) ∧ (ds.map fun d => (d.key, d.value.plain)) = entries ∧
      ∀ count, s.length ≤ count → linesUpTo count s = some (ds.map .define) := by
  induction h with
  | nil =>
    refine ⟨[], List.forall_mem_nil _, rfl, fun count _ => ?_⟩
    cases count <;> rfl
  | cons hl _ _ ih =>
    obtain ⟨hpos, d, hd, hplain, hread⟩ := reads_defines hl
    obtain ⟨ds, hds, rfl, hlines⟩ := ih
    refine ⟨d :: ds, List.forall_mem_cons.2 ⟨hd, hds⟩, ?_, fun count hc => ?_⟩
    · rw [List.map_cons, hplain]
    · rw [List.length_append] at hc
      obtain ⟨count, rfl⟩ : ∃ k, count = k + 1 := ⟨count - 1, by omega⟩
      rw [hread, hlines count (by omega)]
      rfl

theorem lookup_eq_none {entries : List (String × α)} {name : String}
    (h : name ∉ entries.map Prod.fst) : entries.lookup name = none := by
  rw [List.lookup_eq_none_iff]
  intro p hp
  rw [bne_iff_ne]
  rintro rfl
  exact h (List.mem_map_of_mem hp)

theorem define_of_not_mem {entries : Nodes} {name : String}
    (h : name ∉ entries.map Prod.fst) :
    Nodes.define [] name node entries = some (entries ++ [(name, node)]) := by
  show Nodes.add name node entries = _
  rw [Nodes.add, lookup_eq_none h]

/-- Definitions of different bare keys are the entries of a table, in their order. -/
theorem defineAll_of_nodup {ds : List Definition} {entries : Nodes}
    (hp : ∀ d ∈ ds, d.path = []) (hn : (entries.map Prod.fst ++ ds.map (·.key)).Nodup) :
    Nodes.defineAll ds entries = some (entries ++ ds.map fun d => (d.key, d.value)) := by
  induction ds generalizing entries with
  | nil => rw [List.map_nil, List.append_nil, Nodes.defineAll]
  | cons d ds ih =>
    rw [List.forall_mem_cons] at hp
    have hkey : d.key ∉ entries.map Prod.fst := by
      intro hmem
      exact (List.nodup_append.1 hn).2.2 _ hmem _ List.mem_cons_self rfl
    have hrest : ((entries ++ [(d.key, d.value)]).map Prod.fst ++ ds.map (·.key)).Nodup := by
      rwa [List.map_append, List.append_assoc]
    rw [Nodes.defineAll, hp.1, define_of_not_mem hkey]
    refine (ih hp.2 hrest).trans ?_
    rw [List.append_assoc]
    rfl

theorem sections_definitions (ds : List Definition) :
    sections (ds.map .define) = (ds, []) := by
  induction ds with
  | nil => rfl
  | cons d ds ih => rw [List.map_cons, sections, ih]

theorem ofLines_table {ds : List Definition} (name : String) (hp : ∀ d ∈ ds, d.path = [])
    (hn : (ds.map (·.key)).Nodup) : ofLines (.table [] name :: ds.map .define) =
      some [(name, .table .header (ds.map fun d => (d.key, d.value)))] := by
  have hbody : Nodes.defineAll ds [] = some ([] ++ ds.map fun d => (d.key, d.value)) :=
    defineAll_of_nodup hp hn
  rw [ofLines, sections, sections_definitions]
  show addSections [⟨false, [], name, ds⟩] [] = _
  rw [addSections, Section.addTo, Nodes.within, List.lookup_nil]
  simp only [hbody]
  rfl

theorem plainEntries_eq_map (nodes : Nodes) :
    plainEntries nodes = nodes.map fun x => (x.1, x.2.plain) := by
  induction nodes with
  | nil => rfl
  | cons x nodes ih => rw [plainEntries, ih, List.map_cons]

/-- The reader takes the documents of the grammar for what they are. -/
theorem document?_of_isTable (h : IsTable name entries text) :
    (document? text).map plainEntries = some [(name, .table entries)] := by
  obtain ⟨hname, body, hbody, htext⟩ := h
  obtain ⟨ds, hpath, hentries, hlines⟩ := reads_body hbody
  have hkeys : (ds.map (·.key)).Nodup := by
    have hnodup := hbody.nodup
    rwa [← hentries, List.map_map] at hnodup
  have hread : lines? text.toList = some (.table [] name :: ds.map .define) := by
    obtain ⟨count, hcount, hbodyCount⟩ :
        ∃ k, text.toList.length = k + 1 ∧ body.length ≤ k := by
      refine ⟨text.toList.length - 1, ?_⟩
      simp only [htext, List.length_cons, List.length_append]
      omega
    let header := '[' :: (name.toList ++ [']'])
    have hheader : linesUpTo (count + 1) ([] ++ (header ++ ([] ++ '\n' :: body))) =
        (linesUpTo count body).map (.table [] name :: ·) :=
      linesUpTo_cons (List.forall_mem_nil _) (opens_bracket _) (reads_header hname)
        (List.forall_mem_nil _)
    rw [hlines count hbodyCount] at hheader
    rw [lines?, hcount, htext]
    simpa [header] using hheader
  have hdocument : document? text = (lines? text.toList).bind ofLines := by
    rw [document?, htext]
    rfl
  rw [hdocument, hread, Option.bind_some, ofLines_table name hpath hkeys, Option.map_some,
    plainEntries, plainEntries, Node.plain, plainEntries_eq_map, List.map_map]
  exact congrArg (fun es => some [(name, Value.table es)]) hentries

end SwitchSession.External.Toml
