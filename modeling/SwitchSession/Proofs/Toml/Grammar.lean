import SwitchSession.Toml.Value

/-!
A part of TOML 1.0: documents of one table, in which bare keys stand for integers, booleans and flat
arrays of them. Comments are left out, and integers have no sign and no underscores.
-/

namespace SwitchSession.Toml

def Blanks (s : List Char) : Prop := ∀ c ∈ s, c = ' ' ∨ c = '\t'

/-- What may stand around the items of an array. -/
def Spaces (s : List Char) : Prop := ∀ c ∈ s, c = ' ' ∨ c = '\t' ∨ c = '\n'

inductive Scalar : List Char → Value → Prop
  /-- Integers have 64 bits, one of them for the sign. -/
  | integer (n : Nat) (hn : n ≤ 9223372036854775807) : Scalar (Nat.toDigits 10 n) (.integer n)
  | yes : Scalar ['t', 'r', 'u', 'e'] (.boolean true)
  | no : Scalar ['f', 'a', 'l', 's', 'e'] (.boolean false)

/-- What stands between the brackets of an array. A comma may follow the last item. -/
inductive Items : List Char → List Value → Prop
  | none (hs : Spaces s) : Items s []
  | last {before after : List Char} (hb : Spaces before) (hv : Scalar s v) (ha : Spaces after) :
    Items (before ++ (s ++ after)) [v]
  | more {before after : List Char} (hb : Spaces before) (hv : Scalar s v) (ha : Spaces after)
      (hr : Items rest vs) :
    Items (before ++ (s ++ (after ++ ',' :: rest))) (v :: vs)

inductive Denotes : List Char → Value → Prop
  | scalar (h : Scalar s v) : Denotes s v
  | array (h : Items s vs) : Denotes ('[' :: (s ++ [']'])) (.array vs)

/-- The keys that need no quotes. -/
def BareKey (key : String) : Prop :=
  key ≠ "" ∧ ∀ c ∈ key.toList, c.isAlphanum = true ∨ c = '-' ∨ c = '_'

/-- The text is a line that gives the key this value. -/
def Defines (key : String) (v : Value) (line : List Char) : Prop :=
  BareKey key ∧ ∃ lead before after s tail, Blanks lead ∧ Blanks before ∧ Blanks after ∧
    Denotes s v ∧ Blanks tail ∧
    line = lead ++ (key.toList ++ (before ++ '=' :: (after ++ (s ++ (tail ++ ['\n'])))))

/-- Lines that define different keys. -/
inductive Body : List Char → Entries → Prop
  | nil : Body [] []
  | cons (hl : Defines key v s) (hk : key ∉ entries.map Prod.fst) (hr : Body rest entries) :
    Body (s ++ rest) ((key, v) :: entries)

/-- The text is a document with one table. -/
def IsTable (name : String) (entries : Entries) (text : String) : Prop :=
  BareKey name ∧ ∃ body, Body body entries ∧
    text.toList = '[' :: (name.toList ++ ']' :: '\n' :: body)

theorem bareKey_of_all {key : String} (hne : key ≠ "")
    (h : (key.toList.all fun c => c.isAlphanum || c == '-' || c == '_') = true) : BareKey key := by
  refine ⟨hne, fun c hc => ?_⟩
  simpa [or_assoc] using List.all_eq_true.1 h c hc

theorem spaces_nil : Spaces [] := List.forall_mem_nil _

theorem Items.space (h : Items s vs) : Items (' ' :: s) vs := by
  have hspace {s : List Char} (hs : Spaces s) : Spaces (' ' :: s) :=
    List.forall_mem_cons.2 ⟨.inl rfl, hs⟩
  cases h with
  | none hs => exact .none (hspace hs)
  | last hb hv ha => exact .last (hspace hb) hv ha
  | more hb hv ha hr => exact .more (hspace hb) hv ha hr

theorem items_intercalate {xs : List α} {text : α → List Char} {val : α → Value}
    (h : ∀ x ∈ xs, Scalar (text x) (val x)) :
    Items ([',', ' '].intercalate (xs.map text)) (xs.map val) := by
  induction xs with
  | nil => exact .none spaces_nil
  | cons x xs ih =>
    rw [List.forall_mem_cons] at h
    cases xs with
    | nil =>
      have hitems := Items.last spaces_nil h.1 spaces_nil
      simpa using hitems
    | cons y ys =>
      have hitems := Items.more spaces_nil h.1 spaces_nil (ih h.2).space
      rw [List.map_cons, List.map_cons, List.intercalate_cons_cons]
      simpa using hitems

theorem Body.nodup {entries : Entries} (h : Body s entries) :
    (entries.map Prod.fst).Nodup := by
  induction h with
  | nil => exact List.nodup_nil
  | cons _ hk _ ih => exact List.nodup_cons.2 ⟨hk, ih⟩

end SwitchSession.Toml
