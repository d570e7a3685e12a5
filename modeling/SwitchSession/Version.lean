namespace SwitchSession

/-- The byte that every message header starts with. -/
abbrev Version := Fin 256

instance Version.neZero : @NeZero Nat Zero.ofOfNat0 256 := ⟨by decide⟩

namespace Version

def openFlow10 : Version := 1

def openFlow13 : Version := 4

def text (v : Version) : String := v.val.repr

def listText (vs : List Version) : String :=
  "[" ++ ", ".intercalate (vs.map text) ++ "]"

/-- Numbers above 255 name no version. -/
def ofNat? (n : Nat) : Option Version :=
  if h : n < 256 then some ⟨n, h⟩ else none

@[simp] theorem ofNat?_val (v : Version) : ofNat? v.val = some v := by
  simp [ofNat?, v.isLt]

theorem ofNat?_eq_some_iff {n : Nat} {v : Version} : ofNat? n = some v ↔ n = v.val := by
  unfold ofNat?
  constructor
  · intro h
    split at h
    · cases h; rfl
    · cases h
  · rintro rfl
    simp [v.isLt]

end Version

end SwitchSession
