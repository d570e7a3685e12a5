import SwitchSession.Version.Bitmap

namespace SwitchSession

abbrev Xid := Fin 4294967296

instance Xid.neZero : @NeZero Nat Zero.ofOfNat0 4294967296 := ⟨by decide⟩

namespace Xid

def initial : Xid := 20

/-- Ids this close to the top are not taken over from a peer, so that a whole handshake fits above
every id that is. -/
def headroom : Nat := 1024

def next? (x : Xid) : Option Xid :=
  if h : x.val + 1 < 4294967296 then some ⟨x.val + 1, h⟩ else none

def text (x : Xid) : String := x.val.repr

theorem next?_eq_some_iff {x y : Xid} : x.next? = some y ↔ y.val = x.val + 1 := by
  unfold next?
  constructor
  · intro h
    split at h
    · cases h; rfl
    · cases h
  · intro h
    have hy := y.isLt
    rw [dif_pos (by omega)]
    simp [Fin.ext_iff, h]

theorem next?_eq_none_iff {x : Xid} : x.next? = none ↔ x.val = 4294967295 := by
  unfold next?
  have := x.isLt
  split
  · simp; omega
  · simp; omega

end Xid

inductive HelloElement
  | versionBitmap (bitmap : VersionBitmap)
  | unknown (kind : UInt16)
deriving DecidableEq

structure Hello where
  version : Version
  xid : Xid
  elements : List HelloElement := []
deriving DecidableEq

namespace Hello

/-- All bitmaps among the elements, or `none` if there is no bitmap element. -/
def bitmaps? (h : Hello) : Option (List VersionBitmap) :=
  let found := h.elements.filterMap fun
    | .versionBitmap b => some b
    | .unknown _ => none
  if found.isEmpty then none else some found

end Hello

structure Request where
  version : Version
  xid : Xid
deriving DecidableEq

inductive MessageKind
  | hello
  | featuresRequest
  | barrier
deriving DecidableEq

def MessageKind.text : MessageKind → String
  | .hello => "hello"
  | .featuresRequest => "features request"
  | .barrier => "barrier"

end SwitchSession
