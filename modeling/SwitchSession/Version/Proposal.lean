import SwitchSession.Error
import SwitchSession.Version.Capabilities

namespace SwitchSession

namespace CapabilitySet

def proposeAtMost (c : CapabilitySet) (remote : Version) : Except HandshakeError Version :=
  match c.atMost? remote with
  | some v => .ok v
  | none => .error (.noCommonVersion
      ("no equal or lower version found, unsupported version: " ++ remote.text))

def proposeShared (c : CapabilitySet) (bitmaps : List VersionBitmap) :
    Except HandshakeError Version :=
  if bitmaps.isEmpty then
    .error (.noCommonVersion "no version bitmap received")
  else
    match c.shared? bitmaps with
    | some v => .ok v
    | none => .error (.noCommonVersion "no common version found in version bitmap")

end CapabilitySet

/-- Whether the peer repeats the version that it sent in the round before. -/
def stalls (remote : Version) (lastReceived : Option Version) : Bool :=
  lastReceived == some remote

end SwitchSession
