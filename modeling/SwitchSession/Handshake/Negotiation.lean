import SwitchSession.Message

namespace SwitchSession

structure Negotiation where
  settled : Option Version := none
  proposed : Option Version := none
  /-- The peer version that was last found too low. -/
  received : Option Version := none
  /-- The id of the last message sent, or the one to count from. -/
  xid : Xid := Xid.initial
  bitmapMode : Bool
deriving DecidableEq

namespace Negotiation

/-- The id to count from after a peer's HELLO: the peer's own as long as nothing was sent, a higher
one afterwards, and never one out of the headroom at the top of the range. -/
def seedAfter (n : Negotiation) (peer : Xid) : Xid :=
  if 4294967295 - Xid.headroom < peer.val then n.xid
  else if n.proposed.isNone then peer
  else if n.xid < peer then peer else n.xid

def reseed (n : Negotiation) (peer : Xid) : Negotiation := { n with xid := n.seedAfter peer }

@[simp] theorem reseed_settled (n : Negotiation) (peer : Xid) :
    (n.reseed peer).settled = n.settled := rfl

@[simp] theorem reseed_proposed (n : Negotiation) (peer : Xid) :
    (n.reseed peer).proposed = n.proposed := rfl

@[simp] theorem reseed_received (n : Negotiation) (peer : Xid) :
    (n.reseed peer).received = n.received := rfl

@[simp] theorem reseed_bitmapMode (n : Negotiation) (peer : Xid) :
    (n.reseed peer).bitmapMode = n.bitmapMode := rfl

end Negotiation

end SwitchSession
