import SwitchSession.Device
import SwitchSession.Message

namespace SwitchSession

inductive TransportError
  | connectionClosed
  | rejected (reason : String)
  | channel (reason : String)
deriving DecidableEq

def TransportError.message : TransportError → String
  | .connectionClosed => "connection closed"
  | .rejected reason => "rejected by device: " ++ reason
  | .channel reason => "i/o error: " ++ reason

inductive HandshakeError
  | noCommonVersion (detail : String)
  | negotiationStalled (version : Version)
  | sendFailed (kind : MessageKind) (xid : Xid) (cause : TransportError)
  | admissionDenied (datapath : DatapathId)
  | deviceRefused (device : String) (reason : String)
  | connectionClosed
  | xidExhausted
deriving DecidableEq

namespace HandshakeError

def message : HandshakeError → String
  | .noCommonVersion detail => "No common version: " ++ detail
  | .negotiationStalled version => "Version negotiation stalled: version = " ++ version.text
  | .sendFailed kind xid cause =>
    "Sending " ++ kind.text ++ " [xid=" ++ xid.text ++ "] failed: " ++ cause.message
  | .admissionDenied datapath =>
    "Device connection rate limit hit, denying datapath " ++ DatapathId.text datapath
  | .deviceRefused device reason =>
    "Initial processing failed for device " ++ device ++ ": " ++ reason
  | .connectionClosed => "Connection closed during handshake"
  | .xidExhausted => "Transaction ids exhausted"

def cause? : HandshakeError → Option TransportError
  | .sendFailed _ _ cause => some cause
  | _ => none

end HandshakeError

def handlerFailure (reason : String) : String := "device initialization failed: " ++ reason

end SwitchSession
