import SwitchSession.Error

namespace SwitchSession

inductive LogLevel
  | trace
  | debug
  | info
  | warn
  | error
deriving DecidableEq

def LogLevel.label : LogLevel → String
  | .trace => "TRACE"
  | .debug => "DEBUG"
  | .info => "INFO"
  | .warn => "WARN"
  | .error => "ERROR"

inductive FieldValue
  | text (value : String)
  | flag (value : Bool)
  | number (value : Nat)
deriving DecidableEq

inductive DeviceEvent
  | handshakeSuccessful (node : NodeId) (remote : String) (version : Version) (auxiliary : UInt8)
  | connect (node : NodeId)
  /-- The label is the node id, or the remote address of a device without one. -/
  | disconnect (label : String) (propagate : Bool)
deriving DecidableEq

inductive LogRecord
  | device (event : DeviceEvent)
  | handshakeError (remote : Option String) (error : HandshakeError)
deriving DecidableEq

namespace LogRecord

def level : LogRecord → LogLevel
  | .device (.handshakeSuccessful ..) => .debug
  | .device _ => .info
  | .handshakeError .. => .warn

def message : LogRecord → String
  | .device (.handshakeSuccessful ..) => "Handshake successful"
  | .device (.connect _) => "Connect"
  | .device (.disconnect ..) => "Disconnect"
  | .handshakeError .. => "Handshake error"

def fields : LogRecord → List (String × FieldValue)
  | .device (.handshakeSuccessful node remote version auxiliary) =>
    [("device", .text node.text), ("remote", .text remote), ("version", .text version.text),
      ("auxiliary_id", .number auxiliary.toNat)]
  | .device (.connect node) => [("device", .text node.text)]
  | .device (.disconnect label propagate) =>
    [("device", .text label), ("propagate", .flag propagate)]
  | .handshakeError (some remote) error =>
    [("remote", .text remote), ("error", .text error.message)]
  | .handshakeError none error => [("error", .text error.message)]

end LogRecord

end SwitchSession
