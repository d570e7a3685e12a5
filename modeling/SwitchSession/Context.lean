import SwitchSession.Log
import SwitchSession.Transport

namespace SwitchSession

inductive ConnectionState
  | handshaking
  | working
  | closed
deriving DecidableEq

structure Context where
  state : ConnectionState := .handshaking
  features : Option FeatureSet := none
  node : Option NodeId := none
  /-- The flag of the first close: whether upper layers drop the device too. -/
  closedWith : Option Bool := none

namespace Context

def toWorking (c : Context) : Context :=
  match c.state with
  | .handshaking => { c with state := .working }
  | _ => c

def setFeatures (c : Context) (features : FeatureSet) : Context :=
  { c with features := some features }

def setNode (c : Context) (node : NodeId) : Context := { c with node := some node }

def label (c : Context) (remote : String) : String :=
  match c.node with
  | some node => node.text
  | none => remote

def close (c : Context) (t : Transport) (propagate : Bool) :
    Context × Transport × List LogRecord :=
  match c.state with
  | .closed => (c, t, [])
  | _ =>
    ({ c with state := .closed, closedWith := some propagate }, t.disconnect,
      [.device (.disconnect (c.label t.remote) propagate)])

end Context

end SwitchSession
