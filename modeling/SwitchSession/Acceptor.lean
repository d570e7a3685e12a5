import SwitchSession.Config
import SwitchSession.Session

namespace SwitchSession

structure Connection where
  engine : Engine
  transport : Transport
  context : Context
  handOver : Option HandOver
  sink : ErrorSink

structure Acceptor (σ : Type) where
  capabilities : CapabilitySet
  bitmapMode : Bool
  limiter : σ
  handler : Handler := {}
  logErrors : Bool := false
  journal : Journal := {}
  connections : List Connection := []

namespace Acceptor

def ofConfig (config : Config) (limiter : σ) (handler : Handler) (logErrors : Bool) :
    Except ConfigError (Acceptor σ) :=
  match config.capabilitySet with
  | .ok capabilities =>
    .ok { capabilities, bitmapMode := config.useVersionBitmap, limiter, handler, logErrors }
  | .error e => .error e

def join (a : Acceptor σ) (c : Connection) : Session σ :=
  { handshake := ⟨c.engine, c.transport, a.limiter⟩
    context := c.context
    handOver := c.handOver
    sink := c.sink
    journal := a.journal }

def part (s : Session σ) : Connection :=
  { engine := s.handshake.engine
    transport := s.handshake.transport
    context := s.context
    handOver := s.handOver
    sink := s.sink }

def session? (a : Acceptor σ) (i : Nat) : Option (Session σ) := a.connections[i]?.map a.join

def store (a : Acceptor σ) (i : Nat) (s : Session σ) : Acceptor σ :=
  { a with
    limiter := s.handshake.limiter
    journal := s.journal
    connections := a.connections.set i (part s) }

def onSession (a : Acceptor σ) (i : Nat) (f : Session σ → Session σ) : Acceptor σ :=
  match a.session? i with
  | some s => a.store i (f s)
  | none => a

def accept (a : Acceptor σ) (transport : Transport) : Acceptor σ :=
  let engine : Engine := { machine := .fresh a.capabilities a.bitmapMode }
  let connection : Connection :=
    { engine := engine.tell .initiate
      transport
      context := {}
      handOver := none
      sink := if a.logErrors then .log (some transport.remote) else .errors }
  { a with connections := a.connections ++ [connection] }

def run [Admission σ] (a : Acceptor σ) : Acceptor σ :=
  (List.range a.connections.length).foldl (fun a i => a.onSession i (·.run a.handler)) a

def move? [Admission σ] (a : Acceptor σ) (i : Nat) (move : Session.Move) : Option (Acceptor σ) :=
  ((a.session? i).bind (·.move? move)).map (a.store i)

end Acceptor

end SwitchSession
