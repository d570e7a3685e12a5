import SwitchSession.External.Toml.Node

namespace SwitchSession.External.Toml

namespace Nodes

def replace (key : String) (value : Node) (entries : Nodes) : Nodes :=
  entries.map fun entry => if entry.1 == key then (key, value) else entry

def inLast (f : Nodes → Option Nodes) : List Nodes → Option (List Nodes)
  | [] => none
  | [last] => (f last).map ([·])
  | first :: rest => (inLast f rest).map (first :: ·)

/-- Changes the table at the end of `path`, and creates the tables on the way that are missing.
Headers (`byHeader`) may lead through any table that is not inline, dotted keys only through tables
that have no header; an array of tables stands for its last one. -/
def within (byHeader : Bool) (f : Origin → Nodes → Option Nodes) :
    List String → Origin → Nodes → Option Nodes
  | [], origin, entries => f origin entries
  | key :: path, _, entries =>
    match entries.lookup key with
    | none =>
      let origin := if byHeader then Origin.implied else Origin.dotted
      (within byHeader f path origin []).map fun inner => entries ++ [(key, .table origin inner)]
    | some (.table origin inner) =>
      if origin = .inline ∨ (origin = .header ∧ !byHeader) then none
      else
        (within byHeader f path origin inner).map fun inner =>
          replace key (.table origin inner) entries
    | some (.tables items) =>
      (inLast (within byHeader f path .header) items).map fun items =>
        replace key (.tables items) entries
    | some _ => none

def add (key : String) (value : Node) (entries : Nodes) : Option Nodes :=
  match entries.lookup key with
  | none => some (entries ++ [(key, value)])
  | some _ => none

/-- Defines the value at a dotted key, given as the path to its table and its last part. A dotted key
adds to no table but those that dotted keys have made. -/
def define (path : List String) (key : String) (value : Node) (entries : Nodes) :
    Option Nodes :=
  within false
    (fun origin table =>
      if decide (origin = .dotted) == path.isEmpty then none else add key value table)
    path .header entries

end Nodes

structure Definition where
  path : List String
  key : String
  value : Node

namespace Nodes

def defineAll : List Definition → Nodes → Option Nodes
  | [], entries => some entries
  | d :: rest, entries =>
    match define d.path d.key d.value entries with
    | none => none
    | some entries => defineAll rest entries

/-- The tables of an inline table. Dotted keys may lead through the tables that dotted keys made, and
through no others. -/
def ofInline (definitions : List Definition) : Option Nodes := defineAll definitions []

end Nodes

end SwitchSession.External.Toml
