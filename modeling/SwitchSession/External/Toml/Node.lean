import SwitchSession.Toml.Value

namespace SwitchSession.External.Toml

open SwitchSession.Toml

/-- How a table came to be, which decides what later lines may still add to it. -/
inductive Origin
  /-- Written in braces, and complete with the closing one. -/
  | inline
  | header
  /-- On the way to a table with a header of its own. -/
  | implied
  | dotted
deriving DecidableEq

/-- A value while its document is being read. -/
inductive Node
  | string (text : String)
  | integer (value : Int)
  | float (text : String)
  | boolean (value : Bool)
  | datetime (text : String)
  | array (items : List Node)
  | table (origin : Origin) (entries : List (String × Node))
  | tables (items : List (List (String × Node)))

abbrev Nodes := List (String × Node)

mutual

def Node.plain : Node → Value
  | .string text => .string text
  | .integer n => .integer n
  | .float text => .float text
  | .boolean b => .boolean b
  | .datetime text => .datetime text
  | .array items => .array (plainItems items)
  | .table _ entries => .table (plainEntries entries)
  | .tables items => .array (plainTables items)

def plainItems : List Node → List Value
  | [] => []
  | item :: items => item.plain :: plainItems items

def plainEntries : Nodes → Entries
  | [] => []
  | (key, node) :: entries => (key, node.plain) :: plainEntries entries

def plainTables : List Nodes → List Value
  | [] => []
  | entries :: items => .table (plainEntries entries) :: plainTables items

end

end SwitchSession.External.Toml
