namespace SwitchSession.Toml

/-- What a document holds. Numbers that are no integers and points in time are kept as written. -/
inductive Value
  | string (text : String)
  | integer (value : Int)
  | float (text : String)
  | boolean (value : Bool)
  | datetime (text : String)
  | array (items : List Value)
  | table (entries : List (String × Value))

abbrev Entries := List (String × Value)

end SwitchSession.Toml
