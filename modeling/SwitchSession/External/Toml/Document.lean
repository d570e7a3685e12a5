import SwitchSession.External.Toml.Key
import SwitchSession.External.Toml.Moment
import SwitchSession.External.Toml.Table

namespace SwitchSession.External.Toml

def definition (value : Reader Node) : Reader Definition := fun s =>
  match dottedKey s with
  | some ((path, key), '=' :: rest) =>
    (value (skipBlanks rest)).map fun (value, rest) => ({ path, key, value }, rest)
  | _ => none

/-- The items of an array after its opening bracket; a comma may follow the last one. -/
def arrayItems (item : Reader Node) : Nat → Reader (List Node)
  | 0, _ => none
  | count + 1, s =>
    match skipSpace false s with
    | ']' :: rest => some ([], rest)
    | s =>
      match item s with
      | none => none
      | some (x, rest) =>
        match skipSpace false rest with
        | ',' :: rest => (arrayItems item count rest).map fun (xs, rest) => (x :: xs, rest)
        | ']' :: rest => some ([x], rest)
        | _ => none

def inlineDefinitions (value : Reader Node) : Nat → Reader (List Definition)
  | 0, _ => none
  | count + 1, s =>
    match definition value s with
    | none => none
    | some (d, rest) =>
      match skipBlanks rest with
      | ',' :: rest => (inlineDefinitions value count rest).map fun (ds, rest) => (d :: ds, rest)
      | '}' :: rest => some ([d], rest)
      | _ => none

def inlineTable (value : Reader Node) : Reader Node := fun s =>
  match skipBlanks s with
  | '}' :: rest => some (.table .inline [], rest)
  | _ =>
    match inlineDefinitions value s.length s with
    | none => none
    | some (ds, rest) =>
      (Nodes.ofInline ds).map fun entries => (.table .inline entries, rest)

def scalar : Reader Node := fun s =>
  match s with
  | 't' :: 'r' :: 'u' :: 'e' :: rest => some (.boolean true, rest)
  | 'f' :: 'a' :: 'l' :: 's' :: 'e' :: rest => some (.boolean false, rest)
  | '"' :: _ => (string .basic s).map fun (text, rest) => (.string text, rest)
  | '\'' :: _ => (string .literal s).map fun (text, rest) => (.string text, rest)
  | _ => if looksLikeMoment s then (moment s <|> number s) else number s

def value : Nat → Reader Node
  | 0 => fun s =>
    match s with
    | '[' :: _ | '{' :: _ => none
    | _ => scalar s
  | depth + 1 => fun s =>
    match s with
    | '[' :: rest =>
      (arrayItems (value depth) (rest.length + 1) rest).map fun (items, rest) =>
        (.array items, rest)
    | '{' :: rest => inlineTable (value depth) rest
    | _ => scalar s

inductive Line
  | define (definition : Definition)
  | table (path : List String) (key : String)
  | tableItem (path : List String) (key : String)

def lineContent : Reader Line := fun s =>
  match s with
  | '[' :: '[' :: rest =>
    match dottedKey rest with
    | some ((path, key), ']' :: ']' :: rest) => some (.tableItem path key, rest)
    | _ => none
  | '[' :: rest =>
    match dottedKey rest with
    | some ((path, key), ']' :: rest) => some (.table path key, rest)
    | _ => none
  | _ => (definition (value (depthLimit - 1)) s).map fun (d, rest) => (.define d, rest)

def linesUpTo : Nat → List Char → Option (List Line)
  | _, [] => some []
  | 0, _ => none
  | count + 1, s =>
    match endLine? s with
    | some rest => linesUpTo count rest
    | none =>
      match lineContent (skipBlanks s) with
      | none => none
      | some (line, rest) =>
        match endLine? rest with
        | none => none
        | some rest => (linesUpTo count rest).map (line :: ·)

def lines? (s : List Char) : Option (List Line) := linesUpTo s.length s

structure Section where
  isItem : Bool
  path : List String
  key : String
  definitions : List Definition

def sections : List Line → List Definition × List Section
  | [] => ([], [])
  | line :: rest =>
    let (first, others) := sections rest
    match line with
    | .define d => (d :: first, others)
    | .table path key => ([], ⟨false, path, key, first⟩ :: others)
    | .tableItem path key => ([], ⟨true, path, key, first⟩ :: others)

/-- Adds a section. The table of a header must be new, or at most implied by other headers. -/
def Section.addTo (x : Section) (document : Nodes) : Option Nodes :=
  Nodes.within true
    (fun _ table =>
      match table.lookup x.key, x.isItem with
      | none, false =>
        (Nodes.defineAll x.definitions []).map fun body =>
          table ++ [(x.key, .table .header body)]
      | some (.table .implied found), false =>
        (Nodes.defineAll x.definitions found).map fun body =>
          Nodes.replace x.key (.table .header body) table
      | none, true =>
        (Nodes.defineAll x.definitions []).map fun body => table ++ [(x.key, .tables [body])]
      | some (.tables items), true =>
        (Nodes.defineAll x.definitions []).map fun body =>
          Nodes.replace x.key (.tables (items ++ [body])) table
      | _, _ => none)
    x.path .header document

def addSections : List Section → Nodes → Option Nodes
  | [], document => some document
  | x :: rest, document =>
    match x.addTo document with
    | none => none
    | some document => addSections rest document

def ofLines (lines : List Line) : Option Nodes :=
  let (first, others) := sections lines
  match Nodes.defineAll first [] with
  | none => none
  | some document => addSections others document

def document? (text : String) : Option Nodes :=
  let s := match text.toList with
    | '\ufeff' :: rest => rest
    | s => s
  (lines? s).bind ofLines

end SwitchSession.External.Toml
