import SwitchSession.Config.Format

namespace SwitchSession

/-- The files that a configuration can be read from. -/
inductive FileTree
  | file (content : ByteArray)
  | directory (entries : List (String × FileTree))

inductive ReadError
  | notFound
  | notDirectory
  | isDirectory
  | nameTooLong
  | nameWithNul
  | notText
deriving DecidableEq

def ReadError.message : ReadError → String
  | .notFound => "No such file or directory (os error 2)"
  | .notDirectory => "Not a directory (os error 20)"
  | .isDirectory => "Is a directory (os error 21)"
  | .nameTooLong => "File name too long (os error 36)"
  | .nameWithNul => "file name contained an unexpected NUL byte"
  | .notText => "stream did not contain valid UTF-8"

namespace FileTree

def nameLimit : Nat := 255

def pathLimit : Nat := 4095

/-- Follows the components from `here`; `above` are the directories on the way back to the root,
which is above itself. -/
def walk (here : FileTree) (above : List FileTree) : List String → Except ReadError FileTree
  | [] => .ok here
  | component :: rest =>
    match here with
    | .file _ => .error .notDirectory
    | .directory entries =>
      if component = "" ∨ component = "." then walk here above rest
      else if component = ".." then
        match above with
        | [] => walk here [] rest
        | parent :: above => walk parent above rest
      else
        match entries.lookup component with
        | none => .error (if nameLimit < component.utf8ByteSize then .nameTooLong else .notFound)
        | some child => walk child (here :: above) rest

def components (path : List Char) : List String :=
  match path with
  | [] => [""]
  | '/' :: rest => "" :: components rest
  | c :: rest =>
    match components rest with
    | [] => [String.singleton c]
    | first :: others => (String.singleton c ++ first) :: others

/-- A directory and those on the way back from it to the root. -/
structure Place where
  here : FileTree
  above : List FileTree := []

def find (root : FileTree) (working : Place) (path : String) : Except ReadError FileTree :=
  if path.contains '\x00' then .error .nameWithNul
  else if path = "" then .error .notFound
  else if pathLimit < path.utf8ByteSize then .error .nameTooLong
  else
    let start := if path.startsWith "/" then { here := root } else working
    walk start.here start.above (components path.toList)

def read (root : FileTree) (working : Place) (path : String) : Except ReadError ByteArray :=
  match root.find working path with
  | .error e => .error e
  | .ok (.directory _) => .error .isDirectory
  | .ok (.file content) => .ok content

end FileTree

namespace Config

variable (format : Format)

def ofBytes (path : String) (bytes : Except ReadError ByteArray) : Except ConfigError Config :=
  match bytes with
  | .error e => .error (.io path e.message)
  | .ok bytes =>
    match String.fromUTF8? bytes with
    | none => .error (.io path ReadError.notText.message)
    | some text => parse format text

def load (root : FileTree) (working : FileTree.Place) (path : String) :
    Except ConfigError Config :=
  ofBytes format path (root.read working path)

end Config

end SwitchSession
