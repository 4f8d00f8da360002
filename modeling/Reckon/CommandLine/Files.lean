import Reckon.Text.Quoted
import Reckon.Text.Utf8

/-!
Files as the command line sees them: a path leads to bytes or to a reason why it
does not. A path is walked name by name, from a `Folder` that holds files only,
or from the root when it starts with a slash. The first name that cannot be
followed gives the reason.
-/

namespace Reckon.CommandLine

abbrev Bytes := List UInt8

inductive Obstacle where
  | notFound
  | notDirectory
  | isDirectory
  | nameTooLong
  deriving DecidableEq, Repr

namespace Obstacle

def number : Obstacle → Nat
  | .notFound => 2
  | .notDirectory => 20
  | .isDirectory => 21
  | .nameTooLong => 36

def text : Obstacle → String
  | .notFound => "No such file or directory"
  | .notDirectory => "Not a directory"
  | .isDirectory => "Is a directory"
  | .nameTooLong => "File name too long"

end Obstacle

inductive FileError where
  | blocked (obstacle : Obstacle) (path : String)
  | nullCharacter
  deriving DecidableEq

def FileError.message : FileError → String
  | .blocked obstacle path =>
      "[Errno " ++ toString obstacle.number ++ "] " ++ obstacle.text ++ ": " ++ Text.quote path
  | .nullCharacter => "embedded null byte"

inductive Place where
  | folder
  | root
  | standard (name : String)
  | file (content : Bytes)

abbrev Folder := List (String × Bytes)

namespace Folder

def content? (folder : Folder) (name : String) : Option Bytes :=
  List.lookup name folder

def standardNames : List String :=
  ["bin", "boot", "dev", "etc", "home", "lib", "media", "mnt", "opt", "proc", "root", "run",
    "sbin", "srv", "sys", "tmp", "usr", "var"]

def nameLimit : Nat := 255

def pathLimit : Nat := 4095

/-- Steps from a place to what it holds under a name. Of what lies outside the folder
only the standard directories and the null device are known. -/
def enter (folder : Folder) (place : Place) (name : String) : Option Place :=
  match place with
  | .folder => (folder.content? name).map .file
  | .root => if name ∈ standardNames then some (.standard name) else none
  | .standard "dev" => if name = "null" then some (.file []) else none
  | .standard _ | .file _ => none

/-- The folder is one among those for temporary files. -/
def parent : Place → Place
  | .folder => .standard "tmp"
  | .root | .standard _ | .file _ => .root

/-- Follows one name of a path; an empty name or a dot stays, and two dots go up. -/
def step (folder : Folder) (place : Place) (name : String) : Except Obstacle Place :=
  match place with
  | .file _ => .error .notDirectory
  | _ =>
      if name = "" ∨ name = "." then .ok place
      else if name = ".." then .ok (parent place)
      else if nameLimit < name.utf8ByteSize then .error .nameTooLong
      else match folder.enter place name with
        | some next => .ok next
        | none => .error .notFound

def walk (folder : Folder) (path : String) : Except Obstacle Bytes :=
  if path = "" then .error .notFound
  else if pathLimit < path.utf8ByteSize then .error .nameTooLong
  else do
    let start := if path.toList.head? = some '/' then Place.root else .folder
    match ← (path.splitOn "/").foldlM folder.step start with
    | .file content => .ok content
    | _ => .error .isDirectory

def read (folder : Folder) (path : String) : Except FileError Bytes :=
  if '\x00' ∈ path.toList then .error .nullCharacter
  else (folder.walk path).mapError (.blocked · path)

end Folder

end Reckon.CommandLine
