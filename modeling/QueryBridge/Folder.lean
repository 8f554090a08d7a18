import QueryBridge.Text.Basic

/-!
Reading a file by its path. Of the files only those in the working folder are known, and two devices
that give nothing; of the folders those above it, and those that stand in the root folder by custom.
-/

namespace QueryBridge

inductive ReadFault where
  | missing
  | forbidden
  | notFolder
  | folder
  | longName
  deriving DecidableEq, Repr

def ReadFault.message : ReadFault → Text
  | missing => "No such file or directory (os error 2)".toList
  | forbidden => "Permission denied (os error 13)".toList
  | notFolder => "Not a directory (os error 20)".toList
  | folder => "Is a directory (os error 21)".toList
  | longName => "File name too long (os error 36)".toList

structure Folder where
  files : List (Text × Text)

namespace Folder

/-- Where a path has led so far. In the folders above the working folder and in those of the root
folder no file is known. -/
inductive Place where
  | here
  | above
  | root
  | standard
  | devices
  | file (text : Text)
  deriving DecidableEq, Repr

namespace Place

def parent : Place → Place
  | here | above => above
  | root | standard | devices => root
  | file text => file text

end Place

def rootFolders : List Text :=
  ["bin", "boot", "etc", "home", "lib", "media", "mnt", "opt", "proc", "root", "run", "sbin", "srv",
    "sys", "tmp", "usr", "var"].map String.toList

def entry? (folder : Folder) (name : Text) : Place → Option Place
  | .here => (folder.files.lookup name).map .file
  | .root =>
    if name = "dev".toList then some .devices
    else if name ∈ rootFolders then some .standard
    else none
  | .devices =>
    if name = "null".toList || name = "stdin".toList then some (.file []) else none
  | .above | .standard | .file _ => none

def nameLimit : Nat := 255

def pathLimit : Nat := 4095

/-- One name further. Only a folder can be gone through; an empty name stays where it is, and so a
path that ends in a slash leads to a folder. -/
def enter (folder : Folder) (place : Place) (name : Text) : Except ReadFault Place :=
  match place with
  | .file _ => .error .notFolder
  | place =>
    if name = [] || name = ['.'] then .ok place
    else if name = ['.', '.'] then .ok place.parent
    else if nameLimit < Text.byteLength name then .error .longName
    else
      match folder.entry? name place with
      | some next => .ok next
      | none => .error .missing

def names : Text → List Text
  | [] => [[]]
  | c :: path =>
    match names path with
    | [] => []
    | name :: rest => if c = '/' then [] :: name :: rest else (c :: name) :: rest

def start (path : Text) : Place :=
  if path.head? = some '/' then .root else .here

def read (folder : Folder) (path : Text) : Except ReadFault Text :=
  if path = [] then .error .missing
  else if pathLimit < Text.byteLength path then .error .longName
  else
    match (names path).foldlM folder.enter (start path) with
    | .error fault => .error fault
    | .ok (.file text) => .ok text
    | .ok _ => .error .folder

end Folder

end QueryBridge
