import CnfSearch.Storage

namespace CnfSearch

inductive Entry where
  | file (bytes : ByteArray)
  | folder

abbrev Directory := List (String × Entry)

-- Out of the working directory nothing is known but that there are folders.
inductive Place where
  | inside (names : List String)
  | file (bytes : ByteArray)
  | outside

namespace Directory

def nameLimit : Nat := 255

def pathLimit : Nat := 4095

def missing (name : String) : FileError :=
  if nameLimit < name.utf8ByteSize then .nameTooLong else .notFound

def descend (d : Directory) (names : List String) (name : String) : Except FileError Place :=
  let names := names ++ [name]
  match d.lookup ("/".intercalate names) with
  | none => .error (missing name)
  | some .folder => .ok (.inside names)
  | some (.file bytes) => .ok (.file bytes)

-- No part of a path may follow a file, not even an empty one.
def step (d : Directory) (place : Place) (name : String) : Except FileError Place :=
  match place with
  | .file _ => .error .notDirectory
  | .inside names =>
    if name = "" ∨ name = "." then .ok place
    else if name = ".." then .ok (if names = [] then .outside else .inside names.dropLast)
    else d.descend names name
  | .outside =>
    if name = "" ∨ name = "." ∨ name = ".." then .ok .outside else .error (missing name)

def find (d : Directory) (path : String) : Except FileError Place :=
  if path.toList.contains '\x00' then .error .nulInPath
  else if pathLimit < path.utf8ByteSize then .error .nameTooLong
  else
    match path.splitOn "/" with
    | [""] => .error .notFound
    | "" :: names => names.foldlM d.step .outside
    | names => names.foldlM d.step (.inside [])

def decode (bytes : ByteArray) : Except FileError String :=
  match String.fromUTF8? bytes with
  | some text => .ok text
  | none => .error .notUtf8

def source (d : Directory) : Source := fun path => do
  match ← d.find path with
  | .file bytes => decode bytes
  | .inside _ | .outside => .error .isDirectory

end Directory
end CnfSearch
