namespace Stepwise

inductive Files.Entry
  | file (content : List UInt8)
  | folder
deriving DecidableEq

-- Files and folders, each under the names that lead to it; the latest entry of a path counts. The
-- folder that holds all of them has the empty path.
structure Files where
  entries : List (List String × Files.Entry)
deriving DecidableEq

namespace Files

def empty : Files := ⟨[]⟩

def at? (fs : Files) : List String → Option Entry
  | [] => some .folder
  | path => fs.entries.lookup path

def put (fs : Files) (path : List String) (entry : Entry) : Files := ⟨(path, entry) :: fs.entries⟩

-- Why a file or folder is not to be had.
inductive Fault
  | missing
  | notFolder
  | isFolder
  | taken
deriving DecidableEq

def Fault.message : Fault → String
  | missing => "No such file or directory (os error 2)"
  | notFolder => "Not a directory (os error 20)"
  | isFolder => "Is a directory (os error 21)"
  | taken => "File exists (os error 17)"

def read (fs : Files) (path : List String) : Except Fault (List UInt8) :=
  match fs.at? path with
  | some (.file content) => .ok content
  | some .folder => .error .isFolder
  | none => .error .missing

-- Read the file of a written path. Empty names and single dots stay in the folder they stand in.
def readNamed (fs : Files) (name : String) : Except Fault (List UInt8) :=
  let parts := name.splitOn "/"
  let isSilent := fun (part : String) => part = "" || part = "."
  match fs.read (parts.filter fun part => !isSilent part) with
  | .ok content => if parts.getLast?.any isSilent then .error .notFolder else .ok content
  | .error e => .error e

-- Make a folder and those that lead to it; `done` is the path that is already there.
def makeFolders (fs : Files) (done : List String) : List String → Except Fault Files
  | [] => .ok fs
  | name :: rest =>
    let path := done ++ [name]
    match fs.at? path with
    | some .folder => makeFolders fs path rest
    | some (.file _) => .error (if rest.isEmpty then .taken else .notFolder)
    | none => makeFolders (fs.put path .folder) path rest

-- Give a file its content, in a folder that is there.
def write (fs : Files) (path : List String) (content : List UInt8) : Except Fault Files :=
  match fs.at? path.dropLast with
  | none => .error .missing
  | some (.file _) => .error .notFolder
  | some .folder =>
    match fs.at? path with
    | some .folder => .error .isFolder
    | _ => .ok (fs.put path (.file content))

end Files

end Stepwise
