import QueryBook.Files.Path
import QueryBook.Keyed

set_option autoImplicit false

namespace QueryBook

-- A file has a stamp, which its writer changes together with its bytes.
inductive Node where
  | directory
  | file (data : List UInt8) (stamp : Int)
  deriving DecidableEq, Repr

structure SystemFault where
  name : String
  text : String
  deriving DecidableEq, Repr

namespace SystemFault

def tooLong (path : Path) : SystemFault :=
  ⟨"OSError", "[Errno 36] File name too long: " ++ Text.quoted path.text⟩

def denied (path : Path) : SystemFault :=
  ⟨"PermissionError", "[Errno 13] Permission denied: " ++ Text.quoted path.text⟩

def missing (path : Path) : SystemFault :=
  ⟨"FileNotFoundError", "[Errno 2] No such file or directory: " ++ Text.quoted path.text⟩

end SystemFault

-- Of a place the tree knows whether it may be read, and whether the system lets anyone look at it.
structure FileTree where
  nodes : Keyed Node Path
  readable : Path → Bool
  refuses : Path → Option SystemFault

namespace FileTree

def empty : FileTree where
  nodes := []
  readable := fun _ => true
  refuses := fun _ => none

-- The working directory is always there.
def isDirectoryAt (tree : FileTree) (place : Path) : Bool :=
  place == [] || tree.nodes.get? place == some .directory

def enter (tree : FileTree) (place : Path) (name : String) : Option Path :=
  if name = ".." then
    if place ≠ [] ∧ tree.isDirectoryAt place then some place.dropLast else none
  else some (place ++ [name])

-- Where a path leads, once its steps upwards have been taken.
def locate (tree : FileTree) (path : Path) : Option Path :=
  path.foldlM tree.enter []

def directory? (tree : FileTree) (path : Path) : Option Path :=
  (tree.locate path).filter tree.isDirectoryAt

-- The system goes along a path name by name, as long as there are directories.
def refusalFrom? (tree : FileTree) (path place : Path) : List String → Option SystemFault
  | [] => none
  | name :: rest =>
    if tree.isDirectoryAt place then
      if 255 < name.utf8ByteSize then some (.tooLong path)
      else
        match tree.enter place name with
        | none => none
        | some next => (tree.refuses next).or (tree.refusalFrom? path next rest)
    else none

def refusal? (tree : FileTree) (path : Path) : Option SystemFault :=
  if path.isNull then none
  else if 4095 < path.text.utf8ByteSize then some (.tooLong path)
  else tree.refusalFrom? path [] path

def file? (tree : FileTree) (path : Path) : Option (List UInt8 × Int) :=
  match path.isNull, tree.refusal? path, (tree.locate path).bind tree.nodes.get? with
  | false, none, some (.file data stamp) => some (data, stamp)
  | _, _, _ => none

def isFile (tree : FileTree) (path : Path) : Except SystemFault Bool :=
  match tree.refusal? path with
  | some fault => .error fault
  | none => .ok (tree.file? path).isSome

def isReadable (tree : FileTree) (path : Path) : Bool :=
  (tree.locate path).any tree.readable

def offers (tree : FileTree) (path : Path) : Except SystemFault Bool :=
  match tree.isFile path with
  | .error fault => .error fault
  | .ok there => .ok (there && tree.isReadable path)

def bytes (tree : FileTree) (path : Path) : Except SystemFault (List UInt8) :=
  match tree.refusal? path, tree.file? path with
  | some fault, _ => .error fault
  | none, none => .error (.missing path)
  | none, some (data, _) => if tree.isReadable path then .ok data else .error (.denied path)

def namesIn (tree : FileTree) (place : Path) : List String :=
  tree.nodes.keys.filterMap fun path =>
    if path.dropLast = place then path.getLast? else none

def makeDirectory (tree : FileTree) (path : Path) : FileTree :=
  (List.range path.length).foldl
    (fun tree depth =>
      let place := path.take (depth + 1)
      if (tree.nodes.get? place).isSome then tree
      else { tree with nodes := tree.nodes.put place .directory }) tree

def write (tree : FileTree) (path : Path) (data : List UInt8) (stamp : Int) : FileTree :=
  let tree := tree.makeDirectory path.dropLast
  { tree with nodes := tree.nodes.put path (.file data stamp) }

def touch (tree : FileTree) (path : Path) (stamp : Int) : FileTree :=
  match tree.nodes.get? path with
  | some (.file data _) => { tree with nodes := tree.nodes.put path (.file data stamp) }
  | _ => tree

def remove (tree : FileTree) (path : Path) : FileTree :=
  { tree with nodes := tree.nodes.erase path }

end FileTree

end QueryBook
