import QueryBook.Error.Basic
import QueryBook.Files.Encoding
import QueryBook.Files.Tree
import QueryBook.Shelf.Section
import QueryBook.Value.Text

set_option autoImplicit false

namespace QueryBook

structure MemoryShelf where
  revision : Nat
  templates : Keyed (Nat × String)
  deriving DecidableEq, Repr

inductive FileArrangement where
  | onePerFile
  | manyPerFile
  deriving DecidableEq, Repr

structure FileShelf where
  arrangement : FileArrangement
  directories : List Path
  extension : String
  encoding : Encoding
  deriving DecidableEq, Repr

inductive Shelf where
  | memory (shelf : MemoryShelf)
  | files (shelf : FileShelf)
  deriving DecidableEq, Repr

inductive Source where
  | tag (name : String)
  | file (path : Path)
  deriving DecidableEq, Repr

namespace Source

def text : Source → String
  | .tag name => name
  | .file path => path.text

def listing : Source → String
  | .tag name => Text.quoted name
  | .file path => "PosixPath(" ++ Text.quoted path.text ++ ")"

end Source

def sortedNames (names : List String) : List String :=
  (names.mergeSort fun a b => decide (a ≤ b)).eraseDups

namespace MemoryShelf

def empty : MemoryShelf := ⟨0, []⟩

def add (shelf : MemoryShelf) (tag sql : String) : MemoryShelf :=
  ⟨shelf.revision + 1, shelf.templates.put tag (shelf.revision + 1, sql)⟩

def remove (shelf : MemoryShelf) (tag : String) : MemoryShelf :=
  { shelf with templates := shelf.templates.erase tag }

def ofList (templates : List (String × String)) : MemoryShelf :=
  templates.foldl (fun shelf (tag, sql) => shelf.add tag sql) empty

end MemoryShelf

namespace FileShelf

-- Dots in front of the extension are left out.
def ofParts (arrangement : FileArrangement) (directories : List String) (extension : String)
    (encoding : Encoding) : FileShelf :=
  { arrangement
    directories := directories.map Path.ofText
    extension := String.ofList (extension.toList.dropWhile (· = '.'))
    encoding }

def hasExtension (shelf : FileShelf) (name : String) : Bool :=
  match Path.splitSuffix? name.toList with
  | some (_, suffix) => suffix == shelf.extension.toList
  | none => false

inductive Stop where
  | missing (directory : Path)
  | file (path : Path)
  | refused (path : Path) (fault : SystemFault)

-- A file that may not be read is passed over.
def stop? (tree : FileTree) (path : Path) : Option Stop :=
  match tree.offers path with
  | .error fault => some (.refused path fault)
  | .ok true => some (.file path)
  | .ok false => none

def stopsIn (shelf : FileShelf) (tree : FileTree) (directory place : Path) : List Stop :=
  if tree.readable place then
    let names := (tree.namesIn place).mergeSort fun a b => decide (a ≤ b)
    (names.filter fun name => !Path.isHidden name && shelf.hasExtension name).filterMap
      fun name => stop? tree (directory ++ [name])
  else [.refused directory (.denied directory)]

def walk (shelf : FileShelf) (tree : FileTree) : List Stop :=
  shelf.directories.flatMap fun directory =>
    match tree.refusal? directory, tree.directory? directory with
    | some fault, _ => [.refused directory fault]
    | none, none => [.missing directory]
    | none, some place => shelf.stopsIn tree directory place

def content (shelf : FileShelf) (tree : FileTree) (path : Path) : Except Error (List Char) :=
  match tree.bytes path with
  | .error fault => .error (.unreadable path fault none)
  | .ok data =>
    match shelf.encoding.decode data with
    | .ok cs => .ok cs
    | .error fault => .error (.undecodable fault)

def sectionIn (shelf : FileShelf) (tree : FileTree) (tag : String) (path : Path) :
    Except Error (Option String) :=
  match shelf.content tree path with
  | .error e => .error e
  | .ok content =>
    match Section.find tag.toList content with
    | .absent => .ok none
    | .unterminated => .error (.unterminated tag path.text)
    | .template text => .ok (some (String.ofList text))

def listing (shelf : FileShelf) : String :=
  let name :=
    match shelf.arrangement with
    | .onePerFile => "OnePerFileArchiver"
    | .manyPerFile => "ManyPerFileArchiver"
  name ++ "(lib=" ++ listTexts (shelf.directories.map Path.text) ++ ", extension=" ++
    Text.quoted shelf.extension ++ ")"

end FileShelf

namespace Shelf

-- Shelves of files do not change through the library.
def add (shelf : Shelf) (tag sql : String) : Shelf :=
  match shelf with
  | .memory shelf => .memory (shelf.add tag sql)
  | .files shelf => .files shelf

def remove (shelf : Shelf) (tag : String) : Shelf :=
  match shelf with
  | .memory shelf => .memory (shelf.remove tag)
  | .files shelf => .files shelf

def listing : Shelf → String
  | .memory _ => "InMemoryArchiver"
  | .files shelf => shelf.listing

end Shelf

end QueryBook
