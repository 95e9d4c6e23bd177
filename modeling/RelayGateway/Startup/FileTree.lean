import RelayGateway.Program
import RelayGateway.Settings.Source
import RelayGateway.Text.Fields

/-! # Files

* `FileCall`, `FileReply`: what start-up asks of the file system.
* `FileTree`: directories and files below a root, with the directory in which the program runs.
* `FileTree.answer`: the file system that a tree is.
* `parentPath`: the path of the directory in which a path lies.
-/

set_option autoImplicit false

namespace RelayGateway

/-- Why a file or directory cannot be made. -/
inductive FileError where
  | notFound
  | notDirectory
  | isDirectory
  | nameTooLong
  deriving DecidableEq

def FileError.message : FileError → String
  | .notFound => "No such file or directory (os error 2)"
  | .notDirectory => "Not a directory (os error 20)"
  | .isDirectory => "Is a directory (os error 21)"
  | .nameTooLong => "File name too long (os error 36)"

/-- What a path leads to. -/
inductive PathKind where
  | file
  | directory
  deriving DecidableEq

/-- What start-up asks of the file system. -/
inductive FileCall where
  | kind (path : String)
  | read (path : String)
  /-- Makes a directory with all directories above it. -/
  | makeDirectories (path : String)
  | makeFile (path : String)
  /-- Makes the tables of a file, which has to be empty or to hold them already. -/
  | makeTables (path : String)

def FileReply : FileCall → Type
  | .kind _ => Option PathKind
  | .read _ => SettingsFile
  | .makeDirectories _ => Except FileError Unit
  | .makeFile _ => Except FileError Unit
  | .makeTables _ => Bool

abbrev FileProgram (α : Type) := Program FileReply α

/-- What a file holds. -/
inductive FileContent where
  | bytes (content : ByteArray)
  | tables

abbrev FilePath := List String

/-- A file or a directory of a tree. -/
structure FileNode where
  path : FilePath
  /-- The content of a file; a directory has none. -/
  content : Option FileContent

/-- The files and directories below a root. -/
structure FileTree where
  /-- Where relative paths begin. -/
  home : FilePath
  nodes : List FileNode

def pathParts (path : String) : List String :=
  (Text.splitAt '/' path).filter fun part => part != "" && part != "."

def resolveParts (start : FilePath) (parts : List String) : FilePath :=
  parts.foldl (fun path part => if part = ".." then path.dropLast else path ++ [part]) start

/-- The path without slashes at its end; the root stays. -/
def withoutEndSlashes (path : String) : String :=
  let cs := path.toList
  let kept := (cs.reverse.dropWhile fun c => c == '/').reverse
  String.ofList (if kept.isEmpty then cs.take 1 else kept)

/-- The path of the directory in which a path lies; empty for a bare name, and nothing for the root. -/
def parentPath (path : String) : Option String :=
  let cs := (withoutEndSlashes path).toList
  if cs.isEmpty || cs == ['/'] then none
  else
    let front := (cs.reverse.dropWhile fun c => c != '/').reverse
    some (withoutEndSlashes (String.ofList front))

def maxNameLength : Nat := 255

namespace FileTree

def resolve (tree : FileTree) (path : String) : FilePath :=
  resolveParts (if Text.startsWith path "/" then [] else tree.home) (pathParts path)

def node? (tree : FileTree) (path : FilePath) : Option FileNode :=
  tree.nodes.find? fun node => node.path == path

/-- What lies at a place; the root is a directory. -/
def kindAt (tree : FileTree) (path : FilePath) : Option PathKind :=
  if path = [] then some .directory
  else (tree.node? path).map fun node => if node.content.isSome then .file else .directory

def above (path : FilePath) : List FilePath :=
  (List.range path.length).map path.take

/-- What a path leads to. A slash at its end stands for a directory. -/
def kind (tree : FileTree) (path : String) : Option PathKind :=
  if path = "" then none
  else
    match tree.kindAt (tree.resolve path) with
    | some .file => if Text.endsWith path "/" then none else some .file
    | other => other

/-- Puts a node into the tree, in the place of an earlier one. -/
def put (tree : FileTree) (node : FileNode) : FileTree :=
  { tree with nodes := tree.nodes.filter (fun other => other.path != node.path) ++ [node] }

/-- What stands in the way of something new at a place. -/
def obstacle? (tree : FileTree) (path : FilePath) : Option FileError :=
  if (above path).any fun place => tree.kindAt place == some .file then some .notDirectory
  else if path.any fun part => maxNameLength < part.utf8ByteSize then some .nameTooLong
  else none

/-- Makes a directory with all directories above it. -/
def makeDirectories (tree : FileTree) (path : String) : Except FileError Unit × FileTree :=
  let place := tree.resolve path
  match tree.obstacle? place with
  | some err => (.error err, tree)
  | none =>
    let missing := (above place ++ [place]).filter fun p => (tree.kindAt p).isNone
    (.ok (), missing.foldl (fun tree p => tree.put ⟨p, none⟩) tree)

def makeFile (tree : FileTree) (path : String) : Except FileError Unit × FileTree :=
  let place := tree.resolve path
  if path = "" then (.error .notFound, tree)
  else
    match tree.obstacle? place with
    | some err => (.error err, tree)
    | none =>
      if tree.kindAt place.dropLast ≠ some .directory then (.error .notFound, tree)
      else if Text.endsWith path "/" then (.error .isDirectory, tree)
      else (.ok (), tree.put ⟨place, some (.bytes ⟨#[]⟩)⟩)

/-- A tree with the given files, with all directories above them. -/
def ofFiles (home : FilePath) (files : List (String × ByteArray)) : FileTree :=
  files.foldl (fun tree file =>
      let tree := ((parentPath file.1).map fun p => (tree.makeDirectories p).2).getD tree
      tree.put ⟨tree.resolve file.1, some (.bytes file.2)⟩)
    ⟨home, (List.range home.length).map fun n => ⟨home.take (n + 1), none⟩⟩

def read (tree : FileTree) (path : String) : SettingsFile :=
  match tree.kind path, tree.node? (tree.resolve path) with
  | some .file, some ⟨_, some (.bytes content)⟩ => .bytes content
  | none, _ => .missing
  | _, _ => .unreadable

/-- Makes the tables of a file, and says whether that was possible. -/
def makeTables (tree : FileTree) (path : String) : Bool × FileTree :=
  let place := tree.resolve path
  match tree.node? place with
  | some ⟨_, some (.bytes content)⟩ =>
    if content.size = 0 then (true, tree.put ⟨place, some .tables⟩) else (false, tree)
  | some ⟨_, some .tables⟩ => (true, tree)
  | _ => (false, tree)

def answer (call : FileCall) : StateM FileTree (FileReply call) := fun tree =>
  match call with
  | .kind path => (tree.kind path, tree)
  | .read path => (tree.read path, tree)
  | .makeDirectories path => tree.makeDirectories path
  | .makeFile path => tree.makeFile path
  | .makeTables path => tree.makeTables path

/-- All paths below the home directory, in ascending order. -/
def listing (tree : FileTree) (below : FilePath) : List String :=
  let paths := tree.nodes.filterMap fun node =>
    if below.isPrefixOf node.path && below.length < node.path.length then
      some (String.intercalate "/" (node.path.drop below.length))
    else none
  paths.mergeSort fun a b => !decide (b < a)

end FileTree

end RelayGateway
