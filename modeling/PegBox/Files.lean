/-
**Files, and why they cannot be read.**

The program reads whole files of text.  All it knows of files is what reading a path answers; this
module also gives a tree of files that answers as an operating system does, walking a path name by
name.

Main definitions:

* `PegBox.ReadFault` — why a path cannot be read;
* `PegBox.Files` — **what reading a path answers**;
* `PegBox.FileTree` — a tree of files and directories;
* `PegBox.FileTree.walk` — the place that a path leads to;
* `PegBox.FileTree.readText`, `PegBox.FileTree.files` — the answers of a tree;
* `PegBox.FileTree.put`, `PegBox.FileTree.remove` — a tree after a change.
-/

set_option autoImplicit false

namespace PegBox

/-! ### Reading -/

/-- Why a path cannot be read. -/
inductive ReadFault where
  | missing
  | notDirectory
  | isDirectory
  /-- The path, or a name in it, is too long. -/
  | nameTooLong
  | nullInPath
  | notText
  | other (words : String)
  deriving DecidableEq, Repr

/-- What the operator is told about a path that cannot be read. -/
def ReadFault.message : ReadFault → String
  | .missing => "No such file or directory (os error 2)"
  | .notDirectory => "Not a directory (os error 20)"
  | .isDirectory => "Is a directory (os error 21)"
  | .nameTooLong => "File name too long (os error 36)"
  | .nullInPath => "file name contained an unexpected NUL byte"
  | .notText => "stream did not contain valid UTF-8"
  | .other words => words

/-- **What reading a path answers**: the text of a file, or the reason why there is none. -/
structure Files where
  readText : String → Except ReadFault String

/-! ### Trees of files -/

/-- What stands at a place in a tree. -/
inductive Node where
  | file (content : ByteArray)
  | directory

/-- A tree of files and directories: what stands at each place.  A place is the row of names that
leads to it. -/
structure FileTree where
  /-- The places with what stands there; the root is always there. -/
  nodes : List (List String × Node)

namespace FileTree

/-- A tree with nothing in it. -/
def empty : FileTree := ⟨[]⟩

/-- What stands at a place. -/
def node? (tree : FileTree) (place : List String) : Option Node :=
  if place = [] then some .directory else tree.nodes.lookup place

/-- A name in a directory has at most this many bytes. -/
def nameLimit : Nat := 255

/-- A path has fewer bytes than this. -/
def pathLimit : Nat := 4096

/-- The names of a path; between two slashes in a row there is an empty one. -/
def namesOf (path : String) : List String := (path.toList.splitOn '/').map String.ofList

/-- **The place that a row of names leads to** from a place.  Nothing is known of what is outside
the tree, which `none` stands for. -/
def walk (tree : FileTree) : Option (List String) → List String →
    Except ReadFault (Option (List String))
  | place, [] => .ok place
  | place, name :: rest =>
    match place.map tree.node? with
    | some (some (.file _)) => .error .notDirectory
    | _ =>
      if name = "" ∨ name = "." then tree.walk place rest
      else if name = ".." then
        tree.walk (place.bind fun names => if names = [] then none else some names.dropLast) rest
      else if nameLimit < name.utf8ByteSize then .error .nameTooLong
      else
        match place with
        | none => .error .missing
        | some names =>
          match tree.node? (names ++ [name]) with
          | none => .error .missing
          | some _ => tree.walk (some (names ++ [name])) rest

/-- The text at a path. -/
def readText (tree : FileTree) (path : String) : Except ReadFault String :=
  if path.toList.contains (Char.ofNat 0) then .error .nullInPath
  else if path = "" then .error .missing
  else if pathLimit ≤ path.utf8ByteSize then .error .nameTooLong
  else
    let start := if path.toList.head? = some '/' then none else some []
    match tree.walk start (namesOf path) with
    | .error fault => .error fault
    | .ok none => .error .isDirectory
    | .ok (some place) =>
      match tree.node? place with
      | none => .error .missing
      | some .directory => .error .isDirectory
      | some (.file content) =>
        match String.fromUTF8? content with
        | none => .error .notText
        | some text => .ok text

/-- The answers of a tree. -/
def files (tree : FileTree) : Files := ⟨tree.readText⟩

/-! ### Changes -/

/-- The place that one more name of a path leads to, whatever stands there. -/
def stepTo (place : List String) (name : String) : List String :=
  if name = "" ∨ name = "." then place
  else if name = ".." then place.dropLast
  else place ++ [name]

/-- A tree with a node at a place. -/
def set (tree : FileTree) (place : List String) (node : Node) : FileTree :=
  ⟨(place, node) :: tree.nodes.filter fun entry => entry.1 ≠ place⟩

/-- A tree with a node at a place; a directory stays what it is, and a file does not become one. -/
def write (tree : FileTree) (place : List String) (node : Node) : FileTree :=
  match tree.node? place, node with
  | some .directory, _ => tree
  | some (.file _), .directory => tree
  | _, _ => tree.set place node

/-- A tree with a node at the end of a row of names from a place; every directory on the way is made
where it is missing, also one that the way leaves again. -/
def putFrom (node : Node) (tree : FileTree) (place : List String) : List String → FileTree
  | [] => tree.write place node
  | [name] => tree.write (stepTo place name) node
  | name :: rest =>
    putFrom node (tree.write (stepTo place name) .directory) (stepTo place name) rest

/-- **A tree with a node at a path.** -/
def put (tree : FileTree) (path : String) (node : Node) : FileTree :=
  putFrom node tree [] (namesOf path)

/-- A tree without what stands at a path and below it; a path that leads nowhere changes nothing. -/
def remove (tree : FileTree) (path : String) : FileTree :=
  match tree.walk (some []) (namesOf path) with
  | .ok (some (name :: place)) =>
    ⟨tree.nodes.filter fun entry => !((name :: place).isPrefixOf entry.1)⟩
  | _ => tree

end FileTree

end PegBox
