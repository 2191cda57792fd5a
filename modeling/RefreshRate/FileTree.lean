import RefreshRate.File

namespace RefreshRate

/-!
# Trees of files

A path is a list of names between slashes.  It is followed name by name from the
root or from the working directory, and only a directory can be left for the
next name.  So a path that goes on after a file leads nowhere, even if what
follows would only stay there or lead back.
-/

/-- A place in a tree: the names on the way to it from the root, the last one first. -/
abbrev Place := List String

/-- A tree of files, given by what stands at each place below the root, the latest first. -/
structure FileTree where
  nodes : List (Place × FileNode) := []
  /-- Where paths start that do not start at the root. -/
  workingDirectory : Place := []
  deriving Repr, DecidableEq

namespace FileTree

/-- The greatest number of bytes in a path. -/
def pathLimit : Nat :=
  4095

/-- The greatest number of bytes in a name. -/
def nameLimit : Nat :=
  255

/-- What stands at a place; the root is a directory. -/
def node?
    (tree : FileTree) :
    Place → Option FileNode
  | [] =>
      some .directory
  | place =>
      tree.nodes.lookup place

/--
Follow one name.  An empty name and one dot stay, two dots lead up, and any
other name leads down, perhaps to a place where nothing stands yet.  Above the
root is the root.
-/
def step
    (tree : FileTree)
    (place : Place)
    (name : String) :
    Except FileError Place :=
  match tree.node? place with
  | none =>
      .error .notFound
  | some .directory =>
      if name = "" || name = "." then
        .ok place
      else if name = ".." then
        .ok place.tail
      else if nameLimit < name.utf8ByteSize then
        .error .nameTooLong
      else
        .ok (name :: place)
  | some _ =>
      .error .notDirectory

/-- Follow names from a place. -/
def follow
    (tree : FileTree)
    (place : Place) :
    List String → Except FileError Place
  | [] =>
      .ok place
  | name :: rest =>
      match tree.step place name with
      | .error reason =>
          .error reason
      | .ok next =>
          tree.follow next rest

/-- The names of a path. -/
def names (path : String) : List String :=
  (path.toList.splitOn '/').map String.ofList

/-- The place from which a path is followed. -/
def origin
    (tree : FileTree)
    (path : String) :
    Place :=
  if path.toList.head? = some '/' then [] else tree.workingDirectory

/-- Follow names from where a path starts, if the path is neither empty nor too long. -/
def walk
    (tree : FileTree)
    (path : String)
    (names : List String) :
    Except FileError Place :=
  if path.isEmpty then
    .error .notFound
  else if pathLimit < path.utf8ByteSize then
    .error .nameTooLong
  else
    tree.follow (tree.origin path) names

/-- The place to which a path leads. -/
def resolve
    (tree : FileTree)
    (path : String) :
    Except FileError Place :=
  tree.walk path (names path)

/-- Read the text of the file at a path. -/
def readText
    (tree : FileTree)
    (path : String) :
    Except FileError String :=
  match tree.resolve path with
  | .error reason =>
      .error reason
  | .ok place =>
      match tree.node? place with
      | none =>
          .error .notFound
      | some node =>
          node.readText

/-- The names before the last one, if that is a name of its own with slashes behind it. -/
def namesBeforeSlashed? (names : List String) : Option (List String) :=
  if names.getLast? = some "" then
    match names.reverse.dropWhile (· = "") with
    | [] =>
        none
    | last :: before =>
        if last = "." || last = ".." then none else some before.reverse
  else
    none

/--
The place of the file that is opened or made for writing at a path.  Slashes
behind a name ask for a directory, whether there is one or not.
-/
def placeForWriting
    (tree : FileTree)
    (path : String) :
    Except FileError Place :=
  match namesBeforeSlashed? (names path) with
  | some before =>
      match tree.walk path (before ++ ["."]) with
      | .error reason =>
          .error reason
      | .ok _ =>
          .error .isDirectory
  | none =>
      match tree.resolve path with
      | .error reason =>
          .error reason
      | .ok place =>
          if tree.node? place = some .directory then
            .error .isDirectory
          else
            .ok place

/-- Change the node at a place, which is an empty file if nothing stands there. -/
def modify
    (tree : FileTree)
    (change : FileNode → FileNode)
    (place : Place) :
    FileTree :=
  { tree with nodes := (place, change ((tree.node? place).getD (.regular []))) :: tree.nodes }

/-- Write bytes in the place of what the file at a path held. -/
def write
    (tree : FileTree)
    (path : String)
    (bytes : List UInt8) :
    Except FileError FileTree :=
  (tree.placeForWriting path).map (tree.modify (.overwrite bytes))

/-- Write bytes behind what the file at a path holds. -/
def append
    (tree : FileTree)
    (path : String)
    (bytes : List UInt8) :
    Except FileError FileTree :=
  (tree.placeForWriting path).map (tree.modify (.append bytes))

/-- The bytes of the file at a path, if there is one. -/
def bytes?
    (tree : FileTree)
    (path : String) :
    Option (List UInt8) :=
  (tree.resolve path).toOption.bind fun place =>
    (tree.node? place).bind FileNode.bytes?

end FileTree

end RefreshRate
