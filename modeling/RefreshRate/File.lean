import RefreshRate.Text.Utf8

namespace RefreshRate

/-!
# Files

What a path leads to, and the text that can be read there.
-/

/-- Why a file cannot be opened or read. -/
inductive FileError where
  | notFound
  | notDirectory
  | isDirectory
  | nameTooLong
  | notText
  /-- Any other reason, in the system's words. -/
  | other (cause : String)
  deriving Repr, DecidableEq

namespace FileError

/-- The system's sentence for an error. -/
def message : FileError → String
  | .notFound => "No such file or directory (os error 2)"
  | .notDirectory => "Not a directory (os error 20)"
  | .isDirectory => "Is a directory (os error 21)"
  | .nameTooLong => "File name too long (os error 36)"
  | .notText => "stream did not contain valid UTF-8"
  | .other cause => cause

end FileError

/-- What stands at a path. -/
inductive FileNode where
  | directory
  | regular (bytes : List UInt8)
  /-- A device that is always empty and keeps nothing of what is written to it. -/
  | sink
  deriving Repr, DecidableEq

namespace FileNode

/-- The bytes that can be read; a directory has none. -/
def bytes? : FileNode → Option (List UInt8)
  | .directory => none
  | .regular bytes => some bytes
  | .sink => some []

/-- Read the whole of a file as text. -/
def readText (node : FileNode) : Except FileError String :=
  match node.bytes? with
  | none =>
      .error .isDirectory
  | some bytes =>
      match Text.Utf8.decode bytes with
      | .ok text =>
          .ok (String.ofList text)
      | .error _ =>
          .error .notText

/-- The node after bytes have been written in the place of what it held. -/
def overwrite
    (bytes : List UInt8) :
    FileNode → FileNode
  | .directory => .directory
  | .regular _ => .regular bytes
  | .sink => .sink

/-- The node after bytes have been written behind what it holds. -/
def append
    (bytes : List UInt8) :
    FileNode → FileNode
  | .directory => .directory
  | .regular held => .regular (held ++ bytes)
  | .sink => .sink

end FileNode

end RefreshRate
