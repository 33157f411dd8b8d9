/-!
# Files and paths

A file is read by a path, which leads through directories. A `FileTree` is a model of the files
below one directory, in which it is decided what a path leads to: the names of a path are taken from
left to right, and the first that cannot be taken is the reason of the failure.
-/

namespace Lamplighter

/-- Why a file cannot be read. -/
inductive ReadFailure where
  | notFound
  | notPermitted
  | notDirectory
  | isDirectory
  | nameTooLong
  /-- The bytes of the file are no text. -/
  | notText
  /-- Any other reason, in the words of the system. -/
  | other (reason : String)
deriving DecidableEq, Repr

/-- The explanation of a failure. -/
def ReadFailure.message : ReadFailure → String
  | .notFound => "No such file or directory (os error 2)"
  | .notPermitted => "Permission denied (os error 13)"
  | .notDirectory => "Not a directory (os error 20)"
  | .isDirectory => "Is a directory (os error 21)"
  | .nameTooLong => "File name too long (os error 36)"
  | .notText => "stream did not contain valid UTF-8"
  | .other reason => reason

/-- A text file, or a directory with its entries. -/
inductive FileTree where
  | file (content : String)
  | directory (entries : List (String × FileTree))

namespace FileTree

/-- The longest name of a file or directory, in bytes. -/
def nameLimit : Nat := 255

/-- The longest path, in bytes. -/
def pathLimit : Nat := 4095

/-- What names lead to from a place in a tree, which is given by the directories above it, the
nearest first. An empty name and a dot stay in the directory, and two dots lead to the one above,
or, where there is none, stay there as well. -/
def follow (above : List FileTree) (here : FileTree) : List String → Except ReadFailure FileTree
  | [] => .ok here
  | name :: rest =>
      match here with
      | .file _ => .error .notDirectory
      | .directory entries =>
          if name = "" ∨ name = "." then follow above here rest
          else if name = ".." then
            match above with
            | [] => follow [] here rest
            | parent :: further => follow further parent rest
          else if nameLimit < name.utf8ByteSize then .error .nameTooLong
          else
            match entries.lookup name with
            | none => .error .notFound
            | some next => follow (here :: above) next rest

/-- The names on the way from the root of a tree to what a path leads to. A path that does not begin
at the root begins in the given directory. -/
def names (home : List String) (path : String) : List String :=
  let given := (path.splitOn "/").filter (· ≠ "")
  if path.startsWith "/" then given else home ++ given

/-- Read the text at a path, for someone who is in the directory with the given names. -/
def read (tree : FileTree) (home : List String) (path : String) : Except ReadFailure String :=
  if path = "" then .error .notFound
  else if pathLimit < path.utf8ByteSize then .error .nameTooLong
  else
    match follow [] tree (names home path) with
    | .error failure => .error failure
    | .ok (.directory _) => .error .isDirectory
    | .ok (.file content) =>
        if path.endsWith "/" then .error .notDirectory else .ok content

end FileTree

end Lamplighter
