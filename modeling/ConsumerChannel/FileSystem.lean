import ConsumerChannel.FilePath

/-!
Files in directories, and what stands behind a path. A path is followed name by name, from the root or
from the working directory; a step up from the root stays there.
-/
namespace ConsumerChannel

/-- A file, or a directory with its members by their names. -/
inductive FileTree where
  | file (content : List UInt8)
  | directory (members : List (String × FileTree))

/-- What stands behind names that are followed downwards. -/
def FileTree.below? : FileTree → List String → Option FileTree
  | tree, [] => some tree
  | .file _, _ :: _ => none
  | .directory members, name :: rest =>
    match members.find? fun member => member.1 == name with
    | some (_, tree) => below? tree rest
    | none => none

/-- Files as a process sees them. -/
structure FileSystem where
  root : FileTree
  /-- The names that lead from the root to the working directory. -/
  working : List String

namespace FileSystem

/-- What stands behind names that are followed one by one from a place. Only a directory can be gone on
from, also upwards. -/
def follow (s : FileSystem) (place : List String) : List String → Option FileTree
  | [] => s.root.below? place
  | name :: rest =>
    match s.root.below? place with
    | some (.directory _) => s.follow (if name = ".." then place.dropLast else place ++ [name]) rest
    | _ => none

/-- What stands behind a path. -/
def find? (s : FileSystem) (path : String) : Option FileTree :=
  s.follow (if FilePath.isAbsolute path then [] else s.working) (FilePath.parts path)

end FileSystem

end ConsumerChannel
