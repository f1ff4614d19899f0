/-!
Paths of files: names with slashes between them.
-/
namespace ConsumerChannel.FilePath

/-- The names of a path; empty names and the name of the same directory say nothing. -/
def parts (path : String) : List String :=
  (path.splitOn "/").filter fun name => name != "" && name != "."

/-- Whether a path starts at the root. -/
def isAbsolute (path : String) : Bool := path.startsWith "/"

/-- The path without names that say nothing. Exactly two slashes at the front are kept. -/
def normalize (path : String) : String :=
  let names := "/".intercalate (parts path)
  if path.startsWith "//" && !path.startsWith "///" then "//" ++ names
  else if isAbsolute path then "/" ++ names
  else if names = "" then "." else names

/-- The names of a path below the working directory, with each step up taken back. -/
def resolve (path : String) : List String :=
  (parts path).foldl (fun names name => if name = ".." then names.dropLast else names ++ [name]) []

end ConsumerChannel.FilePath
