import LlmTelemetry.Config.Load
import LlmTelemetry.KeyedList
/-!
# A tree of files

Files and directories under a root, and what is found there under a path. A path is read name by name from
a directory on: `.` stays, `..` goes up, and nothing but a directory has something below it.
-/

namespace LlmTelemetry

inductive FileTree where
  | file (content : FileContent)
  | directory (entries : List (String × FileTree))

namespace FileTree

/-- What is found under the names of a path. The directories that `tree` stands in are `above`, the
innermost one first. -/
def find (above : List FileTree) (tree : FileTree) : List String → FileContent
  | [] =>
    match tree with
    | .file content => content
    | .directory _ => .unreadable
  | name :: names =>
    match tree with
    | .file _ => .absent
    | .directory entries =>
      if name = "" ∨ name = "." then find above tree names
      else if name = ".." then
        match above with
        | [] => find [] tree names
        | parent :: above => find above parent names
      else
        match KeyedList.find? name entries with
        | some entry => find (tree :: above) entry names
        | none => .absent

/-- What is found under a relative path, seen from the directory with the names `directory`. Nothing is
found under an absolute path. -/
def read (tree : FileTree) (directory : List String) (path : String) : FileContent :=
  if path.startsWith "/" then .absent else find [] tree (directory ++ path.splitOn "/")

end FileTree

end LlmTelemetry
