/-!
# Paths
-/

namespace RangeIndex.Command.Path

/-- The path of a file relative to a directory. A file's absolute path stands for itself. -/
def join (root file : String) : String :=
  if file.toList.head? = some '/' || root.isEmpty then file
  else if root.toList.getLast? = some '/' then root ++ file
  else root ++ "/" ++ file

/-- The names between the slashes of a path. -/
def splitSlashes : List Char → List (List Char)
  | [] => [[]]
  | '/' :: rest => [] :: splitSlashes rest
  | c :: rest =>
    match splitSlashes rest with
    | [] => [[c]]
    | name :: names => (c :: name) :: names

/-- The names of a path, without those that stand for the directory before them. -/
def names (path : String) : List String :=
  match splitSlashes path.toList with
  | [] => []
  | first :: rest =>
    ((first :: rest.filter (· ≠ ['.'])).filter (!·.isEmpty)).map String.ofList

/-- Whether a path means standard input. -/
def isStdin (path : String) : Bool :=
  path.toList.head? ≠ some '/' && names path = ["-"]

end RangeIndex.Command.Path
