import RangeIndex.Command.Host

/-!
# Trees of files in memory

A tree holds files by the names on the way to them from the working directory; the directories are
those on the way to some file. Paths are followed name by name, as a file system does, and fail the
same way: a missing name, a file where a directory is needed, a name that is too long.
-/

namespace RangeIndex.Command

/-- The files below the working directory. -/
structure FileTree where
  files : List (List String × ByteArray)
  stdin : ByteArray

namespace FileTree

/-- What a path leads to. -/
inductive Node where
  | file (content : ByteArray)
  | directory

/-- Where following a path has come to: names from the working directory on, or somewhere outside
of it. -/
inductive Place where
  | inside (names : List String)
  | outside

/-- The most bytes that one name may have. -/
def maxNameLength : Nat := 255

/-- The most bytes that a path may have. -/
def maxPathLength : Nat := 4095

/-- Whether some file is below the given directory. -/
def hasDirectory (t : FileTree) (names : List String) : Bool :=
  names.isEmpty || t.files.any fun f => names.isPrefixOf f.1 && names.length < f.1.length

/-- What is at a place. -/
def nodeAt? (t : FileTree) : Place → Option Node
  | .outside => some .directory
  | .inside names =>
    match t.files.lookup names with
    | some content => some (.file content)
    | none => if t.hasDirectory names then some .directory else none

/-- The place that a name leads to from a place. -/
def Place.next (p : Place) (name : String) : Place :=
  match name, p with
  | "..", .inside names => if names.isEmpty then .outside else .inside names.dropLast
  | "..", .outside => .outside
  | name, .inside names => .inside (names ++ [name])
  | _, .outside => .outside

/-- Follows one name from a directory. -/
def enter (t : FileTree) (p : Place) (name : String) : Except SystemError Place :=
  match t.nodeAt? p with
  | none => .error .notFound
  | some (.file _) => .error .notDirectory
  | some .directory =>
    if maxNameLength < name.utf8ByteSize then .error .nameTooLong
    else
      match p, name with
      | p, "." => .ok p
      | p, ".." => .ok (p.next "..")
      | .outside, _ => .error .notFound
      | p, name =>
        if (t.nodeAt? (p.next name)).isSome then .ok (p.next name) else .error .notFound

/-- Follows several names. -/
def walk (t : FileTree) (p : Place) : List String → Except SystemError Place
  | [] => .ok p
  | name :: rest => do walk t (← t.enter p name) rest

/-- The names of a path, where following it starts, and whether it ends with a slash. -/
structure Steps where
  start : Place
  names : List String
  endsInSlash : Bool

/-- Takes a path apart. -/
def steps (path : String) : Except SystemError Steps :=
  if path.toList.contains '\x00' then .error .nulInPath
  else if path.isEmpty then .error .notFound
  else if maxPathLength < path.utf8ByteSize then .error .nameTooLong
  else
    .ok ⟨if path.toList.head? = some '/' then .outside else .inside [],
      ((Path.splitSlashes path.toList).filter (!·.isEmpty)).map String.ofList,
      path.toList.getLast? = some '/'⟩

/-- What a path leads to. -/
def find (t : FileTree) (path : String) : Except SystemError Node := do
  let s ← steps path
  match t.nodeAt? (← t.walk s.start s.names) with
  | none => throw .notFound
  | some (.file content) => if s.endsInSlash then throw .notDirectory else return .file content
  | some .directory => return .directory

/-- Opens and reads a file. A directory can be opened, and not read. -/
def read (t : FileTree) (path : String) : Except SystemError (Except SystemError ByteArray) := do
  match ← t.find path with
  | .file content => return .ok content
  | .directory => return .error .isDirectory

/-- Whether a path leads to a file. -/
def isFile (t : FileTree) (path : String) : Bool :=
  match t.find path with
  | .ok (.file _) => true
  | _ => false

/-- Puts a file at the given names. -/
def put (t : FileTree) (names : List String) (content : ByteArray) : FileTree :=
  { t with files := (names, content) :: t.files.filter fun f => f.1 ≠ names }

/-- Creates a file, or replaces the content of one. -/
def create (t : FileTree) (path text : String) : Except SystemError FileTree := do
  let s ← steps path
  match s.names.getLast? with
  | none => throw .isDirectory
  | some name =>
    let parent ← t.walk s.start s.names.dropLast
    match t.nodeAt? parent with
    | none => throw .notFound
    | some (.file _) => throw .notDirectory
    | some .directory =>
      if s.endsInSlash || name = "." || name = ".." then throw .isDirectory
      if maxNameLength < name.utf8ByteSize then throw .nameTooLong
      match parent, t.nodeAt? (parent.next name) with
      | .outside, _ => throw .notFound
      | _, some .directory => throw .isDirectory
      | .inside names, _ => return t.put (names ++ [name]) text.toUTF8

/-- The tree with the given files, and the given standard input. -/
def ofFiles (files : List (String × ByteArray)) (stdin : ByteArray) : FileTree :=
  files.foldl (fun t f => t.put ((Path.names f.1).filter (· ≠ ".")) f.2) ⟨[], stdin⟩

/-- A host that works on a tree. -/
def host : Host (StateM FileTree) where
  read path := return (← get).read path
  isFile path := return (← get).isFile path
  readStdin := return .ok (← get).stdin
  create path text := do
    match (← get).create path text with
    | .ok t =>
      set t
      return .ok ()
    | .error e => return .error e

end FileTree

end RangeIndex.Command
