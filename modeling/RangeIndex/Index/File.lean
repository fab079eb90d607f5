import RangeIndex.AccessorLink
import RangeIndex.Declaration
import RangeIndex.Digest.Md5
import RangeIndex.Occurrence
import RangeIndex.OrderedMap

/-!
# The index of a file

What is known about one source file: the hash of the content that was indexed, the occurrences and
declarations in it, and the accessor links it sets up. An index holds the files by name, in the
order in which their names were first met.
-/

namespace RangeIndex

/-- The index of one source file. -/
structure FileIndex where
  filename : String
  hash : String
  occurrences : List Occurrence
  declarations : List Declaration
  links : List AccessorLink
deriving DecidableEq, Repr, Inhabited

/-- The indexed files by name. -/
abbrev Index := OrderedMap String FileIndex

/-- Adds a file under its name; a file already there under that name gives way. -/
def Index.add (index : Index) (file : FileIndex) : Index :=
  index.insert file.filename file

/-- A file whose content is not the one that was indexed. -/
structure Stale where
  filename : String
  expected : String
  actual : String
deriving DecidableEq, Repr

/-- The message for a stale file. -/
def Stale.message (s : Stale) : String :=
  "range map for " ++ s.filename ++ " is stale: indexed " ++ s.expected ++ ", current " ++ s.actual

namespace FileIndex

/-- Whether the file was indexed with content of the given hash. -/
def isCurrent (f : FileIndex) (hash : String) : Bool :=
  f.hash == hash

/-- Compares the indexed hash with the current content. -/
def verify (f : FileIndex) (content : ByteArray) : Except Stale Unit :=
  let actual := Digest.Md5.hexDigest content
  if f.isCurrent actual then .ok () else .error ⟨f.filename, f.hash, actual⟩

end FileIndex

/-- The neighbours in a list of occurrences of which the first runs past the start of the second. -/
def overlaps (os : List Occurrence) : List (Occurrence × Occurrence) :=
  (os.zip os.tail).filter fun (first, second) => second.span.start < first.span.stop

end RangeIndex
