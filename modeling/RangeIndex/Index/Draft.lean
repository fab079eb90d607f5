import RangeIndex.Index.Event
import RangeIndex.Index.File

/-!
# Drafts of a file's index

A draft collects what is found in one source file. `build` makes the file's index of it:
occurrences and declarations sorted by where they start, those with the same start in the order in
which they were added. A draft may instead take over the cached index of the same file with the
same content.
-/

namespace RangeIndex

/-- The index of a file while it is being put together. -/
structure Draft where
  filename : String
  hash : String
  occurrences : List Occurrence
  declarations : List Declaration
  links : List AccessorLink
deriving DecidableEq, Repr, Inhabited

namespace Draft

/-- The draft for a file in which nothing has been found yet. -/
def new (filename hash : String) : Draft :=
  ⟨filename, hash, [], [], []⟩

/-- Adds an occurrence. -/
def addOccurrence (d : Draft) (o : Occurrence) : Draft :=
  { d with occurrences := d.occurrences ++ [o] }

/-- Adds a declaration. -/
def addDeclaration (d : Draft) (decl : Declaration) : Draft :=
  { d with declarations := d.declarations ++ [decl] }

/-- Adds an accessor link. -/
def addLink (d : Draft) (l : AccessorLink) : Draft :=
  { d with links := d.links ++ [l] }

/-- Whether a cached index is of this file with this content. -/
def accepts (d : Draft) (cache : FileIndex) : Bool :=
  cache.filename == d.filename && cache.isCurrent d.hash

/-- Takes over the content of a cached index if it is of this file with this content. -/
def loadCache (d : Draft) (cache : FileIndex) : Draft :=
  if d.accepts cache then
    { d with
      occurrences := cache.occurrences
      declarations := cache.declarations
      links := cache.links }
  else
    d

/-- What loading a cached index reports. -/
def cacheEvent (d : Draft) (cache : FileIndex) : IndexEvent :=
  if d.accepts cache then .cacheHit d.filename cache.occurrences.length else .cacheMiss d.filename

/-- The file's index, sorted. -/
def build (d : Draft) : FileIndex where
  filename := d.filename
  hash := d.hash
  occurrences := d.occurrences.mergeSort fun a b => a.span.start ≤ b.span.start
  declarations := d.declarations.mergeSort fun a b => a.span.start ≤ b.span.start
  links := d.links

/-- What building reports: the overlaps among the sorted occurrences. -/
def buildEvents (d : Draft) : List IndexEvent :=
  (overlaps d.build.occurrences).map fun (first, second) => .overlap d.filename first second

end Draft

end RangeIndex
