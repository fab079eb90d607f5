import RangeIndex.Member
import RangeIndex.Record.Basic

/-!
# Accessor links

A link says which member of a target type an accessor method stands for, and with which naming
prefix the accessor's name was made. It belongs to no stretch of source, so it is written in a
`meta` record.
-/

namespace RangeIndex

/-- The member that an accessor method stands for. -/
structure AccessorLink where
  accessor : Member
  target : Member
  namePrefix : String
deriving DecidableEq, Repr, Inhabited

namespace AccessorLink

/-- The word after `meta` in the record of a link. -/
def token : String := "mixin_accessor"

/-- The link as text. -/
def display (l : AccessorLink) : String :=
  "MixinAccessor[" ++ l.namePrefix ++ ", " ++ l.accessor.display ++ " -> " ++ l.target.display ++
    "]"

/-- The fields after the token of the link's record. -/
def write (l : AccessorLink) : List String :=
  [l.accessor.owner, l.accessor.name, l.accessor.desc, l.target.owner, l.target.name, l.target.desc,
    l.namePrefix]

/-- Reads a link from its token and the fields after it. -/
def read (version : UInt32) (kind : String) (fields : List String) :
    Except RecordError AccessorLink := do
  Record.checkVersion version
  if kind ≠ token then
    throw (.unknownLink kind)
  match fields with
  | [owner, name, desc, targetOwner, targetName, targetDesc, namePrefix] =>
    return ⟨⟨owner, name, desc⟩, ⟨targetOwner, targetName, targetDesc⟩, namePrefix⟩
  | fields => throw (.arity ("meta " ++ token) 7 fields.length)

end AccessorLink

end RangeIndex
