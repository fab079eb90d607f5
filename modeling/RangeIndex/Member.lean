/-!
# Members

A member is a field or method: the internal name of the type that declares it, its own name, and
its type or method descriptor. A constructor's name is `<init>`.
-/

namespace RangeIndex

/-- A field or method of a type. -/
structure Member where
  owner : String
  name : String
  desc : String
deriving DecidableEq, Repr, Inhabited

/-- The member as text: owner, a slash, name and descriptor. -/
def Member.display (m : Member) : String :=
  m.owner ++ "/" ++ m.name ++ m.desc

end RangeIndex
