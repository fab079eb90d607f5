import RangeIndex.Mixin.Info

/-!
# The registry of mixins

What is known about every mixin of a run, by the mixin's own name. A look-up or a change concerns
the entry of one type only.
-/

namespace RangeIndex.Mixin

/-- What is known about each type. -/
abbrev Registry := OrderedMap String Info

namespace Registry

/-- The registry of a new run. -/
def empty : Registry := OrderedMap.empty

/-- The entry of a type that was declared a mixin. -/
def getMixin? (r : Registry) (owner : String) : Option Info :=
  (r.get? owner).filter Info.isValid

/-- Changes the entry of a type, which is created if there is none. -/
def upsert (r : Registry) (owner : String) (f : Info → Info) : Registry :=
  r.insert owner (f ((r.get? owner).getD (Info.new owner)))

/-- Changes the entry of a type that was declared a mixin; fails for any other type. -/
def update? (r : Registry) (owner : String) (f : Info → Info) : Option Registry :=
  (r.getMixin? owner).map fun info => r.insert owner (f info)

/-- The shadow of a type with the given name and descriptor. -/
def getShadow? (r : Registry) (owner name desc : String) : Option Shadow :=
  (r.get? owner).bind fun info => info.getShadow? name desc

/-- The target that a reference to a shadow of a type really goes to. -/
def shadedOwner? (r : Registry) (owner name desc : String) : Option String :=
  (r.get? owner).bind fun info => info.shadedOwner? name desc

/-- Whether a type replaces a method of its target. -/
def isOverwrite (r : Registry) (owner name desc : String) : Bool :=
  (r.get? owner).any fun info => info.isOverwrite name desc

/-- The type that declares the interface method which a method of a type implements. -/
def findInterfaceOwner? (r : Registry) (owner name desc : String) : Option String :=
  (r.get? owner).bind fun info => info.findInterfaceOwner? name desc

end Registry

end RangeIndex.Mixin
