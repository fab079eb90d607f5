import RangeIndex.OrderedMap
import RangeIndex.Text.Affix

/-!
# What is known about a mixin

A mixin is a type whose members are merged into its target types. Its shadows are members that
really belong to the target, possibly referred to under a prefixed name; its overwrites replace
methods of the target; its soft interfaces are implemented by methods with a prefix.
-/

namespace RangeIndex.Mixin

open RangeIndex.Text (after? startsWith)

/-- A member of the target that the mixin declares for its own use. -/
structure Shadow where
  name : String
  desc : String
  namePrefix : String
deriving DecidableEq, Repr, Inhabited

namespace Shadow

/-- The shadow as text. -/
def display (s : Shadow) : String :=
  "Shadow[" ++ s.name ++ " " ++ s.desc ++ " " ++ s.namePrefix ++ "]"

/-- Whether the shadow's prefixed name and its descriptor are the given ones. -/
def isPrefixed (s : Shadow) (name desc : String) : Bool :=
  s.desc == desc && after? s.namePrefix name == some s.name

end Shadow

/-- An interface whose methods the mixin implements under prefixed names, with the types that
declare its methods, by name and descriptor. -/
structure SoftInterface where
  namePrefix : String
  target : String
  methods : OrderedMap String String
deriving DecidableEq

namespace SoftInterface

/-- The interface with no known methods. -/
def new (namePrefix target : String) : SoftInterface :=
  ⟨namePrefix, target, OrderedMap.empty⟩

/-- The interface as text. -/
def display (i : SoftInterface) : String :=
  "Interface[" ++ i.target ++ ", " ++ i.namePrefix ++ "]"

/-- Records the type that declares a method. The first one recorded stays. -/
def addMethod (i : SoftInterface) (name desc owner : String) : SoftInterface :=
  if i.methods.contains (name ++ desc) then i
  else { i with methods := i.methods.insert (name ++ desc) owner }

/-- The type that declares the method with the given name, with or without the prefix. -/
def findOwner (i : SoftInterface) (name desc : String) : Option String :=
  i.methods.get? ((after? i.namePrefix name).getD name ++ desc)

end SoftInterface

/-- What is known about a mixin. Targets are listed without repetition. -/
structure Info where
  owner : String
  targets : List String
  shadows : OrderedMap String Shadow
  overwrites : List String
  interfaces : List SoftInterface
deriving DecidableEq

namespace Info

/-- A type of which nothing is known. -/
def new (owner : String) : Info :=
  ⟨owner, [], OrderedMap.empty, [], []⟩

/-- Whether the type was declared a mixin of some target. -/
def isValid (i : Info) : Bool :=
  !i.targets.isEmpty

/-- The only target. -/
def target? (i : Info) : Option String :=
  match i.targets with
  | [t] => some t
  | _ => none

/-- Replaces the targets. -/
def setTargets (i : Info) (targets : List String) : Info :=
  { i with targets := targets.eraseDups }

/-- The key of a shadow. -/
def shadowKey (name desc : String) : String :=
  name ++ " " ++ desc

/-- Records a shadow; one with the same name and descriptor gives way. -/
def addShadow (i : Info) (s : Shadow) : Info :=
  { i with shadows := i.shadows.insert (shadowKey s.name s.desc) s }

/-- The shadow with the given name and descriptor. -/
def getShadow? (i : Info) (name desc : String) : Option Shadow :=
  i.shadows.get? (shadowKey name desc)

/-- The shadow that a reference means, by its own name or else by its prefixed name. -/
def findShadow? (i : Info) (name desc : String) : Option Shadow :=
  (i.getShadow? name desc).or (i.shadows.values.find? (·.isPrefixed name desc))

/-- The only target, if the reference means a shadow. -/
def shadedOwner? (i : Info) (name desc : String) : Option String :=
  match i.findShadow? name desc with
  | some _ => i.target?
  | none => none

/-- Records that a method of the target is replaced. -/
def addOverwrite (i : Info) (name desc : String) : Info :=
  if i.overwrites.contains (name ++ desc) then i
  else { i with overwrites := i.overwrites ++ [name ++ desc] }

/-- Whether a method of the target is replaced. -/
def isOverwrite (i : Info) (name desc : String) : Bool :=
  i.overwrites.contains (name ++ desc)

/-- Adds a soft interface. -/
def addInterface (i : Info) (interface : SoftInterface) : Info :=
  { i with interfaces := i.interfaces ++ [interface] }

/-- Records a method of the soft interface at a position. -/
def addInterfaceMethod (i : Info) (position : Nat) (name desc owner : String) : Info :=
  { i with interfaces := i.interfaces.modify position fun s => s.addMethod name desc owner }

/-- The type that declares the interface method which a method of the mixin implements. -/
def findInterfaceOwner? (i : Info) (name desc : String) : Option String :=
  (i.interfaces.filter fun s => startsWith s.namePrefix name).findSome? (·.findOwner name desc)

/-- The mixin as text. -/
def display (i : Info) : String :=
  "Mixin[" ++ ",".intercalate i.targets ++ "]"

end Info

end RangeIndex.Mixin
