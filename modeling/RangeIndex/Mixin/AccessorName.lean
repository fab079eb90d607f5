import RangeIndex.Mixin.Descriptor
import RangeIndex.Text.Affix
import RangeIndex.Text.Lowercase

/-!
# Names of accessor methods

The name of an accessor method says what it does and to which member: a prefix gives the role, and
what follows, beginning with a capital, names the member. A suffix that starts with `_$md` does not
count. `AccessorName.ofMethod?` reads such a name; `ofField?` and `ofTarget` are for accessors whose
member is named explicitly.
-/

namespace RangeIndex.Mixin

open RangeIndex.Text (afterChars? isLowercase)

/-- What an accessor method does. -/
inductive AccessorRole where
  /-- Reads a field. -/
  | getter
  /-- Writes a field. -/
  | setter
  /-- Calls a method. -/
  | proxy
  /-- Calls a constructor. -/
  | factory
deriving DecidableEq, Repr

namespace AccessorRole

/-- All roles. -/
def all : List AccessorRole :=
  [.getter, .setter, .proxy, .factory]

/-- The role as text. -/
def display : AccessorRole → String
  | .getter => "GETTER"
  | .setter => "SETTER"
  | .proxy => "PROXY"
  | .factory => "FACTORY"

/-- The prefixes of method names with this role. -/
def prefixes : AccessorRole → List String
  | .getter => ["get", "is"]
  | .setter => ["set"]
  | .proxy => ["call", "invoke"]
  | .factory => ["new", "create"]

/-- Whether a method of this role can have the given descriptor. -/
def fits (role : AccessorRole) (desc : MethodDescriptor) : Bool :=
  match role with
  | .getter => desc.params.isEmpty && !desc.returnsVoid
  | .setter => desc.params.length == 1 && desc.returnsVoid
  | .proxy | .factory => true

end AccessorRole

/-- An accessor method and the member it stands for. -/
structure AccessorName where
  role : AccessorRole
  method : String
  target : String
  namePrefix : String
deriving DecidableEq, Repr

namespace AccessorName

/-- Each naming prefix with its role. -/
def conventions : List (String × AccessorRole) :=
  AccessorRole.all.flatMap fun role => role.prefixes.map fun p => (p, role)

/-- What starts the part of a name that does not count. -/
def marker : List Char := ['_', '$', 'm', 'd']

/-- The part of a name before the first marker. -/
def beforeMarker : List Char → List Char
  | [] => []
  | c :: rest => if marker.isPrefixOf (c :: rest) then [] else c :: beforeMarker rest

/-- A method name that follows a convention: its prefix with the role, the capital after it, and
the rest of what names the member. -/
structure Parts where
  namePrefix : String
  role : AccessorRole
  capital : Char
  rest : List Char

/-- Takes a method name apart after one of the prefixes. A name with a line feed follows no
convention. -/
def partsWith? (method : List Char) (convention : String × AccessorRole) : Option Parts :=
  match afterChars? convention.1.toList method with
  | some (c :: rest) =>
    if c.isUpper && !rest.contains '\n' then
      some ⟨convention.1, convention.2, c, beforeMarker rest⟩
    else
      none
  | _ => none

/-- Takes a method name apart. -/
def parts? (method : List Char) : Option Parts :=
  conventions.findSome? (partsWith? method)

/-- The name of the member that a method name names. A name in capitals only stays as it is, except
that of a constructed type; any other name starts with a small letter. -/
def Parts.member (p : Parts) : List Char :=
  if p.role ≠ .factory ∧ (p.capital :: p.rest).all fun c => !isLowercase c then
    p.capital :: p.rest
  else
    p.capital.toLower :: p.rest

/-- Reads the name of a method with the given descriptor. An explicit target takes the place of the
one that the name gives. -/
def ofMethod? (method : String) (value : Option String) (desc : MethodDescriptor) :
    Option AccessorName := do
  let parts ← parts? method.toList
  if parts.role.fits desc then
    some ⟨parts.role, method, value.getD (String.ofList parts.member), parts.namePrefix⟩
  else
    none

/-- The accessor for an explicitly named field, whose role the descriptor gives. -/
def ofField? (method value : String) (desc : MethodDescriptor) : Option AccessorName :=
  if AccessorRole.getter.fits desc then some ⟨.getter, method, value, ""⟩
  else if AccessorRole.setter.fits desc then some ⟨.setter, method, value, ""⟩
  else none

/-- The name of constructors. -/
def constructorName : String := "<init>"

/-- The accessor for an explicitly named method or constructor. -/
def ofTarget (method value : String) : AccessorName :=
  ⟨if value = constructorName then .factory else .proxy, method, value, ""⟩

end AccessorName

end RangeIndex.Mixin
