import RangeIndex.Mixin.Error

/-!
# Arguments of annotations

What each annotation takes from its arguments. A member that is given twice counts once for its
last value, except that the targets of a mixin add up. Reading stops at the first member that is
wrong.
-/

namespace RangeIndex.Mixin

/-- Requires a string literal. -/
def AnnotationValue.asString (member : String) : AnnotationValue →
    Except ArgumentError StringLiteral
  | .string literal => .ok literal
  | value => .error (.notString member value)

/-- The internal name of a type, whose packages may be separated by dots. -/
def internalName (name : String) : String :=
  name.map fun c => if c = '.' then '/' else c

/-- The targets of a mixin in order, and the string literals among them. -/
structure MixinTargets where
  names : List String
  literals : List StringLiteral

namespace MixinTargets

/-- No targets. -/
def empty : MixinTargets := ⟨[], []⟩

/-- Adds the types that class literals name. -/
def addTypes (t : MixinTargets) : List AnnotationValue → Except ArgumentError MixinTargets
  | [] => .ok t
  | .type name :: rest => addTypes { t with names := t.names ++ [name] } rest
  | value :: _ => .error (.notTypeLiterals value)

/-- Adds the types that string literals name. -/
def addStrings (t : MixinTargets) : List AnnotationValue → Except ArgumentError MixinTargets
  | [] => .ok t
  | .string literal :: rest =>
    addStrings ⟨t.names ++ [internalName literal.value], t.literals ++ [literal]⟩ rest
  | value :: _ => .error (.notString "targets" value)

/-- Adds the targets of one member. -/
def addMember (t : MixinTargets) (member : String) (value : AnnotationValue) :
    Except ArgumentError MixinTargets :=
  match member with
  | "priority" | "remap" => .ok t
  | "value" => t.addTypes value.elements
  | "targets" => t.addStrings value.elements
  | other => .error (.unknownMember other)

/-- Adds the targets of several members. -/
def addMembers (t : MixinTargets) :
    List (String × AnnotationValue) → Except ArgumentError MixinTargets
  | [] => .ok t
  | (member, value) :: rest => do addMembers (← t.addMember member value) rest

/-- The targets that the arguments of a mixin name. -/
def ofArgs : AnnotationArgs → Except ArgumentError MixinTargets
  | .marker => .error .noTarget
  | .single value => empty.addTypes value.elements
  | .named members => empty.addMembers members

end MixinTargets

/-- The explicit target of an accessor: the last `value` among the members, if there is one. -/
def accessorValue (found : Option StringLiteral) :
    List (String × AnnotationValue) → Except ArgumentError (Option StringLiteral)
  | [] => .ok found
  | (member, value) :: rest =>
    match member with
    | "remap" => accessorValue found rest
    | "value" => do accessorValue (some (← value.asString "value")) rest
    | other => .error (.unknownMember other)

/-- The explicit target of an accessor. -/
def accessorArgs : AnnotationArgs → Except ArgumentError (Option StringLiteral)
  | .marker => .ok none
  | .single value => (value.asString "value").map some
  | .named members => accessorValue none members

/-- The prefix of a shadow: the last `prefix` among the members, or the given one. -/
def shadowMembers (namePrefix : String) :
    List (String × AnnotationValue) → Except ArgumentError String
  | [] => .ok namePrefix
  | (member, value) :: rest =>
    match member with
    | "remap" | "aliases" => shadowMembers namePrefix rest
    | "prefix" => do shadowMembers (← value.asString "prefix").value rest
    | other => .error (.unknownMember other)

/-- The prefix of a shadow, which is the given one unless the arguments name another. -/
def shadowArgs (namePrefix : String) : AnnotationArgs → Except ArgumentError String
  | .marker => .ok namePrefix
  | .single _ => .error .noValueMember
  | .named members => shadowMembers namePrefix members

/-- The members that an overwrite may have. -/
def overwriteMembers : List String :=
  ["constraints", "remap", "aliases"]

/-- Accepts the arguments of an overwrite, none of which matters. -/
def overwriteArgs : AnnotationArgs → Except ArgumentError Unit
  | .marker => .ok ()
  | .single value => .error (.unexpectedValue value)
  | .named members =>
    match members.find? fun (member, _) => !overwriteMembers.contains member with
    | some (other, _) => .error (.unknownMember other)
    | none => .ok ()

/-- The interface and the prefix among the members, the last ones given. -/
def interfaceMembers (namePrefix interface : Option String) :
    List (String × AnnotationValue) → Except ArgumentError (String × String)
  | [] =>
    match namePrefix, interface with
    | some namePrefix, some interface => .ok (namePrefix, interface)
    | _, _ => .error .missingMember
  | (member, value) :: rest =>
    match member with
    | "unique" | "remap" => interfaceMembers namePrefix interface rest
    | "prefix" => do interfaceMembers (some (← value.asString "prefix").value) interface rest
    | "iface" =>
      match value with
      | .type name => interfaceMembers namePrefix (some name) rest
      | other => .error (.notInterface other)
    | other => .error (.unknownMember other)

/-- The prefix and the interface that the arguments name. -/
def interfaceArgs : AnnotationArgs → Except ArgumentError (String × String)
  | .named members => interfaceMembers none none members
  | _ => .error .missingMember

end RangeIndex.Mixin
