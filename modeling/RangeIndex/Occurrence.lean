import RangeIndex.Member
import RangeIndex.Record.Basic

/-!
# Occurrences

An occurrence is a stretch of source text that refers to something: a package, a type, a field, a
method, a parameter or a local variable. A literal is a string in the source that names a type,
field or method.

`Occurrence.read` and `Occurrence.write` turn an occurrence into the fields that follow its token
in a record and back.
-/

namespace RangeIndex

open RangeIndex.Text (inspect writeNumeral)

/-- The kinds of occurrence. -/
inductive OccurrenceKind where
  | package
  | type
  | typeLiteral
  | field
  | fieldLiteral
  | method
  | methodLiteral
  | parameter
  | localVariable
deriving DecidableEq, Repr

namespace OccurrenceKind

/-- All kinds of occurrence. -/
def all : List OccurrenceKind :=
  [.package, .type, .typeLiteral, .field, .fieldLiteral, .method, .methodLiteral, .parameter,
    .localVariable]

/-- The word that starts a record of this kind. -/
def token : OccurrenceKind → String
  | .package => "package"
  | .type => "class"
  | .typeLiteral => "class_literal"
  | .field => "field"
  | .fieldLiteral => "field_literal"
  | .method => "method"
  | .methodLiteral => "method_literal"
  | .parameter => "parameter"
  | .localVariable => "local_variable"

/-- The kind that a token names. -/
def ofToken? (token : String) : Option OccurrenceKind :=
  all.find? fun k => k.token == token

/-- The number of fields that describe what an occurrence of this kind refers to. -/
def payloadSize : OccurrenceKind → Nat
  | .package => 0
  | .typeLiteral | .field => 1
  | .type | .fieldLiteral => 2
  | .method | .methodLiteral => 3
  | .parameter => 4
  | .localVariable => 5

end OccurrenceKind

/-- What an occurrence refers to. The member of a parameter or local variable is the method that
encloses it. -/
inductive Referent where
  | package
  | type (internalName : String) (qualified : Bool)
  | typeLiteral (internalName : String)
  | field (owner : String)
  | fieldLiteral (owner name : String)
  | method (member : Member)
  | methodLiteral (member : Member)
  | parameter (enclosing : Member) (index : UInt32)
  | localVariable (enclosing : Member) (index : UInt32) (varType : String)
deriving DecidableEq, Repr, Inhabited

namespace Referent

/-- The kind of occurrence that refers to this. -/
def kind : Referent → OccurrenceKind
  | .package => .package
  | .type .. => .type
  | .typeLiteral .. => .typeLiteral
  | .field .. => .field
  | .fieldLiteral .. => .fieldLiteral
  | .method .. => .method
  | .methodLiteral .. => .methodLiteral
  | .parameter .. => .parameter
  | .localVariable .. => .localVariable

/-- The fields that describe a member. -/
def memberFields (m : Member) : List String :=
  [m.owner, m.name, m.desc]

/-- The fields that describe what is referred to. A type's flag stands before its name. -/
def payload : Referent → List String
  | .package => []
  | .type internalName qualified => [Record.writeFlag qualified, internalName]
  | .typeLiteral internalName => [internalName]
  | .field owner => [owner]
  | .fieldLiteral owner name => [owner, name]
  | .method member | .methodLiteral member => memberFields member
  | .parameter enclosing index => memberFields enclosing ++ [writeNumeral index]
  | .localVariable enclosing index varType =>
    memberFields enclosing ++ [writeNumeral index, varType]

/-- The labelled parts of a member. -/
def memberLabels (m : Member) : String :=
  ", Owner: " ++ m.owner ++ ", Name: " ++ m.name ++ ", Descriptor: " ++ m.desc

/-- The labelled parts of what is referred to. -/
def labels : Referent → String
  | .package => ""
  | .type internalName qualified =>
    ", Internal: " ++ internalName ++ ", Qualified: " ++ Record.writeFlag qualified
  | .typeLiteral internalName => ", Internal: " ++ internalName
  | .field owner => ", Owner: " ++ owner
  | .fieldLiteral owner name => ", Owner: " ++ owner ++ ", Name: " ++ name
  | .method member | .methodLiteral member => memberLabels member
  | .parameter enclosing index => memberLabels enclosing ++ ", Index: " ++ writeNumeral index
  | .localVariable enclosing index varType =>
    memberLabels enclosing ++ ", Index: " ++ writeNumeral index ++ ", VarType: " ++ varType

end Referent

/-- A reference in the source: where it stands, its text, and what it refers to. -/
structure Occurrence where
  span : Span
  text : String
  referent : Referent
deriving DecidableEq, Repr, Inhabited

namespace Occurrence

/-- The kind of an occurrence. -/
def kind (o : Occurrence) : OccurrenceKind :=
  o.referent.kind

/-- The occurrence as text for messages. -/
def display (o : Occurrence) : String :=
  o.kind.token ++ "[" ++ writeNumeral o.span.start ++ ":" ++ writeNumeral o.span.length ++ ", " ++
    inspect o.text ++ o.referent.labels ++ "]"

/-- The fields after the token of the occurrence's record. -/
def write (o : Occurrence) : List String :=
  Record.writeSpan o.span ++ o.text :: o.referent.payload

/-- Reads an occurrence of a known kind. -/
def ofFields (kind : OccurrenceKind) (fields : List String) : Except RecordError Occurrence :=
  match kind, fields with
  | .package, [start, length, text] => do
    return ⟨← Record.readSpan start length, text, .package⟩
  | .type, [start, length, text, qualified, internalName] => do
    let span ← Record.readSpan start length
    return ⟨span, text, .type internalName (← Record.readFlag qualified)⟩
  | .typeLiteral, [start, length, text, internalName] => do
    return ⟨← Record.readSpan start length, text, .typeLiteral internalName⟩
  | .field, [start, length, text, owner] => do
    return ⟨← Record.readSpan start length, text, .field owner⟩
  | .fieldLiteral, [start, length, text, owner, name] => do
    return ⟨← Record.readSpan start length, text, .fieldLiteral owner name⟩
  | .method, [start, length, text, owner, name, desc] => do
    return ⟨← Record.readSpan start length, text, .method ⟨owner, name, desc⟩⟩
  | .methodLiteral, [start, length, text, owner, name, desc] => do
    return ⟨← Record.readSpan start length, text, .methodLiteral ⟨owner, name, desc⟩⟩
  | .parameter, [start, length, text, owner, name, desc, index] => do
    let span ← Record.readSpan start length
    return ⟨span, text, .parameter ⟨owner, name, desc⟩ (← Record.readNumber index)⟩
  | .localVariable, [start, length, text, owner, name, desc, index, varType] => do
    let span ← Record.readSpan start length
    return ⟨span, text, .localVariable ⟨owner, name, desc⟩ (← Record.readNumber index) varType⟩
  | kind, fields => .error (.arity kind.token (3 + kind.payloadSize) fields.length)

/-- Reads an occurrence from its token and the fields after it. -/
def read (version : UInt32) (token : String) (fields : List String) :
    Except RecordError Occurrence := do
  Record.checkVersion version
  match OccurrenceKind.ofToken? token with
  | some kind => ofFields kind fields
  | none => throw (.unknownOccurrence token)

end Occurrence

end RangeIndex
