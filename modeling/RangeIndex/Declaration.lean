import RangeIndex.Record.Basic

/-!
# Declarations

A declaration is the span of a whole type or method. Its record's token is the name of its kind
followed by `def`, which keeps it apart from the occurrence tokens. Only a method's record has a
descriptor: writing a declaration drops the descriptor of any other kind.
-/

namespace RangeIndex

open RangeIndex.Text (writeNumeral)

/-- The kinds of declaration. -/
inductive DeclarationKind where
  | type
  | method
  | enumeration
  | annotationType
  | interface
  | record
deriving DecidableEq, Repr

namespace DeclarationKind

/-- All kinds of declaration. -/
def all : List DeclarationKind :=
  [.type, .method, .enumeration, .annotationType, .interface, .record]

/-- The name of a kind. -/
def name : DeclarationKind → String
  | .type => "class"
  | .method => "method"
  | .enumeration => "enum"
  | .annotationType => "annotation"
  | .interface => "interface"
  | .record => "record"

/-- The kind that has the given name. -/
def ofName? (name : String) : Option DeclarationKind :=
  all.find? fun k => k.name == name

/-- The kind's name in comments. -/
def label : DeclarationKind → String
  | .type => "Class"
  | .method => "Method"
  | .enumeration => "Enum"
  | .annotationType => "Annotation"
  | .interface => "Interface"
  | .record => "Record"

/-- The word that starts a record of this kind. -/
def token (k : DeclarationKind) : String :=
  k.name ++ "def"

/-- The number of fields of a record of this kind. -/
def fieldCount (k : DeclarationKind) : Nat :=
  if k = .method then 4 else 3

end DeclarationKind

/-- The span of a whole declaration. -/
structure Declaration where
  kind : DeclarationKind
  span : Span
  name : String
  desc : Option String
deriving DecidableEq, Repr

namespace Declaration

/-- The declaration as text for comments. -/
def display (d : Declaration) : String :=
  d.kind.label ++ " " ++ d.name ++ d.desc.getD ""

/-- The fields after the token of the declaration's record. -/
def write (d : Declaration) : List String :=
  Record.writeSpan d.span ++ d.name :: if d.kind = .method then [d.desc.getD ""] else []

/-- Reads a declaration of a known kind. -/
def ofFields (kind : DeclarationKind) (fields : List String) : Except RecordError Declaration :=
  match kind, fields with
  | .method, [start, length, name, desc] => do
    return ⟨.method, ← Record.readSpan start length, name, some desc⟩
  | .method, fields => .error (.arity DeclarationKind.method.token 4 fields.length)
  | kind, [start, length, name] => do
    return ⟨kind, ← Record.readSpan start length, name, none⟩
  | kind, fields => .error (.arity kind.token kind.fieldCount fields.length)

/-- Reads a declaration from the name of its kind and the fields after the token. -/
def read (version : UInt32) (name : String) (fields : List String) :
    Except RecordError Declaration := do
  Record.checkVersion version
  match DeclarationKind.ofName? name with
  | some kind => ofFields kind fields
  | none => throw (.unknownDeclaration name)

/-- The declaration as its record keeps it: a method has a descriptor, nothing else has one. -/
def normalize (d : Declaration) : Declaration :=
  { d with desc := if d.kind = .method then some (d.desc.getD "") else none }

end Declaration

end RangeIndex
