import RangeIndex.Member
import RangeIndex.Span

/-!
# Annotations in source files

An annotation is used on a declaration, its site. Its arguments are absent, a single value, or
named members in the order in which they are written; a value is a string literal, a class literal,
an array of values, or some other expression, of which only the text is known.
-/

namespace RangeIndex.Mixin

/-- A string literal: where it stands, its text in the source with its quotes, and its value. -/
structure StringLiteral where
  span : Span
  escaped : String
  value : String
deriving DecidableEq, Repr, Inhabited

/-- The literal that has its value between quotes as its source text. -/
def StringLiteral.quoted (start : UInt32) (value : String) : StringLiteral :=
  let escaped := "\"" ++ value ++ "\""
  ⟨⟨start, UInt32.ofNatClamp escaped.utf8ByteSize⟩, escaped, value⟩

/-- The value of an annotation member. -/
inductive AnnotationValue where
  | string (literal : StringLiteral)
  | type (internalName : String)
  | array (items : List AnnotationValue)
  | other (text : String)
deriving Repr, Inhabited

namespace AnnotationValue

/-- The members of an array, and any other value alone. -/
def elements : AnnotationValue → List AnnotationValue
  | .array items => items
  | value => [value]

mutual

/-- The value as it would be written in a source file. -/
def display : AnnotationValue → String
  | .string literal => literal.escaped
  | .type internalName => internalName ++ ".class"
  | .array items => "\x7b" ++ displayItems items ++ "\x7d"
  | .other text => text

/-- The values with commas between them. -/
def displayItems : List AnnotationValue → String
  | [] => ""
  | [value] => display value
  | value :: next :: rest => display value ++ ", " ++ displayItems (next :: rest)

end

end AnnotationValue

/-- The arguments of an annotation. -/
inductive AnnotationArgs where
  | marker
  | single (value : AnnotationValue)
  | named (members : List (String × AnnotationValue))
deriving Repr, Inhabited

/-- An annotation at an offset of a source file. -/
structure AnnotationUse where
  typeName : String
  start : UInt32
  args : AnnotationArgs
deriving Repr, Inhabited

/-- A declaration that an annotation is used on. One field declaration may declare several names. -/
inductive Site where
  | type (name : String)
  | method (member : Member)
  | field (owner : String) (fragments : List (String × String))
deriving DecidableEq, Repr, Inhabited

namespace Site

/-- The site as text for messages. -/
def display : Site → String
  | .type name => "type " ++ name
  | .method m => "method " ++ m.owner ++ "." ++ m.name ++ m.desc
  | .field owner fragments =>
    "field " ++ owner ++ "." ++ ",".intercalate (fragments.map Prod.fst)

/-- The type that the site is, or belongs to. -/
def owner : Site → String
  | .type name => name
  | .method m => m.owner
  | .field owner _ => owner

end Site

/-- The annotations that have a meaning here. -/
inductive AnnotationKind where
  | mixin
  | accessor
  | invoker
  | shadow
  | overwrite
  | interface
deriving DecidableEq, Repr

namespace AnnotationKind

/-- All kinds of annotations. -/
def all : List AnnotationKind :=
  [.mixin, .accessor, .invoker, .shadow, .overwrite, .interface]

/-- The package of the annotation types. -/
def package : String := "org/spongepowered/asm/mixin/"

/-- The name of the annotation type in its package. -/
def simpleName : AnnotationKind → String
  | .mixin => "Mixin"
  | .accessor => "Accessor"
  | .invoker => "Invoker"
  | .shadow => "Shadow"
  | .overwrite => "Overwrite"
  | .interface => "Interface"

/-- The internal name of the annotation type. -/
def typeName (k : AnnotationKind) : String :=
  match k with
  | .accessor | .invoker => package ++ "gen/" ++ k.simpleName
  | _ => package ++ k.simpleName

/-- The kind whose annotation type has the given internal name. -/
def ofTypeName? (name : String) : Option AnnotationKind :=
  all.find? fun k => k.typeName == name

/-- The annotation as it is written in a source file. -/
def display (k : AnnotationKind) : String :=
  "@" ++ k.simpleName

end AnnotationKind

end RangeIndex.Mixin
