/-!
# Type and method descriptors

A field type is a base type, written as one letter, an object type, written as its internal name
between `L` and `;`, or an array, written as `[` before its element type. A method descriptor is
the parameter types between parentheses, followed by the return type or `V`.

`FieldType.parse?` reads one field type off the front of a text, and `MethodDescriptor.parse?`
reads a whole text. The parameters end at the first closing parenthesis.
-/

namespace RangeIndex.Mixin

/-- The types that are not references. -/
inductive BaseType where
  | byte
  | char
  | double
  | float
  | int
  | long
  | short
  | boolean
deriving DecidableEq, Repr

namespace BaseType

/-- The letter of a base type. -/
def code : BaseType → Char
  | .byte => 'B'
  | .char => 'C'
  | .double => 'D'
  | .float => 'F'
  | .int => 'I'
  | .long => 'J'
  | .short => 'S'
  | .boolean => 'Z'

/-- The base type that a letter stands for. -/
def ofCode? : Char → Option BaseType
  | 'B' => some .byte
  | 'C' => some .char
  | 'D' => some .double
  | 'F' => some .float
  | 'I' => some .int
  | 'J' => some .long
  | 'S' => some .short
  | 'Z' => some .boolean
  | _ => none

end BaseType

/-- The type of a field or parameter. -/
inductive FieldType where
  | base (b : BaseType)
  | object (name : List Char)
  | array (element : FieldType)
deriving DecidableEq, Repr

namespace FieldType

/-- Writes a field type. -/
def render : FieldType → List Char
  | .base b => [b.code]
  | .object name => 'L' :: (name ++ [';'])
  | .array element => '[' :: render element

/-- The field type as text. -/
def display (t : FieldType) : String :=
  String.ofList t.render

/-- Reads a field type and gives what follows it. -/
def parse? : List Char → Option (FieldType × List Char)
  | [] => none
  | '[' :: rest => (parse? rest).map fun (t, rest) => (.array t, rest)
  | 'L' :: rest =>
    match rest.dropWhile (· != ';') with
    | [] => none
    | _ :: tail =>
      let name := rest.takeWhile (· != ';')
      if name.isEmpty then none else some (.object name, tail)
  | c :: rest => (BaseType.ofCode? c).map fun b => (.base b, rest)

theorem length_parse? {cs rest : List Char} {t : FieldType} (h : parse? cs = some (t, rest)) :
    rest.length < cs.length := by
  fun_induction parse? cs generalizing t rest with
  | case1 => simp at h
  | case2 cs ih =>
    obtain ⟨⟨u, r⟩, hu, hr⟩ := Option.map_eq_some_iff.1 h
    cases hr
    have := ih hu
    simp only [List.length_cons]
    omega
  | case3 => simp at h
  | case4 => simp at h
  | case5 cs c tail hd =>
    cases h
    have := (List.dropWhile_suffix (· != ';') (l := cs)).length_le
    simp only [hd, List.length_cons] at this ⊢
    omega
  | case6 =>
    obtain ⟨b, _, hr⟩ := Option.map_eq_some_iff.1 h
    cases hr
    simp

/-- Reads a text that is a sequence of field types. -/
def parseAll? (cs : List Char) : Option (List FieldType) :=
  if cs.isEmpty then
    some []
  else
    match _h : parse? cs with
    | none => none
    | some (t, rest) => (parseAll? rest).map (t :: ·)
termination_by cs.length
decreasing_by exact length_parse? _h

end FieldType

/-- The type that a method returns. -/
inductive ReturnType where
  | void
  | value (type : FieldType)
deriving DecidableEq, Repr

namespace ReturnType

/-- Writes a return type. -/
def render : ReturnType → List Char
  | .void => ['V']
  | .value type => type.render

/-- Reads a text that is a return type. -/
def parse? (cs : List Char) : Option ReturnType :=
  match cs with
  | ['V'] => some .void
  | cs =>
    match FieldType.parse? cs with
    | some (type, []) => some (.value type)
    | _ => none

/-- The return type as text. -/
def display (r : ReturnType) : String :=
  String.ofList r.render

end ReturnType

/-- The parameter types and the return type of a method. -/
structure MethodDescriptor where
  params : List FieldType
  result : ReturnType
deriving DecidableEq, Repr

namespace MethodDescriptor

/-- Writes a method descriptor. -/
def render (d : MethodDescriptor) : List Char :=
  '(' :: (d.params.flatMap FieldType.render ++ ')' :: d.result.render)

/-- The method descriptor as text. -/
def display (d : MethodDescriptor) : String :=
  String.ofList d.render

/-- Reads a text that is a method descriptor. -/
def parseChars? : List Char → Option MethodDescriptor
  | '(' :: rest =>
    match rest.dropWhile (· != ')') with
    | [] => none
    | _ :: result => do
      let params ← FieldType.parseAll? (rest.takeWhile (· != ')'))
      let result ← ReturnType.parse? result
      return ⟨params, result⟩
  | _ => none

/-- Reads a text that is a method descriptor. -/
def parse? (desc : String) : Option MethodDescriptor :=
  parseChars? desc.toList

/-- Whether the method returns nothing. -/
def returnsVoid (d : MethodDescriptor) : Bool :=
  d.result = .void

/-- The descriptor with the same parameters that returns nothing. -/
def withVoidReturn (d : MethodDescriptor) : MethodDescriptor :=
  { d with result := .void }

end MethodDescriptor

end RangeIndex.Mixin
