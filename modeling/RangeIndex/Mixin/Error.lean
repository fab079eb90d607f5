import RangeIndex.Log
import RangeIndex.Mixin.AnnotationUse
import RangeIndex.Text.Inspect
import RangeIndex.Text.Numeral

/-!
# Rejected annotations

Why an annotation is rejected, with the messages, and what handling annotations reports.
-/

namespace RangeIndex.Mixin

/-- What is wrong with the arguments of an annotation. -/
inductive ArgumentError where
  /-- No target is named. -/
  | noTarget
  /-- A target is not a class literal. -/
  | notTypeLiterals (found : AnnotationValue)
  /-- A member is not a string literal. -/
  | notString (member : String) (found : AnnotationValue)
  /-- The interface is not a class literal. -/
  | notInterface (found : AnnotationValue)
  /-- The annotation has no member of this name. -/
  | unknownMember (name : String)
  /-- The annotation has no value. -/
  | noValueMember
  /-- The annotation takes no value. -/
  | unexpectedValue (found : AnnotationValue)
  /-- The interface or its prefix is missing. -/
  | missingMember

/-- The message for wrong arguments. -/
def ArgumentError.message : ArgumentError → String
  | .noTarget => "@Mixin must name at least one target"
  | .notTypeLiterals found => "value must be class literals, found " ++ found.display
  | .notString member found => member ++ " must be a string literal, found " ++ found.display
  | .notInterface found => "iface must be a class literal, found " ++ found.display
  | .unknownMember name => "unknown member " ++ name
  | .noValueMember => "@Shadow has no value member"
  | .unexpectedValue found => "unexpected value " ++ found.display
  | .missingMember => "@Interface needs iface and prefix members"

/-- Why an annotation is rejected. -/
inductive Rejection where
  /-- The type that the site belongs to was not declared a mixin. -/
  | unresolvedOwner (site : Site)
  /-- The name of an accessor method does not say which member it stands for. -/
  | unresolvedName (method : Member)
  /-- The arguments are wrong. -/
  | invalidArgument (cause : ArgumentError)
  /-- The annotation has no meaning on such a site. -/
  | invalidSite (site : Site)
  /-- A constructed type is not the target of the mixin. -/
  | targetMismatch (expected found : String)

/-- An offset of a source file. -/
structure Position where
  filename : String
  offset : UInt32
deriving DecidableEq, Repr

/-- The position as text. -/
def Position.display (p : Position) : String :=
  p.filename ++ " @ " ++ Text.writeNumeral p.offset

/-- A rejected annotation. -/
structure ResolveError where
  position : Position
  kind : AnnotationKind
  rejection : Rejection

/-- The message for a rejected annotation. -/
def ResolveError.message (e : ResolveError) : String :=
  let mark := e.kind.display
  e.position.display ++ ": " ++
    match e.rejection with
    | .unresolvedOwner site =>
      mark ++ " on " ++ site.display ++ ": owner " ++ site.owner ++ " has no @Mixin"
    | .unresolvedName m =>
      mark ++ " on " ++ m.owner ++ "." ++ m.name ++ m.desc ++
        " does not match a valid naming format"
    | .invalidArgument cause => "invalid " ++ mark ++ " argument: " ++ cause.message
    | .invalidSite site => mark ++ " is not valid on " ++ site.display
    | .targetMismatch expected found =>
      mark ++ " targets " ++ found ++ " but the mixin targets " ++ expected

/-- What handling annotations reports. -/
inductive MixinEvent where
  | rejected (error : ResolveError)
  | registered (owner : String) (targets : List String)
  | interfaceRegistered (owner interface namePrefix : String)
  | accessorSkipped (owner method : String)

/-- The log record of an event. -/
def MixinEvent.record : MixinEvent → Log.Record
  | .rejected e =>
    ⟨.warn, "unresolved mixin annotation",
      [("filename", .text e.position.filename), ("offset", .number e.position.offset.toNat),
        ("error", .text e.message)]⟩
  | .registered owner targets =>
    ⟨.debug, "registered mixin",
      [("owner", .text owner), ("targets", .text (Text.inspectSet targets))]⟩
  | .interfaceRegistered owner interface namePrefix =>
    ⟨.debug, "registered soft interface",
      [("owner", .text owner), ("iface", .text interface), ("prefix", .text namePrefix)]⟩
  | .accessorSkipped owner method =>
    ⟨.debug, "skipping accessor on multi-target mixin",
      [("owner", .text owner), ("method", .text method)]⟩

end RangeIndex.Mixin
