import RangeIndex.Index.Draft
import RangeIndex.Mixin.AccessorName
import RangeIndex.Mixin.Arguments
import RangeIndex.Mixin.Registry

/-!
# Resolving annotations

Every source file is worked through with the registry that the files of a run share and the draft
of its own index. `process` handles one annotation: it checks the arguments, then changes the
registry or adds to the draft. A rejected annotation is reported, and is an error only if the
options make it fatal.

References to shadows go to the target of the mixin: `fieldOwner` for fields, and
`methodReference`, which also trims the prefix of a prefixed name off the reference.
-/

namespace RangeIndex.Mixin

/-- How annotations are handled. -/
structure Options where
  /-- Whether a rejected annotation is an error. -/
  fatal : Bool
  /-- The prefix of shadows that name none. -/
  shadowPrefix : String
deriving DecidableEq, Repr

/-- The prefix of shadows unless another is asked for. -/
def defaultShadowPrefix : String := "shadow$"

/-- The options unless others are asked for. -/
def Options.default : Options := ⟨true, defaultShadowPrefix⟩

/-- What handling annotations works on: the registry, the draft of the file at hand, and the
events so far. -/
structure Workspace where
  registry : Registry
  draft : Draft
  events : List MixinEvent

/-- A step of handling annotations. A step that fails keeps what it has done to the workspace. -/
abbrev Resolve := EStateM ResolveError Workspace

/-- An annotation of a kind that has a meaning, with the site it is used on. -/
structure Task where
  kind : AnnotationKind
  use : AnnotationUse
  site : Site

namespace Task

/-- Rejects the annotation. -/
def reject {α : Type} (t : Task) (rejection : Rejection) : Resolve α := do
  throw ⟨⟨(← get).draft.filename, t.use.start⟩, t.kind, rejection⟩

/-- Rejects the annotation if its arguments are wrong. -/
def withArgs {α : Type} (t : Task) (args : Except ArgumentError α) : Resolve α :=
  match args with
  | .ok a => pure a
  | .error cause => t.reject (.invalidArgument cause)

end Task

/-- Reports an event. -/
def report (e : MixinEvent) : Resolve Unit :=
  modify fun w => { w with events := w.events ++ [e] }

/-- Changes the draft. -/
def modifyDraft (f : Draft → Draft) : Resolve Unit :=
  modify fun w => { w with draft := f w.draft }

/-- Changes the registry's entry of a type, which is created if there is none. -/
def upsert (owner : String) (f : Info → Info) : Resolve Unit :=
  modify fun w => { w with registry := w.registry.upsert owner f }

/-- Changes the registry's entry of the mixin that the site belongs to. -/
def Task.updateOwner (t : Task) (f : Info → Info) : Resolve Unit := do
  match (← get).registry.update? t.site.owner f with
  | some registry => modify fun w => { w with registry := registry }
  | none => t.reject (.unresolvedOwner t.site)

/-- A string literal that refers to something. -/
def StringLiteral.occurrence (literal : StringLiteral) (referent : Referent) : Occurrence :=
  ⟨literal.span, literal.escaped, referent⟩

/-- `@Mixin` on a type registers the type with its targets. A target that is named by a string is
an occurrence of that type. -/
def resolveMixin (t : Task) : Resolve Unit := do
  match t.site with
  | .type owner =>
    let targets ← t.withArgs (MixinTargets.ofArgs t.use.args)
    modifyDraft fun d => targets.literals.foldl
      (fun d literal =>
        d.addOccurrence (literal.occurrence (.typeLiteral (internalName literal.value)))) d
    report (.registered owner targets.names.eraseDups)
    upsert owner fun info => info.setTargets targets.names
  | site => t.reject (.invalidSite site)

/-- The accessor that a method of an annotated accessor is. The name of the method decides, and
only if it follows no convention, the explicit target. -/
def accessorName? (kind : AnnotationKind) (method : String) (value : Option String)
    (desc : MethodDescriptor) : Option AccessorName :=
  (AccessorName.ofMethod? method value desc).or <|
    match kind, value with
    | _, none => none
    | .invoker, some value => some (AccessorName.ofTarget method value)
    | _, some value => AccessorName.ofField? method value desc

/-- What an accessor adds to the draft: a link to the member that its name names, or else an
occurrence of the explicit target. -/
def recordAccessor (t : Task) (method : Member) (target : String) (desc : MethodDescriptor)
    (accessor : AccessorName) (value : Option StringLiteral) : Resolve Unit := do
  let link (name desc : String) : Resolve Unit :=
    modifyDraft fun d => d.addLink ⟨method, ⟨target, name, desc⟩, accessor.namePrefix⟩
  let literal (l : StringLiteral) (referent : Referent) : Resolve Unit :=
    modifyDraft fun d => d.addOccurrence (l.occurrence referent)
  match accessor.role, value with
  | .getter, none => link accessor.target desc.result.display
  | .getter, some l => literal l (.fieldLiteral target accessor.target)
  | .setter, value =>
    match desc.params, value with
    | [], _ => t.reject (.unresolvedName method)
    | param :: _, none => link accessor.target param.display
    | _ :: _, some l => literal l (.fieldLiteral target accessor.target)
  | .proxy, none => link accessor.target method.desc
  | .proxy, some l => literal l (.methodLiteral ⟨target, accessor.target, method.desc⟩)
  | .factory, none => link AccessorName.constructorName desc.withVoidReturn.display
  | .factory, some l =>
    if l.value = AccessorName.constructorName then
      pure ()
    else if internalName l.value = target then
      literal l (.typeLiteral target)
    else
      t.reject (.targetMismatch target (internalName l.value))

/-- `@Accessor` or `@Invoker` on a method of a mixin with one target. With several targets it is
unknown which one is meant, and nothing is recorded. -/
def resolveAccessor (t : Task) : Resolve Unit := do
  match t.site with
  | .method method =>
    let value ← t.withArgs (accessorArgs t.use.args)
    match (← get).registry.getMixin? method.owner with
    | none => t.reject (.unresolvedOwner t.site)
    | some info =>
      match info.target? with
      | none => report (.accessorSkipped method.owner method.name)
      | some target =>
        match MethodDescriptor.parse? method.desc with
        | none => t.reject (.unresolvedName method)
        | some desc =>
          match accessorName? t.kind method.name (value.map StringLiteral.value) desc with
          | none => t.reject (.unresolvedName method)
          | some accessor =>
            recordAccessor t { method with owner := info.owner } target desc accessor value
  | site => t.reject (.invalidSite site)

/-- `@Shadow` on fields or a method of a mixin. -/
def resolveShadow (options : Options) (t : Task) : Resolve Unit := do
  let namePrefix ← t.withArgs (shadowArgs options.shadowPrefix t.use.args)
  let add (info : Info) (member : String × String) : Info :=
    info.addShadow ⟨member.1, member.2, namePrefix⟩
  match t.site with
  | .field _ fragments => t.updateOwner fun info => fragments.foldl add info
  | .method m => t.updateOwner fun info => add info (m.name, m.desc)
  | site => t.reject (.invalidSite site)

/-- `@Overwrite` on a method of a mixin. -/
def resolveOverwrite (t : Task) : Resolve Unit := do
  t.withArgs (overwriteArgs t.use.args)
  match t.site with
  | .method m => t.updateOwner fun info => info.addOverwrite m.name m.desc
  | site => t.reject (.invalidSite site)

/-- `@Interface` on a type, which need not be a mixin yet. -/
def resolveInterface (t : Task) : Resolve Unit := do
  match t.site with
  | .type owner =>
    let (namePrefix, interface) ← t.withArgs (interfaceArgs t.use.args)
    report (.interfaceRegistered owner interface namePrefix)
    upsert owner fun info => info.addInterface (SoftInterface.new namePrefix interface)
  | site => t.reject (.invalidSite site)

/-- Handles an annotation of a known kind. -/
def resolve (options : Options) (t : Task) : Resolve Unit :=
  match t.kind with
  | .mixin => resolveMixin t
  | .accessor | .invoker => resolveAccessor t
  | .shadow => resolveShadow options t
  | .overwrite => resolveOverwrite t
  | .interface => resolveInterface t

/-- Handles an annotation. One of an unknown kind is ignored, and one that is rejected is reported
and is an error if the options make it fatal. -/
def process (options : Options) (use : AnnotationUse) (site : Site) : Resolve Unit :=
  match AnnotationKind.ofTypeName? use.typeName with
  | none => pure ()
  | some kind => fun w =>
    match resolve options ⟨kind, use, site⟩ w with
    | .ok () w => .ok () w
    | .error e w =>
      let w := { w with events := w.events ++ [.rejected e] }
      if options.fatal then .error e w else .ok () w

/-- The type that a reference to a field goes to. -/
def fieldOwner (r : Registry) (owner name desc : String) : String :=
  (r.shadedOwner? owner name desc).getD owner

/-- A reference to a method in the source. -/
structure MethodReference where
  span : Span
  text : String
  member : Member
deriving DecidableEq, Repr

namespace MethodReference

/-- The target and the prefix with which a reference to a shadow is recorded. -/
def redirection? (r : Registry) (m : Member) : Option (String × String) := do
  let info ← r.get? m.owner
  let target ← info.target?
  let shadow ← info.findShadow? m.name m.desc
  return (target, shadow.namePrefix)

/-- The number of units that a prefix takes up in a reference. One that is too long for a span to
hold counts for nothing. -/
def prefixLength (namePrefix : String) : Nat :=
  if namePrefix.utf8ByteSize < UInt32.size then namePrefix.utf8ByteSize else 0

/-- The span without the given number of units at its start. -/
def trimSpan (s : Span) (count : Nat) : Span :=
  ⟨UInt32.ofNatClamp (s.start.toNat + count), UInt32.ofNat (s.length.toNat - count)⟩

/-- The occurrence that records a reference against a target, without the prefix of its name. -/
def redirect (ref : MethodReference) (target namePrefix : String) : Occurrence :=
  let recorded (name : String) : Referent := .method ⟨target, name, ref.member.desc⟩
  match Text.after? namePrefix ref.member.name with
  | some name =>
    if namePrefix.isEmpty then
      ⟨ref.span, ref.text, recorded ref.member.name⟩
    else
      ⟨trimSpan ref.span (prefixLength namePrefix), (Text.after? namePrefix ref.text).getD ref.text,
        recorded name⟩
  | none => ⟨ref.span, ref.text, recorded ref.member.name⟩

end MethodReference

/-- Records a reference to a shadowed method against the target of the mixin. Any other reference
is left alone, which the result tells. -/
def methodReference (ref : MethodReference) : Resolve Bool := do
  match MethodReference.redirection? (← get).registry ref.member with
  | none => return false
  | some (target, namePrefix) =>
    modifyDraft fun d => d.addOccurrence (ref.redirect target namePrefix)
    return true

end RangeIndex.Mixin
