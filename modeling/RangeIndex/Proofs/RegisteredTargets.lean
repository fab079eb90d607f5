import RangeIndex.Proofs.Rejection

/-!
# What an accepted `@Mixin` registers

The values in the arguments of an `@Mixin` that stand for targets are its references: the elements
of the single value, or of all members `value` and `targets` in their order. The arguments are read
exactly if every member is known and every reference is a literal of the kind that its member takes,
and what is read is what the references name (`MixinTargets.ofArgs_eq_ok_iff`).

The targets that the type had give way to those, and every string among the references becomes an
occurrence. Nothing else changes (`Registers`).
-/

namespace RangeIndex.Mixin

/-- The values in the arguments of an `@Mixin` that stand for targets. -/
def AnnotationArgs.references : AnnotationArgs → List AnnotationValue
  | .marker => []
  | .single value => value.elements
  | .named members => members.flatMap fun (member, value) =>
    if member = "value" ∨ member = "targets" then value.elements else []

namespace AnnotationValue

def IsType (v : AnnotationValue) : Prop := ∃ name, v = .type name

def IsString (v : AnnotationValue) : Prop := ∃ literal, v = .string literal

/-- The target that a value names: a string may have dots in the place of slashes. -/
def targetName? : AnnotationValue → Option String
  | .type name => some name
  | .string literal => some (internalName literal.value)
  | _ => none

def literal? : AnnotationValue → Option StringLiteral
  | .string literal => some literal
  | _ => none

end AnnotationValue

/-- A member that an `@Mixin` may have, with a value that it may have. -/
inductive IsMixinMember (member : String) (value : AnnotationValue) : Prop
  | types : member = "value" → (∀ v ∈ value.elements, v.IsType) → IsMixinMember member value
  | strings : member = "targets" → (∀ v ∈ value.elements, v.IsString) → IsMixinMember member value
  | ignored : member = "priority" ∨ member = "remap" → IsMixinMember member value

/-- The arguments are such as an `@Mixin` takes. -/
def AnnotationArgs.NameTargets : AnnotationArgs → Prop
  | .marker => False
  | .single value => ∀ v ∈ value.elements, v.IsType
  | .named members => ∀ m ∈ members, IsMixinMember m.1 m.2

namespace MixinTargets

open AnnotationValue (IsType IsString targetName? literal?)

/-- The targets with those that further values name. -/
def extend (t : MixinTargets) (values : List AnnotationValue) : MixinTargets :=
  ⟨t.names ++ values.filterMap targetName?, t.literals ++ values.filterMap literal?⟩

@[simp]
theorem extend_nil (t : MixinTargets) : t.extend [] = t := by
  simp [extend]

theorem extend_append (t : MixinTargets) (xs ys : List AnnotationValue) :
    t.extend (xs ++ ys) = (t.extend xs).extend ys := by
  simp [extend]

theorem addTypes_eq_ok_iff {values : List AnnotationValue} {t t' : MixinTargets} :
    t.addTypes values = .ok t' ↔ (∀ v ∈ values, v.IsType) ∧ t' = t.extend values := by
  fun_induction addTypes t values with
  | case1 t => simp [eq_comm]
  | case2 t name rest ih =>
    rw [ih]
    simp [extend, IsType, List.filterMap_cons, targetName?, literal?]
  | case3 t value rest hvalue =>
    simp only [reduceCtorEq, List.forall_mem_cons, false_iff]
    rintro ⟨⟨⟨name, rfl⟩, -⟩, -⟩
    exact hvalue name rfl

theorem addStrings_eq_ok_iff {values : List AnnotationValue} {t t' : MixinTargets} :
    t.addStrings values = .ok t' ↔ (∀ v ∈ values, v.IsString) ∧ t' = t.extend values := by
  fun_induction addStrings t values with
  | case1 t => simp [eq_comm]
  | case2 t literal rest ih =>
    rw [ih]
    simp [extend, IsString, targetName?, literal?]
  | case3 t value rest hvalue =>
    simp only [reduceCtorEq, List.forall_mem_cons, false_iff]
    rintro ⟨⟨⟨literal, rfl⟩, -⟩, -⟩
    exact hvalue literal rfl

theorem addMember_eq_ok_iff {t t' : MixinTargets} {member : String} {value : AnnotationValue} :
    t.addMember member value = .ok t' ↔
      IsMixinMember member value ∧
        t' = t.extend (AnnotationArgs.named [(member, value)]).references := by
  unfold addMember
  split
  · simp [IsMixinMember.ignored, AnnotationArgs.references, eq_comm]
  · simp [IsMixinMember.ignored, AnnotationArgs.references, eq_comm]
  · rw [addTypes_eq_ok_iff]
    refine and_congr ⟨.types rfl, fun h => ?_⟩ (by simp [AnnotationArgs.references])
    rcases h with ⟨-, h⟩ | ⟨hname, -⟩ | hname
    · exact h
    · exact absurd hname (by decide)
    · exact absurd hname (by decide)
  · rw [addStrings_eq_ok_iff]
    refine and_congr ⟨.strings rfl, fun h => ?_⟩ (by simp [AnnotationArgs.references])
    rcases h with ⟨hname, -⟩ | ⟨-, h⟩ | hname
    · exact absurd hname (by decide)
    · exact h
    · exact absurd hname (by decide)
  · rename_i hpriority hremap hvalue htargets
    simp only [reduceCtorEq, false_iff]
    rintro ⟨⟨hname, -⟩ | ⟨hname, -⟩ | hname | hname, -⟩
    · exact hvalue hname
    · exact htargets hname
    · exact hpriority hname
    · exact hremap hname

theorem addMembers_eq_ok_iff {members : List (String × AnnotationValue)} {t t' : MixinTargets} :
    t.addMembers members = .ok t' ↔
      (∀ m ∈ members, IsMixinMember m.1 m.2) ∧
        t' = t.extend (AnnotationArgs.named members).references := by
  induction members generalizing t with
  | nil => simp [addMembers, AnnotationArgs.references, eq_comm]
  | cons m members ih =>
    have hreferences : (AnnotationArgs.named (m :: members)).references =
        (AnnotationArgs.named [m]).references ++ (AnnotationArgs.named members).references := by
      simp [AnnotationArgs.references]
    rw [addMembers, bind_eq_ok_iff, hreferences, extend_append, List.forall_mem_cons]
    simp only [addMember_eq_ok_iff, ih]
    constructor
    · rintro ⟨u, ⟨hm, rfl⟩, hrest, rfl⟩
      exact ⟨⟨hm, hrest⟩, rfl⟩
    · rintro ⟨⟨hm, hrest⟩, rfl⟩
      exact ⟨_, ⟨hm, rfl⟩, hrest, rfl⟩

/-- The arguments that are read, and what is read. -/
theorem ofArgs_eq_ok_iff {args : AnnotationArgs} {t : MixinTargets} :
    ofArgs args = .ok t ↔ args.NameTargets ∧ t = empty.extend args.references := by
  rcases args with _ | value | members
  · simp [ofArgs, AnnotationArgs.NameTargets]
  · exact addTypes_eq_ok_iff
  · exact addMembers_eq_ok_iff

end MixinTargets

/-! ## Acceptance -/

/-- The annotation is accepted, and leaves `w'`: handling it is no error, even if rejections are. -/
def Annotated.Accepted (options : Options) (a : Annotated) (w w' : Workspace) : Prop :=
  ∀ fatal, process (options.withFatal fatal) a.use a.site w = .ok () w'

theorem Annotated.accepted_iff {options : Options} {a : Annotated} {w w' : Workspace} :
    a.Accepted options w w' ↔
      ∃ c, a.verdictIn options w = .ok c ∧ w' = c.apply a.site.owner w := by
  constructor
  · intro h
    have hfatal := h true
    rcases hv : a.verdictIn options w with e | c
    · rw [process_of_error hv] at hfatal
      cases hfatal
    · rw [process_of_ok hv] at hfatal
      cases hfatal
      exact ⟨c, rfl, rfl⟩
  · rintro ⟨c, hv, rfl⟩ fatal
    exact process_of_ok hv fatal

/-- What an `@Mixin` on the type `name` changes. -/
def registration (name : String) (known : Option Info) (references : List AnnotationValue) :
    Change where
  info := some ((known.getD (Info.new name)).setTargets
    (references.filterMap AnnotationValue.targetName?))
  occurrences := (references.filterMap AnnotationValue.literal?).map fun l =>
    l.occurrence (.typeLiteral (internalName l.value))
  links := []
  events := [.registered name (references.filterMap AnnotationValue.targetName?).eraseDups]

theorem mixinVerdict_eq_ok_iff {t : Task} {known : Option Info} {c : Change} :
    t.mixinVerdict known = .ok c ↔
      ∃ name, t.site = .type name ∧ t.use.args.NameTargets ∧
        c = registration name known t.use.args.references := by
  unfold Task.mixinVerdict
  split
  · rename_i name hsite
    simp only [bind_eq_ok_iff, checked_eq_ok_iff, MixinTargets.ofArgs_eq_ok_iff]
    constructor
    · rintro ⟨targets, ⟨hargs, rfl⟩, hc⟩
      cases hc
      exact ⟨name, hsite, hargs, rfl⟩
    · rintro ⟨name', hsite', hargs, rfl⟩
      obtain rfl : name = name' := by simpa [hsite] using hsite'
      exact ⟨_, ⟨hargs, rfl⟩, rfl⟩
  · rename_i hsite
    simp only [reduceCtorEq, false_iff]
    rintro ⟨name, htype, -⟩
    exact hsite name htype

theorem accepted_mixin_iff {options : Options} {use : AnnotationUse} {site : Site}
    {w w' : Workspace} (hkind : AnnotationKind.ofTypeName? use.typeName = some .mixin) :
    Annotated.Accepted options ⟨use, site⟩ w w' ↔
      ∃ name, site = .type name ∧ use.args.NameTargets ∧
        w' = (registration name (w.registry.get? name) use.args.references).apply name w := by
  rw [Annotated.accepted_iff]
  simp only [Annotated.verdictIn, AnnotationUse.verdict, hkind, mapError_eq_ok_iff, Task.verdict,
    mixinVerdict_eq_ok_iff]
  constructor
  · rintro ⟨c, ⟨name, rfl, hargs, rfl⟩, rfl⟩
    exact ⟨name, rfl, hargs, rfl⟩
  · rintro ⟨name, rfl, hargs, rfl⟩
    exact ⟨_, ⟨name, rfl, hargs, rfl⟩, rfl⟩

/-! ## What is registered -/

/-- An `@Mixin` with the given references is registered for the type `name`, and nothing else
changes. -/
structure Registers (name : String) (references : List AnnotationValue) (w w' : Workspace) :
    Prop where
  info : w'.registry.get? name = some { (w.registry.get? name).getD (Info.new name) with
    targets := (references.filterMap AnnotationValue.targetName?).eraseDups }
  others : ∀ other, other ≠ name → w'.registry.get? other = w.registry.get? other
  draft : w'.draft = { w.draft with
    occurrences := w.draft.occurrences ++ (references.filterMap AnnotationValue.literal?).map
      fun l => ⟨l.span, l.escaped, .typeLiteral (internalName l.value)⟩ }
  literals : ∀ l ∈ references.filterMap AnnotationValue.literal?,
    internalName l.value ∈ (references.filterMap AnnotationValue.targetName?).eraseDups

theorem registers_registration (name : String) (references : List AnnotationValue)
    (w : Workspace) :
    Registers name references w
      ((registration name (w.registry.get? name) references).apply name w) := by
  refine ⟨?_, fun other hother => ?_, ?_, fun l hl => ?_⟩
  · simp only [Change.apply, Change.get?_registry]
    rfl
  · simp only [Change.apply, Change.get?_registry, if_neg hother]
  · simp [Change.apply, Change.draft, registration, StringLiteral.occurrence]
  · obtain ⟨v, hv, hliteral⟩ := List.mem_filterMap.1 hl
    rw [List.mem_eraseDups]
    refine List.mem_filterMap.2 ⟨v, hv, ?_⟩
    cases v <;> cases hliteral
    rfl

/-- An `@Mixin` is accepted exactly on a type and with arguments that name targets. It then replaces
the targets of the type by the ones that its arguments name, each once and in their order, and adds
an occurrence for every string among them. -/
theorem accepted_mixin_registers (options : Options) {use : AnnotationUse} (site : Site)
    (w : Workspace) (hkind : AnnotationKind.ofTypeName? use.typeName = some .mixin) :
    ((∃ w', Annotated.Accepted options ⟨use, site⟩ w w') ↔
      (∃ name, site = .type name) ∧ use.args.NameTargets) ∧
    ∀ w', Annotated.Accepted options ⟨use, site⟩ w w' →
      ∃ name, site = .type name ∧ Registers name use.args.references w w' := by
  constructor
  · constructor
    · rintro ⟨w', h⟩
      obtain ⟨name, hsite, hargs, -⟩ := (accepted_mixin_iff hkind).1 h
      exact ⟨⟨name, hsite⟩, hargs⟩
    · rintro ⟨⟨name, hsite⟩, hargs⟩
      exact ⟨_, (accepted_mixin_iff hkind).2 ⟨name, hsite, hargs, rfl⟩⟩
  · intro w' h
    obtain ⟨name, hsite, -, rfl⟩ := (accepted_mixin_iff hkind).1 h
    exact ⟨name, hsite, registers_registration name use.args.references w⟩

/-- Strings and a class literal under members in any order, on a type that was a mixin before. -/
theorem accepted_mixin_registers_mixed :
    let use : AnnotationUse := ⟨"org/spongepowered/asm/mixin/Mixin", 0, .named [
      ("targets", .array [.string (.quoted 20 "com.X"), .string (.quoted 30 "com.Y")]),
      ("priority", .other "900"), ("value", .type "com/Y"),
      ("targets", .string (.quoted 60 "com/Z"))]⟩
    let w : Workspace := ⟨Registry.empty.upsert "mixin/A" fun info =>
      (info.setTargets ["com/Old"]).addOverwrite "tick" "()V", Draft.new "mixin/A.java" "h", []⟩
    AnnotationKind.ofTypeName? use.typeName = some .mixin ∧ use.args.NameTargets ∧
      ∃ w', Annotated.Accepted .default ⟨use, .type "mixin/A"⟩ w w' ∧
        w'.registry.get? "mixin/A" =
          some ⟨"mixin/A", ["com/X", "com/Y", "com/Z"], OrderedMap.empty, ["tick()V"], []⟩ ∧
        w'.draft.occurrences.map Occurrence.text =
          ["\"com.X\"", "\"com.Y\"", "\"com/Z\""] := by
  intro use w
  have hkind : AnnotationKind.ofTypeName? use.typeName = some .mixin := by decide +kernel
  have hargs : use.args.NameTargets := by
    intro m hm
    simp only [List.mem_cons, List.not_mem_nil, or_false] at hm
    rcases hm with rfl | rfl | rfl | rfl
    · exact .strings rfl (by simp [AnnotationValue.elements, AnnotationValue.IsString])
    · exact .ignored (.inl rfl)
    · exact .types rfl (by simp [AnnotationValue.elements, AnnotationValue.IsType])
    · exact .strings rfl (by simp [AnnotationValue.elements, AnnotationValue.IsString])
  obtain ⟨haccepted, hregisters⟩ :=
    accepted_mixin_registers .default (.type "mixin/A") w hkind
  obtain ⟨w', hw'⟩ := haccepted.2 ⟨⟨"mixin/A", rfl⟩, hargs⟩
  obtain ⟨name, hsite, hregistered⟩ := hregisters w' hw'
  cases hsite
  refine ⟨hkind, hargs, w', hw', ?_, ?_⟩
  · rw [hregistered.info]
    decide +kernel
  · rw [hregistered.draft]
    decide +kernel

end RangeIndex.Mixin
