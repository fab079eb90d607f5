import RangeIndex.Proofs.AccessorRecords

/-!
# Kinds of annotation and kinds of member

One expects an `@Accessor` to record a field and an `@Invoker` a method or a constructor. That is so
unless the name of the method follows a convention of the other kind: the name is asked first, and
the annotation only where the name gives no role (`kinds_agree_unless_named`). An `@Invoker` on a
method that is named like a getter records a field (`invoker_on_getter_records_field`).

Which member a link is about is read off its naming prefix, which has one role only.
-/

namespace RangeIndex.Mixin

/-- Among what `d'` has more than `d` is an occurrence of one of the kinds, or a link whose naming
prefix is of one of the roles. -/
def Gains (kinds : List OccurrenceKind) (roles : List AccessorRole) (d d' : Draft) : Prop :=
  ∃ occurrences links, d'.occurrences = d.occurrences ++ occurrences ∧
    d'.links = d.links ++ links ∧
    ((∃ o ∈ occurrences, o.kind ∈ kinds) ∨
      ∃ l ∈ links, ∃ role ∈ roles, Convention l.namePrefix role)

/-- A field was recorded. -/
def GainsField : Draft → Draft → Prop :=
  Gains [.fieldLiteral] [.getter, .setter]

/-- A method or a constructor was recorded. -/
def GainsMethod : Draft → Draft → Prop :=
  Gains [.methodLiteral, .typeLiteral] [.proxy, .factory]

section Gains

variable {kinds : List OccurrenceKind} {roles : List AccessorRole} {d : Draft}

theorem gains_addLink_iff {l : AccessorLink} :
    Gains kinds roles d (d.addLink l) ↔ ∃ role ∈ roles, Convention l.namePrefix role := by
  constructor
  · rintro ⟨os, ls, hos, hls, h⟩
    obtain rfl : os = [] := by simpa [Draft.addLink] using hos
    obtain rfl : [l] = ls := List.append_cancel_left hls
    simpa using h
  · intro h
    exact ⟨[], [l], by simp [Draft.addLink], rfl, .inr ⟨l, by simp, h⟩⟩

theorem gains_addOccurrence_iff {o : Occurrence} :
    Gains kinds roles d (d.addOccurrence o) ↔ o.kind ∈ kinds := by
  constructor
  · rintro ⟨os, ls, hos, hls, h⟩
    obtain rfl : ls = [] := by simpa [Draft.addOccurrence] using hls
    obtain rfl : [o] = os := List.append_cancel_left hos
    simpa using h
  · intro h
    exact ⟨[o], [], rfl, by simp [Draft.addOccurrence], .inl ⟨o, by simp, h⟩⟩

theorem not_gains_self : ¬ Gains kinds roles d d := by
  rintro ⟨os, ls, hos, hls, h⟩
  obtain rfl : os = [] := by simpa using hos
  obtain rfl : ls = [] := by simpa using hls
  simp at h

end Gains

theorem Convention.role_eq {p : String} {role role' : AccessorRole} (h : Convention p role)
    (h' : Convention p role') : role = role' :=
  congrArg Prod.snd (AccessorName.conventions_prefix_free _ (AccessorName.mem_conventions_iff.2 h) _
    (AccessorName.mem_conventions_iff.2 h') List.prefix_rfl)

section Role

variable {name : String} {desc : MethodDescriptor} {value? : Option String}
  {role role' : AccessorRole}

theorem NamedRole.role_eq (h : NamedRole name desc role) (h' : NamedRole name desc role') :
    role = role' := by
  obtain ⟨p, capital, rest, hfollows, hsuits⟩ := h
  obtain ⟨p', capital', rest', hfollows', hsuits'⟩ := h'
  obtain ⟨counted, member, -, -, hread⟩ := AccessorName.ofMethod?_of_follows hfollows hsuits none
  obtain ⟨counted', member', -, -, hread'⟩ :=
    AccessorName.ofMethod?_of_follows hfollows' hsuits' none
  exact congrArg AccessorName.role (Option.some.inj (hread.symm.trans hread'))

theorem HasRole.role_eq {kind : AnnotationKind} (h : HasRole kind name desc value? role)
    (h' : NamedRole name desc role') : role = role' := by
  cases h with
  | named hnamed => exact hnamed.role_eq h'
  | field hnot => exact absurd h' (hnot _)
  | method hnot => exact absurd h' (hnot _)
  | constructor hnot => exact absurd h' (hnot _)

-- Of itself an `@Invoker` gives the roles of methods only, and an `@Accessor` those of fields.
theorem HasRole.named_of_invoker (h : HasRole .invoker name desc value? role)
    (hfield : role ∈ [AccessorRole.getter, .setter]) : NamedRole name desc role := by
  cases h with
  | named hnamed => exact hnamed
  | field _ hkind => exact absurd rfl hkind
  | method => simp at hfield
  | constructor => simp at hfield

theorem HasRole.named_of_accessor (h : HasRole .accessor name desc value? role)
    (hmethod : role ∈ [AccessorRole.proxy, .factory]) : NamedRole name desc role := by
  cases h with
  | named hnamed => exact hnamed
  | field _ _ hfield => rcases hfield with rfl | rfl <;> simp at hmethod
  | method _ hkind => cases hkind
  | constructor _ hkind => cases hkind

end Role

/-! ## What a role records -/

/-- The kind of the literals that accessors of a role record. -/
def AccessorRole.literalKind : AccessorRole → OccurrenceKind
  | .getter | .setter => .fieldLiteral
  | .proxy => .methodLiteral
  | .factory => .typeLiteral

theorem RefersTo.kind_eq {target desc value : String} {role : AccessorRole} {referent : Referent}
    (h : RefersTo target desc value role referent) : referent.kind = role.literalKind := by
  cases h <;> rfl

section Accepted

variable {kinds : List OccurrenceKind} {roles : List AccessorRole}

theorem gains_iff_of_records (hkinds : ∀ role, role.literalKind ∈ kinds ↔ role ∈ roles) {m : Member}
    {target : String} {role : AccessorRole} {d d' : Draft} {value? : Option StringLiteral}
    (h : Records m target role d value? d') :
    Gains kinds roles d d' ↔
      role ∈ roles ∧ ¬ (role = .factory ∧ value?.map StringLiteral.value = some "<init>") := by
  cases h with
  | @link p _ _ _ _ _ _ hfollows =>
    rw [gains_addLink_iff]
    constructor
    · rintro ⟨role', hmem, hconvention⟩
      rw [hfollows.convention.role_eq hconvention]
      exact ⟨hmem, by simp⟩
    · rintro ⟨hmem, -⟩
      exact ⟨role, hmem, hfollows.convention⟩
  | literal hnot hrefers =>
    rw [gains_addOccurrence_iff, ← hkinds, ← hrefers.kind_eq]
    simp [Occurrence.kind, hnot]
  | constructor hfactory hinit => simp [not_gains_self, hfactory, hinit]

/-- Where the annotation gives none of the roles, a member of such a role is recorded just if the
name gives it. -/
theorem gains_iff_of_resolve (hkinds : ∀ role, role.literalKind ∈ kinds ↔ role ∈ roles)
    {options : Options} {kind : AnnotationKind} {use : AnnotationUse} {m : Member}
    {w w' : Workspace} (haccessor : kind = .accessor ∨ kind = .invoker)
    (hother : ∀ name desc value? role, HasRole kind name desc value? role → role ∈ roles →
      NamedRole name desc role)
    (haccepted : resolve options ⟨kind, use, .method m⟩ w = .ok () w') :
    Gains kinds roles w.draft w'.draft ↔
      ∃ info target desc role, w.registry.get? m.owner = some info ∧ info.targets = [target] ∧
        MethodDescriptor.parse? m.desc = some desc ∧ role ∈ roles ∧ NamedRole m.name desc role ∧
        ¬ (role = .factory ∧
          ∃ l, use.args.values.getLast? = some (.string l) ∧ l.value = "<init>") := by
  obtain ⟨-, info, hinfo, hrecorded⟩ := resolve_accessor haccessor haccepted
  rcases hrecorded with ⟨hseveral, hdraft⟩ |
    ⟨target, value?, desc, role, htarget, hvalue, hdesc, hrole, hrecords⟩
  · rw [hdraft]
    refine iff_of_false not_gains_self ?_
    rintro ⟨info', target, -, -, hinfo', htarget, -⟩
    obtain rfl : info = info' := Option.some.inj (hinfo.symm.trans hinfo')
    simp [htarget] at hseveral
  · rw [gains_iff_of_records hkinds hrecords]
    have hinit : value?.map StringLiteral.value = some "<init>" ↔
        ∃ l, use.args.values.getLast? = some (.string l) ∧ l.value = "<init>" := by
      rw [hvalue]
      rcases value? with _ | l <;> simp
    rw [hinit]
    constructor
    · rintro ⟨hmem, hnot⟩
      exact ⟨info, target, desc, role, hinfo, htarget, hdesc, hmem, hother _ _ _ _ hrole hmem, hnot⟩
    · rintro ⟨-, -, desc', role', -, -, hdesc', hmem, hnamed, hnot⟩
      obtain rfl : desc = desc' := Option.some.inj (hdesc.symm.trans hdesc')
      rw [hrole.role_eq hnamed]
      exact ⟨hmem, hnot⟩

end Accepted

/-- An accepted `@Invoker` records a field just if its mixin has one target and its name and
descriptor are those of a getter or setter. An accepted `@Accessor` records a method or a
constructor just if its mixin has one target and its name is that of a proxy or factory, which is
not given the constructor's own name. -/
theorem kinds_agree_unless_named {options : Options} {kind : AnnotationKind} {use : AnnotationUse}
    {m : Member} {w w' : Workspace} (haccessor : kind = .accessor ∨ kind = .invoker)
    (haccepted : resolve options ⟨kind, use, .method m⟩ w = .ok () w') :
    (kind = .invoker → (GainsField w.draft w'.draft ↔
      ∃ info target desc role, w.registry.get? m.owner = some info ∧ info.targets = [target] ∧
        MethodDescriptor.parse? m.desc = some desc ∧ role ∈ [.getter, .setter] ∧
        NamedRole m.name desc role)) ∧
    (kind = .accessor → (GainsMethod w.draft w'.draft ↔
      ∃ info target desc role, w.registry.get? m.owner = some info ∧ info.targets = [target] ∧
        MethodDescriptor.parse? m.desc = some desc ∧ role ∈ [.proxy, .factory] ∧
        NamedRole m.name desc role ∧
        ¬ (role = .factory ∧
          ∃ l, use.args.values.getLast? = some (.string l) ∧ l.value = "<init>"))) := by
  constructor
  · rintro rfl
    rw [GainsField, gains_iff_of_resolve (by rintro (_ | _) <;> decide) haccessor
      (fun _ _ _ _ => HasRole.named_of_invoker) haccepted]
    constructor
    · rintro ⟨info, target, desc, role, hinfo, htarget, hdesc, hmem, hnamed, -⟩
      exact ⟨info, target, desc, role, hinfo, htarget, hdesc, hmem, hnamed⟩
    · rintro ⟨info, target, desc, role, hinfo, htarget, hdesc, hmem, hnamed⟩
      refine ⟨info, target, desc, role, hinfo, htarget, hdesc, hmem, hnamed, ?_⟩
      rintro ⟨rfl, -⟩
      simp at hmem
  · rintro rfl
    exact gains_iff_of_resolve (by rintro (_ | _) <;> decide) haccessor
      (fun _ _ _ _ => HasRole.named_of_accessor) haccepted

/-- An `@Invoker` with an explicit target whose method is named like a getter, but takes a
parameter: it records a method. -/
theorem kinds_agree_unless_named_parameter :
    let w : Workspace :=
      ⟨Registry.empty.upsert "mixin/AMixin" fun info => info.setTargets ["com/X"],
        Draft.new "mixin/AMixin.java" "h", []⟩
    let use : AnnotationUse :=
      ⟨"org/spongepowered/asm/mixin/gen/Invoker", 40, .single (.string (.quoted 49 "bar"))⟩
    let m : Member := ⟨"mixin/AMixin", "getFoo", "(I)V"⟩
    ∃ w', resolve .default ⟨.invoker, use, .method m⟩ w = .ok () w' ∧
      w'.draft = w.draft.addOccurrence
        ⟨⟨49, 5⟩, "\"bar\"", .methodLiteral ⟨"com/X", "bar", "(I)V"⟩⟩ ∧
      ¬ GainsField w.draft w'.draft := by
  intro w use m
  have hargs : accessorArgs use.args = .ok (some (.quoted 49 "bar")) := rfl
  have hinfo : w.registry.get? m.owner =
      some ((Info.new "mixin/AMixin").setTargets ["com/X"]) := rfl
  have hdesc : MethodDescriptor.parse? m.desc = some ⟨[.base .int], .void⟩ := by cbv
  have hname : accessorName? .invoker m.name (some "bar") ⟨[.base .int], .void⟩ =
      some ⟨.proxy, m.name, "bar", ""⟩ := by decide
  have haccepted : resolve .default ⟨.invoker, use, .method m⟩ w = .ok () _ :=
    resolve_of_accessorRecord (.inr rfl) hargs hinfo rfl hdesc hname rfl
  refine ⟨_, haccepted, rfl, fun hgains => ?_⟩
  obtain ⟨-, -, desc, role, -, -, hdesc', -, hnamed⟩ :=
    ((kinds_agree_unless_named (.inr rfl) haccepted).1 rfl).1 hgains
  obtain rfl : _ = desc := Option.some.inj (hdesc.symm.trans hdesc')
  have hnone : AccessorName.ofMethod? m.name none ⟨[.base .int], .void⟩ = none := by decide
  exact not_namedRole_of_ofMethod? hnone role hnamed

/-- An `@Invoker` on a method that is named like a getter is accepted and records a field, and an
`@Accessor` on one that is named like a proxy records a method. -/
theorem invoker_on_getter_records_field :
    let w : Workspace :=
      ⟨Registry.empty.upsert "mixin/AMixin" fun info => info.setTargets ["com/X"],
        Draft.new "mixin/AMixin.java" "h", []⟩
    let invoker : AnnotationUse := ⟨"org/spongepowered/asm/mixin/gen/Invoker", 40, .marker⟩
    let getFoo : Member := ⟨"mixin/AMixin", "getFoo", "()I"⟩
    let accessor : AnnotationUse :=
      ⟨"org/spongepowered/asm/mixin/gen/Accessor", 60, .single (.string (.quoted 70 "bar"))⟩
    let callFoo : Member := ⟨"mixin/AMixin", "callFoo", "()V"⟩
    AnnotationKind.ofTypeName? invoker.typeName = some .invoker ∧
    AnnotationKind.ofTypeName? accessor.typeName = some .accessor ∧
    (∃ w', resolve .default ⟨.invoker, invoker, .method getFoo⟩ w = .ok () w' ∧
      GainsField w.draft w'.draft) ∧
    ∃ w', resolve .default ⟨.accessor, accessor, .method callFoo⟩ w = .ok () w' ∧
      GainsMethod w.draft w'.draft := by
  intro w invoker getFoo accessor callFoo
  have hinfo : w.registry.get? "mixin/AMixin" =
      some ((Info.new "mixin/AMixin").setTargets ["com/X"]) := rfl
  refine ⟨by decide +kernel, by decide +kernel, ?_, ?_⟩
  · have hargs : accessorArgs invoker.args = .ok none := rfl
    have hdesc : MethodDescriptor.parse? getFoo.desc = some ⟨[], .value (.base .int)⟩ := by cbv
    have hname : accessorName? .invoker getFoo.name none ⟨[], .value (.base .int)⟩ =
        some ⟨.getter, getFoo.name, "foo", "get"⟩ := by decide
    refine ⟨_, resolve_of_accessorRecord (.inr rfl) hargs hinfo rfl hdesc hname rfl, ?_⟩
    rw [Change.apply_link]
    exact gains_addLink_iff.2 ⟨.getter, by simp, .get⟩
  · have hargs : accessorArgs accessor.args = .ok (some (.quoted 70 "bar")) := rfl
    have hdesc : MethodDescriptor.parse? callFoo.desc = some ⟨[], .void⟩ := by cbv
    have hname : accessorName? .accessor callFoo.name (some "bar") ⟨[], .void⟩ =
        some ⟨.proxy, callFoo.name, "bar", "call"⟩ := by decide
    refine ⟨_, resolve_of_accessorRecord (.inl rfl) hargs hinfo rfl hdesc hname rfl, ?_⟩
    rw [Change.apply_occurrence]
    exact gains_addOccurrence_iff.2 (.head _)

end RangeIndex.Mixin
