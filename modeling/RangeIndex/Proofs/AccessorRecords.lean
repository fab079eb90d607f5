import RangeIndex.Proofs.DescriptorGrammar
import RangeIndex.Proofs.NamingPattern
import RangeIndex.Proofs.ReachableRegistry

/-!
# What accessors record

An accepted `@Accessor` or `@Invoker` leaves the registry alone. In a mixin with one target it adds
one record to the draft: without an explicit target a link to the member that the method's name
names, and else an occurrence of the literal (`Records`). Only a constructor that is named as such
is not recorded, since it has no name that could change.

The role decides which record it is. It comes from the method's name, and from the annotation and
the explicit target only if the name follows no convention (`HasRole`). Either way it suits the
descriptor, so a setter is never without the parameter that its link needs.
-/

namespace RangeIndex.Mixin

/-- The name gives the method this role. -/
def NamedRole (name : String) (desc : MethodDescriptor) (role : AccessorRole) : Prop :=
  ∃ p capital rest, Follows name p role capital rest ∧ role.Suits desc

/-- The role of an annotated method with the explicit target `value?`, if there is one. The kind of
the annotation and the explicit target matter only where the name gives no role. -/
inductive HasRole (kind : AnnotationKind) (name : String) (desc : MethodDescriptor) :
    Option String → AccessorRole → Prop
  | named {value? : Option String} {role : AccessorRole} :
      NamedRole name desc role → HasRole kind name desc value? role
  | field {value : String} {role : AccessorRole} :
      (∀ r, ¬ NamedRole name desc r) → kind ≠ .invoker → role = .getter ∨ role = .setter →
      role.Suits desc → HasRole kind name desc (some value) role
  | method {value : String} :
      (∀ r, ¬ NamedRole name desc r) → kind = .invoker → value ≠ "<init>" →
      HasRole kind name desc (some value) .proxy
  | constructor :
      (∀ r, ¬ NamedRole name desc r) → kind = .invoker →
      HasRole kind name desc (some "<init>") .factory

/-- The name and the descriptor of the member that a method with the descriptor `desc` is linked to,
where its name names the member `name`. -/
inductive LinksTo (desc name : String) : AccessorRole → String → String → Prop
  | getter {result : String} : IsDescriptor desc [] result → LinksTo desc name .getter name result
  | setter {param result : String} :
      IsDescriptor desc [param] result → LinksTo desc name .setter name param
  | proxy : LinksTo desc name .proxy name desc
  | factory {params : List String} {result : String} :
      IsDescriptor desc params result →
      LinksTo desc name .factory "<init>" ("(" ++ String.join params ++ ")V")

/-- What the literal of an explicit target stands for in a mixin with the target `target`. -/
inductive RefersTo (target desc value : String) : AccessorRole → Referent → Prop
  | getter : RefersTo target desc value .getter (.fieldLiteral target value)
  | setter : RefersTo target desc value .setter (.fieldLiteral target value)
  | proxy : RefersTo target desc value .proxy (.methodLiteral ⟨target, value, desc⟩)
  | factory : internalName value = target →
      RefersTo target desc value .factory (.typeLiteral target)

/-- The draft after a method of a mixin with the target `target` is recorded. -/
inductive Records (m : Member) (target : String) (role : AccessorRole) (d : Draft) :
    Option StringLiteral → Draft → Prop
  | link {p : String} {capital : Char} {rest counted member : List Char} {name desc : String} :
      Follows m.name p role capital rest → BeforeMarker rest counted →
      NamesMember role capital counted member →
      LinksTo m.desc (String.ofList member) role name desc →
      Records m target role d none (d.addLink ⟨m, ⟨target, name, desc⟩, p⟩)
  | literal {l : StringLiteral} {referent : Referent} :
      ¬ (role = .factory ∧ l.value = "<init>") → RefersTo target m.desc l.value role referent →
      Records m target role d (some l) (d.addOccurrence ⟨l.span, l.escaped, referent⟩)
  | constructor {l : StringLiteral} :
      role = .factory → l.value = "<init>" → Records m target role d (some l) d

/-- The values that are given for the member `value`, in order. -/
def AnnotationArgs.values : AnnotationArgs → List AnnotationValue
  | .marker => []
  | .single value => [value]
  | .named members => (members.filter (·.1 = "value")).map Prod.snd

/-! ## The explicit target -/

theorem asString_eq_ok_iff {member : String} {value : AnnotationValue} {l : StringLiteral} :
    value.asString member = .ok l ↔ value = .string l := by
  cases value <;> simp [AnnotationValue.asString]

theorem accessorValue_eq_ok {members : List (String × AnnotationValue)}
    {found value? : Option StringLiteral} (h : accessorValue found members = .ok value?) :
    (AnnotationArgs.named members).values.getLast?.or (found.map .string) =
      value?.map .string := by
  fun_induction accessorValue found members with
  | case1 found =>
    cases h
    rfl
  | case2 found value rest ih => simpa [AnnotationArgs.values] using ih h
  | case3 found value rest ih =>
    obtain ⟨l, hl, h⟩ := bind_eq_ok_iff.1 h
    obtain rfl := asString_eq_ok_iff.1 hl
    have hvalues : (AnnotationArgs.named (("value", .string l) :: rest)).values =
        .string l :: (AnnotationArgs.named rest).values := by simp [AnnotationArgs.values]
    rw [hvalues, ← ih l h, List.getLast?_cons]
    rcases (AnnotationArgs.named rest).values.getLast? with _ | value <;> rfl
  | case4 => cases h

/-- The explicit target is the last value that is given. -/
theorem getLast?_values {args : AnnotationArgs} {value? : Option StringLiteral}
    (h : accessorArgs args = .ok value?) : args.values.getLast? = value?.map .string := by
  cases args with
  | marker =>
    cases h
    rfl
  | single value =>
    obtain ⟨l, hl, rfl⟩ := map_eq_ok_iff.1 h
    rw [asString_eq_ok_iff.1 hl]
    rfl
  | named members => simpa using accessorValue_eq_ok h

/-! ## The role -/

section Role

variable {kind : AnnotationKind} {name : String} {desc : MethodDescriptor} {a : AccessorName}

theorem namedRole_of_ofMethod? {value? : Option String}
    (h : AccessorName.ofMethod? name value? desc = some a) : NamedRole name desc a.role := by
  obtain ⟨capital, rest, -, -, hfollows, hsuits, -⟩ := AccessorName.follows_of_ofMethod? h
  exact ⟨_, capital, rest, hfollows, hsuits⟩

theorem not_namedRole_of_ofMethod? {value? : Option String}
    (h : AccessorName.ofMethod? name value? desc = none) :
    ∀ role, ¬ NamedRole name desc role := by
  rintro role ⟨p, capital, rest, hfollows, hsuits⟩
  obtain ⟨counted, member, -, -, hsome⟩ :=
    AccessorName.ofMethod?_of_follows hfollows hsuits value?
  rw [h] at hsome
  cases hsome

theorem ofField?_eq_some {method value : String}
    (h : AccessorName.ofField? method value desc = some a) :
    (a.role = .getter ∨ a.role = .setter) ∧ a.role.Suits desc ∧ a.target = value := by
  unfold AccessorName.ofField? at h
  split_ifs at h with hgetter hsetter
  · cases h
    exact ⟨.inl rfl, AccessorRole.fits_iff.1 hgetter, rfl⟩
  · cases h
    exact ⟨.inr rfl, AccessorRole.fits_iff.1 hsetter, rfl⟩

theorem hasRole_of_accessorName? {value? : Option String}
    (h : accessorName? kind name value? desc = some a) :
    HasRole kind name desc value? a.role ∧ ∀ value, value? = some value → a.target = value := by
  rcases Option.or_eq_some_iff.1 h with h | ⟨hnone, h⟩
  · obtain ⟨capital, rest, counted, member, -, -, -, -, htarget⟩ :=
      AccessorName.follows_of_ofMethod? h
    refine ⟨.named (namedRole_of_ofMethod? h), ?_⟩
    rintro value rfl
    exact htarget
  · have hnot := not_namedRole_of_ofMethod? hnone
    rcases value? with _ | value
    · cases h
    by_cases hkind : kind = .invoker
    · subst hkind
      cases h
      refine ⟨?_, fun v hv => Option.some.inj hv⟩
      unfold AccessorName.ofTarget
      split_ifs with hvalue
      · rw [hvalue]
        exact .constructor hnot rfl
      · exact .method hnot rfl hvalue
    · have hfield : AccessorName.ofField? name value desc = some a := by
        cases kind with
        | invoker => exact absurd rfl hkind
        | _ => exact h
      obtain ⟨hrole, hsuits, htarget⟩ := ofField?_eq_some hfield
      exact ⟨.field hnot hkind hrole hsuits, fun v hv => htarget.trans (Option.some.inj hv)⟩

theorem HasRole.suits {value? : Option String} {role : AccessorRole}
    (h : HasRole kind name desc value? role) : role.Suits desc := by
  cases h with
  | named hnamed =>
    obtain ⟨p, capital, rest, -, hsuits⟩ := hnamed
    exact hsuits
  | field _ _ _ hsuits => exact hsuits
  | method => trivial
  | constructor => trivial

end Role

/-! ## The record -/

section Record

variable {m : Member} {target : String} {desc : MethodDescriptor} {a : AccessorName}

theorem withVoidReturn_display (desc : MethodDescriptor) :
    desc.withVoidReturn.display =
      "(" ++ String.join (desc.params.map FieldType.display) ++ ")V" := by
  rw [MethodDescriptor.display_eq, String.append_assoc]
  rfl

/-- Without an explicit target there always is one link: where the role suits the descriptor, a
setter has the parameter that it is linked by. -/
theorem accessorRecord_none (hdesc : MethodDescriptor.parse? m.desc = some desc)
    (hsuits : a.role.Suits desc) :
    ∃ name type, LinksTo m.desc a.target a.role name type ∧
      Task.accessorRecord m target desc a none =
        .ok (.link ⟨m, ⟨target, name, type⟩, a.namePrefix⟩) := by
  have htext := MethodDescriptor.parse?_eq_some_iff.1 hdesc
  unfold Task.accessorRecord
  rcases hrole : a.role with _ | _ | _ | _ <;> rw [hrole] at hsuits
  · rw [hsuits.1] at htext
    exact ⟨_, _, .getter htext, rfl⟩
  · obtain ⟨⟨param, hparams⟩, -⟩ := hsuits
    rw [hparams] at htext ⊢
    exact ⟨_, _, .setter htext, rfl⟩
  · exact ⟨_, _, .proxy, rfl⟩
  · refine ⟨_, _, .factory htext, ?_⟩
    rw [← withVoidReturn_display]
    rfl

/-- With an explicit target there is one literal, unless it names the constructor. -/
theorem accessorRecord_some {l : StringLiteral} (htarget : a.target = l.value)
    (hsuits : a.role.Suits desc) {c : Change}
    (h : Task.accessorRecord m target desc a (some l) = .ok c) :
    (a.role = .factory ∧ l.value = "<init>" ∧ c = .nothing) ∨
      ¬ (a.role = .factory ∧ l.value = "<init>") ∧
        ∃ referent, RefersTo target m.desc l.value a.role referent ∧
          c = .occurrence ⟨l.span, l.escaped, referent⟩ := by
  unfold Task.accessorRecord at h
  rw [htarget] at h
  rcases hrole : a.role with _ | _ | _ | _ <;> rw [hrole] at h hsuits
  · cases h
    exact .inr ⟨by simp, _, .getter, rfl⟩
  · obtain ⟨⟨param, hparams⟩, -⟩ := hsuits
    rw [hparams] at h
    cases h
    exact .inr ⟨by simp, _, .setter, rfl⟩
  · cases h
    exact .inr ⟨by simp, _, .proxy, rfl⟩
  · simp only [] at h
    split_ifs at h with hinit hname
    · cases h
      exact .inl ⟨rfl, hinit, rfl⟩
    · cases h
      exact .inr ⟨fun hboth => hinit hboth.2, _, .factory hname, rfl⟩

theorem records_of_accessorRecord {kind : AnnotationKind} {value? : Option StringLiteral}
    (hdesc : MethodDescriptor.parse? m.desc = some desc)
    (hname : accessorName? kind m.name (value?.map StringLiteral.value) desc = some a) {c : Change}
    (h : Task.accessorRecord m target desc a value? = .ok c) (d : Draft) :
    Records m target a.role d value? (c.draft d) := by
  obtain ⟨hrole, htarget⟩ := hasRole_of_accessorName? hname
  rcases value? with _ | l
  · have hread : AccessorName.ofMethod? m.name none desc = some a := by
      rcases Option.or_eq_some_iff.1 hname with hread | ⟨-, hother⟩
      · exact hread
      · cases hother
    obtain ⟨capital, rest, counted, member, hfollows, -, hcounted, hmember, hderived⟩ :=
      AccessorName.follows_of_ofMethod? hread
    obtain ⟨name, type, hlinks, hlink⟩ := accessorRecord_none hdesc hrole.suits
    obtain rfl : _ = c := Except.ok.inj (hlink.symm.trans h)
    rw [hderived] at hlinks
    rw [Change.draft_link]
    exact .link hfollows hcounted hmember hlinks
  · rcases accessorRecord_some (htarget l.value rfl) hrole.suits h with
      ⟨hfactory, hinit, rfl⟩ | ⟨hnot, referent, hrefers, rfl⟩
    · rw [Change.draft_nothing]
      exact .constructor hfactory hinit
    · rw [Change.draft_occurrence]
      exact .literal hnot hrefers

end Record

/-! ## Accepted accessors -/

section Accepted

variable {options : Options} {kind : AnnotationKind} {use : AnnotationUse} {m : Member}
  {w w' : Workspace}

theorem target?_eq_some_iff {info : Info} {target : String} :
    info.target? = some target ↔ info.targets = [target] := by
  unfold Info.target?
  split <;> simp_all

theorem two_le_length_targets {info : Info} (hvalid : info.isValid) (h : info.target? = none) :
    2 ≤ info.targets.length := by
  unfold Info.target? at h
  unfold Info.isValid at hvalid
  rcases htargets : info.targets with _ | ⟨first, _ | ⟨second, others⟩⟩
  · simp [htargets] at hvalid
  · simp [htargets] at h
  · simp

/-- An accepted accessor is one of a mixin, and nothing is recorded if the mixin has several
targets. -/
theorem resolve_accessor (haccessor : kind = .accessor ∨ kind = .invoker)
    (h : resolve options ⟨kind, use, .method m⟩ w = .ok () w') :
    w'.registry = w.registry ∧ ∃ info, w.registry.get? m.owner = some info ∧
      (2 ≤ info.targets.length ∧ w'.draft = w.draft ∨
        ∃ target value? desc role, info.targets = [target] ∧
          use.args.values.getLast? = value?.map .string ∧
          MethodDescriptor.parse? m.desc = some desc ∧
          HasRole kind m.name desc (value?.map StringLiteral.value) role ∧
          Records { m with owner := info.owner } target role w.draft value? w'.draft) := by
  obtain ⟨c, hverdict, rfl⟩ := resolve_eq_ok h
  cases accepted_of_verdict hverdict with
  | mixin hother => simp_all
  | interface hother => simp_all
  | shadow hother => simp_all
  | overwrite hother => simp_all
  | skippedAccessor _ hsite _ hknown hvalid htarget =>
    cases hsite
    exact ⟨rfl, _, hknown, .inl ⟨two_le_length_targets hvalid htarget, Change.draft_nothing _⟩⟩
  | @accessor _ value? info target desc a _ _ hsite hargs hknown _ htarget hdesc hname hrecord =>
    cases hsite
    have hregistry : (c.apply m.owner w).registry = w.registry := by
      rcases accessorRecord_eq_ok hrecord with rfl | ⟨l, rfl⟩ | ⟨o, rfl⟩ <;> rfl
    refine ⟨hregistry, info, hknown, .inr ⟨target, value?, desc, a.role, ?_⟩⟩
    exact ⟨target?_eq_some_iff.1 htarget, getLast?_values hargs, hdesc,
      (hasRole_of_accessorName? hname).1,
      records_of_accessorRecord (m := { m with owner := info.owner }) hdesc hname hrecord w.draft⟩

theorem resolve_of_accessorRecord (haccessor : kind = .accessor ∨ kind = .invoker)
    {value? : Option StringLiteral} (hargs : accessorArgs use.args = .ok value?) {info : Info}
    (hinfo : w.registry.get? m.owner = some info) {target : String}
    (htarget : info.targets = [target]) {desc : MethodDescriptor}
    (hdesc : MethodDescriptor.parse? m.desc = some desc) {a : AccessorName}
    (hname : accessorName? kind m.name (value?.map StringLiteral.value) desc = some a) {c : Change}
    (hrecord : Task.accessorRecord { m with owner := info.owner } target desc a value? = .ok c) :
    resolve options ⟨kind, use, .method m⟩ w = .ok () (c.apply m.owner w) := by
  have hvalid : (some info).filter Info.isValid = some info := by
    simp [Option.filter, Info.isValid, htarget]
  have hverdict : Task.accessorVerdict ⟨kind, use, .method m⟩ (some info) = .ok c := by
    refine bind_eq_ok_iff.2 ⟨value?, checked_eq_ok_iff.2 hargs, ?_⟩
    simp only [hvalid, target?_eq_some_iff.2 htarget, Task.accessorOf, hdesc, hname, hrecord]
  rw [resolve_eq_enact, show Site.owner (.method m) = m.owner from rfl, hinfo]
  rcases haccessor with rfl | rfl <;> exact congrArg (Task.enact _ · w) hverdict

end Accepted

/-- An accepted accessor leaves the registry as it is. It records nothing in a mixin with several
targets, and in one with a single target what its role, its name and its explicit target say. -/
theorem accessor_records_named_member {options : Options} {kind : AnnotationKind}
    {use : AnnotationUse} {m : Member} {w w' : Workspace} (hreachable : w.registry.Reachable)
    (hkind : AnnotationKind.ofTypeName? use.typeName = some kind)
    (haccessor : kind = .accessor ∨ kind = .invoker)
    (haccepted : resolve options ⟨kind, use, .method m⟩ w = .ok () w') :
    process options use (.method m) w = .ok () w' ∧ w'.registry = w.registry ∧
    ∃ info, w.registry.get? m.owner = some info ∧
      (2 ≤ info.targets.length ∧ w'.draft = w.draft ∨
        ∃ target value? desc role, info.targets = [target] ∧
          use.args.values.getLast? = value?.map .string ∧
          MethodDescriptor.parse? m.desc = some desc ∧
          HasRole kind m.name desc (value?.map StringLiteral.value) role ∧
          Records m target role w.draft value? w'.draft) := by
  have hprocess : process options use (.method m) w = .ok () w' := by
    simp only [process, hkind, haccepted]
  obtain ⟨hregistry, info, hinfo, hrecorded⟩ := resolve_accessor haccessor haccepted
  have howner : info.owner = m.owner := hreachable.owner_eq m.owner info hinfo
  rw [howner] at hrecorded
  exact ⟨hprocess, hregistry, info, hinfo, hrecorded⟩

/-- A setter with a suffix, in a mixin that a run declares. -/
theorem accessor_records_named_member_setter :
    let mixin : AnnotationUse :=
      ⟨"org/spongepowered/asm/mixin/Mixin", 0, .single (.type "com/B")⟩
    let use : AnnotationUse := ⟨"org/spongepowered/asm/mixin/gen/Accessor", 40, .marker⟩
    let m : Member := ⟨"mixin/A", "setURL_$md1", "([I)V"⟩
    let w := Resolve.after (process .default mixin (.type "mixin/A"))
      ⟨Registry.empty, Draft.new "mixin/A.java" "h", []⟩
    let w' : Workspace :=
      { w with draft := w.draft.addLink ⟨m, ⟨"com/B", "URL", "[I"⟩, "set"⟩ }
    w.registry.Reachable ∧ AnnotationKind.ofTypeName? use.typeName = some .accessor ∧
      resolve .default ⟨.accessor, use, .method m⟩ w = .ok () w' ∧
      process .default use (.method m) w = .ok () w' ∧
      ∃ info, w.registry.get? m.owner = some info ∧ info.targets = ["com/B"] ∧
        ∃ value? role, Records m "com/B" role w.draft value? w'.draft := by
  intro mixin use m w w'
  have hreachable : w.registry.Reachable := .process .default mixin (.type "mixin/A") .empty
  have hkind : AnnotationKind.ofTypeName? use.typeName = some .accessor := by decide +kernel
  have hinfo : w.registry.get? m.owner = some ((Info.new "mixin/A").setTargets ["com/B"]) := rfl
  have hdesc : MethodDescriptor.parse? m.desc = some ⟨[.array (.base .int)], .void⟩ := by cbv
  have hname : accessorName? .accessor m.name none ⟨[.array (.base .int)], .void⟩ =
      some ⟨.setter, m.name, "URL", "set"⟩ := by decide
  have haccepted : resolve .default ⟨.accessor, use, .method m⟩ w = .ok () w' := by
    have hargs : accessorArgs use.args = .ok none := rfl
    rw [resolve_of_accessorRecord (.inl rfl) hargs hinfo rfl hdesc hname rfl, Change.apply_link]
    rfl
  obtain ⟨hprocess, -, info, hinfo, hrecorded⟩ :=
    accessor_records_named_member hreachable hkind (.inl rfl) haccepted
  have htargets : info.targets = ["com/B"] := by
    cases hinfo
    rfl
  refine ⟨hreachable, hkind, haccepted, hprocess, info, hinfo, htargets, ?_⟩
  rcases hrecorded with ⟨hseveral, -⟩ | ⟨target, value?, desc, role, htarget, -, -, -, hrecords⟩
  · simp [htargets] at hseveral
  · obtain rfl : "com/B" = target := by simpa [htargets] using htarget
    exact ⟨value?, role, hrecords⟩

end RangeIndex.Mixin
