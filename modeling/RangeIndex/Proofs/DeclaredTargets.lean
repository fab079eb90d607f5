import RangeIndex.Proofs.RegisteredTargets
import RangeIndex.Proofs.SharedRegistry

/-!
# The targets that a type is declared with

The targets of a type are those of the last `@Mixin` on it that was accepted: no other call changes
them (`knownTargets_after`). A type with a target is a mixin, and no annotation of its members is
rejected for want of one (`resolve_ne_unresolvedOwner`).

An `@Mixin` without arguments is rejected, since it names no target. One with an empty array, or
with members that list none, is accepted all the same, and takes the targets away that the type may
have had before (`mixin_lost_by_empty_array`). `stays_mixin_iff_targets_named` says that a mixin is
lost in no other way.
-/

namespace RangeIndex.Mixin

/-- The targets in what is known about a type, of which there are none if nothing is known. -/
def knownTargets (known : Option Info) : List String :=
  (known.map Info.targets).getD []

/-- The targets that a call names for a type, if it is an `@Mixin` on it with right arguments. -/
def Step.declares? (name : String) : Step → Option (List String)
  | .annotate use (.type owner) =>
    if owner = name ∧ AnnotationKind.ofTypeName? use.typeName = some .mixin then
      (MixinTargets.ofArgs use.args).toOption.map MixinTargets.names
    else
      none
  | _ => none

/-- The call is an `@Mixin` on the type that is accepted although its arguments list no target. -/
def Step.DeclaresNone (name : String) (x : Step) : Prop :=
  ∃ use, x = .annotate use (.type name) ∧
    AnnotationKind.ofTypeName? use.typeName = some .mixin ∧
    (∃ targets, MixinTargets.ofArgs use.args = .ok targets) ∧ use.args.references = []

/-! ## Arguments -/

theorem AnnotationArgs.NameTargets.targetName?_ne_none {args : AnnotationArgs}
    (h : args.NameTargets) : ∀ v ∈ args.references, v.targetName? ≠ none := by
  rcases args with _ | value | members
  · exact h.elim
  · intro v hv
    obtain ⟨name, rfl⟩ := h v hv
    simp [AnnotationValue.targetName?]
  · intro v hv
    obtain ⟨⟨member, value⟩, hm, hv⟩ := List.mem_flatMap.1 hv
    simp only [] at hv
    split_ifs at hv with hname
    · rcases h _ hm with ⟨-, hvalue⟩ | ⟨-, hvalue⟩ | hignored
      · obtain ⟨name, rfl⟩ := hvalue v hv
        simp [AnnotationValue.targetName?]
      · obtain ⟨literal, rfl⟩ := hvalue v hv
        simp [AnnotationValue.targetName?]
      · rcases hname with rfl | rfl <;> simp at hignored
    · simp at hv

/-- Every value that stands for a target names one. -/
theorem MixinTargets.names_eq_nil_iff {args : AnnotationArgs} {t : MixinTargets}
    (h : ofArgs args = .ok t) : t.names = [] ↔ args.references = [] := by
  obtain ⟨hargs, rfl⟩ := ofArgs_eq_ok_iff.1 h
  simp only [extend, empty, List.nil_append, List.filterMap_eq_nil_iff]
  constructor
  · intro hnone
    exact List.eq_nil_iff_forall_not_mem.2 fun v hv => hargs.targetName?_ne_none v hv (hnone v hv)
  · intro hnil v hv
    simp [hnil] at hv

/-! ## One call -/

section Verdict

variable {options : Options} {t : Task} {known : Option Info} {c : Change}

/-- An annotation that is no `@Mixin` keeps the targets. -/
theorem knownTargets_of_accepted (h : Task.Accepted options t known c) (hkind : t.kind ≠ .mixin) :
    knownTargets (c.info.or known) = knownTargets known := by
  cases h with
  | mixin hmixin => exact absurd hmixin hkind
  | interface => cases known <;> rfl
  | shadow _ _ _ hknown =>
    rw [hknown]
    rw [Info.addShadows_eq]
    rfl
  | overwrite _ _ _ hknown =>
    rw [hknown]
    rw [Info.addOverwrite_eq]
    rfl
  | skippedAccessor => rfl
  | accessor _ _ _ _ _ _ _ _ hrecord =>
    rcases accessorRecord_eq_ok hrecord with rfl | ⟨l, rfl⟩ | ⟨o, rfl⟩ <;> rfl

section Known

variable {info : Info} {site : Site}

theorem checked_bind_ne_unresolvedOwner {α : Type} (args : Except ArgumentError α) {v : α → Verdict}
    (h : ∀ a, v a ≠ .error (.unresolvedOwner site)) :
    (checked args >>= v) ≠ .error (.unresolvedOwner site) := by
  cases args with
  | error cause =>
    intro herror
    cases herror
  | ok a => exact h a

theorem update_ne_unresolvedOwner (hvalid : info.isValid) (f : Info → Info) :
    t.update (some info) f ≠ .error (.unresolvedOwner site) := by
  simp [Task.update, Option.filter, hvalid]

theorem accessorRecord_ne_unresolvedOwner (m : Member) (target : String) (desc : MethodDescriptor)
    (accessor : AccessorName) (value : Option StringLiteral) :
    Task.accessorRecord m target desc accessor value ≠ .error (.unresolvedOwner site) := by
  unfold Task.accessorRecord
  split
  · simp
  · simp
  · split <;> simp
  · simp
  · simp
  · simp
  · split_ifs <;> simp

theorem accessorVerdict_ne_unresolvedOwner (hvalid : info.isValid) :
    t.accessorVerdict (some info) ≠ .error (.unresolvedOwner site) := by
  have hfilter : (some info).filter Info.isValid = some info := by simp [Option.filter, hvalid]
  unfold Task.accessorVerdict
  split
  · refine checked_bind_ne_unresolvedOwner _ fun value => ?_
    simp only [hfilter, Task.accessorOf]
    split
    · simp
    · split
      · simp
      · split
        · simp
        · exact accessorRecord_ne_unresolvedOwner _ _ _ _ _
  · simp

/-- Where a mixin is known, no annotation is rejected for want of one. -/
theorem verdict_ne_unresolvedOwner (hvalid : info.isValid) :
    t.verdict options (some info) ≠ .error (.unresolvedOwner site) := by
  unfold Task.verdict
  cases t.kind with
  | mixin =>
    simp only [Task.mixinVerdict]
    split
    · refine checked_bind_ne_unresolvedOwner _ fun _ => ?_
      simp [pure, Except.pure]
    · simp
  | accessor => exact accessorVerdict_ne_unresolvedOwner hvalid
  | invoker => exact accessorVerdict_ne_unresolvedOwner hvalid
  | shadow =>
    refine checked_bind_ne_unresolvedOwner _ fun _ => ?_
    split
    · simp
    · exact update_ne_unresolvedOwner hvalid _
  | overwrite =>
    refine checked_bind_ne_unresolvedOwner _ fun _ => ?_
    split
    · exact update_ne_unresolvedOwner hvalid _
    · simp
  | interface =>
    simp only [Task.interfaceVerdict]
    split
    · refine checked_bind_ne_unresolvedOwner _ fun _ => ?_
      simp [pure, Except.pure]
    · simp

end Known

end Verdict

theorem exists_of_knownTargets {known : Option Info} (h : knownTargets known ≠ []) :
    ∃ info, known = some info ∧ info.targets ≠ [] := by
  cases known with
  | none => exact absurd rfl h
  | some info => exact ⟨info, rfl, h⟩

theorem resolve_ne_unresolvedOwner {options : Options} {t : Task} {w w' : Workspace}
    {e : ResolveError} {site : Site} (h : knownTargets (w.registry.get? t.site.owner) ≠ [])
    (hresolve : resolve options t w = .error e w') : e.rejection ≠ .unresolvedOwner site := by
  obtain ⟨info, hinfo, htargets⟩ := exists_of_knownTargets h
  have hvalid : info.isValid := by simpa [Info.isValid, List.isEmpty_iff] using htargets
  rw [resolve_eq_enact] at hresolve
  simp only [hinfo, Task.enact] at hresolve
  split at hresolve
  · cases hresolve
  · rename_i rejection hverdict
    cases hresolve
    intro hrejection
    exact verdict_ne_unresolvedOwner hvalid (hverdict.trans (congrArg _ hrejection))

namespace Step

theorem declares?_of_kind {use : AnnotationUse} (name : String)
    (hkind : AnnotationKind.ofTypeName? use.typeName = some .mixin) :
    (annotate use (.type name)).declares? name =
      (MixinTargets.ofArgs use.args).toOption.map MixinTargets.names := by
  simp [declares?, hkind]

theorem declares?_of_accepted {options : Options} {use : AnnotationUse} {name : String}
    {w w' : Workspace} (hkind : AnnotationKind.ofTypeName? use.typeName = some .mixin)
    (h : resolve options ⟨.mixin, use, .type name⟩ w = .ok () w') :
    ∃ names, (annotate use (.type name)).declares? name = some names := by
  obtain ⟨c, hverdict, -⟩ := resolve_eq_ok h
  cases accepted_of_verdict hverdict with
  | @mixin _ targets _ _ hargs =>
    rw [declares?_of_kind name hkind, hargs]
    exact ⟨targets.names, rfl⟩
  | interface hother => cases hother
  | shadow hother => cases hother
  | overwrite hother => cases hother
  | skippedAccessor hother => simp at hother
  | accessor hother => simp at hother

theorem declares?_of_kind_ne {use : AnnotationUse} (site : Site) (name : String)
    (h : AnnotationKind.ofTypeName? use.typeName ≠ some .mixin) :
    (annotate use site).declares? name = none := by
  cases site <;> simp [declares?, h]

theorem declares?_of_owner_ne {x : Step} {name : String} (h : name ≠ x.owner) :
    x.declares? name = none := by
  unfold declares?
  split
  · exact if_neg fun hname => h hname.1.symm
  · rfl

theorem declares?_eq_some_nil_iff {x : Step} {name : String} :
    x.declares? name = some [] ↔ x.DeclaresNone name := by
  constructor
  · intro h
    unfold declares? at h
    split at h
    · rename_i use owner
      split_ifs at h with hname
      obtain ⟨rfl, hkind⟩ := hname
      cases hargs : MixinTargets.ofArgs use.args with
      | error cause => simp [hargs, Except.toOption] at h
      | ok targets =>
        have hnames : targets.names = [] := by simpa [hargs, Except.toOption] using h
        exact ⟨use, rfl, hkind, ⟨targets, hargs⟩, (MixinTargets.names_eq_nil_iff hargs).1 hnames⟩
    · cases h
  · rintro ⟨use, rfl, hkind, ⟨targets, hargs⟩, hreferences⟩
    rw [declares?_of_kind name hkind, hargs]
    exact congrArg some ((MixinTargets.names_eq_nil_iff hargs).2 hreferences)

/-- What a call leaves of the targets of its owner. -/
theorem knownTargets_effect (options : Options) (filename : String) (known : Option Info)
    (x : Step) :
    knownTargets ((x.effect options filename known).2.info.or known) =
      (x.declares? x.owner).elim (knownTargets known) List.eraseDups := by
  cases x with
  | reference ref =>
    simp only [effect, declares?]
    split <;> rfl
  | annotate use site =>
    simp only [effect, AnnotationUse.verdict]
    rcases hkind : AnnotationKind.ofTypeName? use.typeName with _ | kind
    · rw [declares?_of_kind_ne site _ (by simp [hkind])]
      rfl
    by_cases hmixin : kind = .mixin
    · subst hmixin
      cases site with
      | type name =>
        rw [show (annotate use (.type name)).owner = name from rfl, declares?_of_kind name hkind]
        simp only [Task.verdict, Task.mixinVerdict]
        cases MixinTargets.ofArgs use.args with
        | error cause => rfl
        | ok targets => rfl
      | method m => rfl
      | field owner fragments => rfl
    · rw [declares?_of_kind_ne site _ (by simpa [hkind] using hmixin)]
      cases hverdict : Task.verdict options ⟨kind, use, site⟩ known with
      | error rejection =>
        simp only [hverdict, Except.mapError]
        rfl
      | ok c =>
        simp only [hverdict, Except.mapError]
        exact knownTargets_of_accepted (accepted_of_verdict hverdict) hmixin

end Step

/-! ## A run -/

section Runs

variable {ι : Type} [DecidableEq ι] (options : ι → Options)

theorem knownTargets_step (s : Session ι) (i : ι) (x : Step) (name : String) :
    knownTargets ((s.step options i x).2.registry.get? name) =
      (x.declares? name).elim (knownTargets (s.registry.get? name)) List.eraseDups := by
  simp only [Session.step, Step.run_eq, Change.get?_registry]
  by_cases hname : name = x.owner
  · subst hname
    rw [if_pos rfl, Step.knownTargets_effect]
  · rw [if_neg hname, Step.declares?_of_owner_ne hname]
    rfl

/-- The targets of a type are those that the last `@Mixin` on it names. -/
theorem knownTargets_after (name : String) :
    ∀ (xs : List (ι × Step)) (s : Session ι),
      knownTargets ((s.after options xs).registry.get? name) =
        (xs.filterMap fun x => x.2.declares? name).getLast?.elim
          (knownTargets (s.registry.get? name)) List.eraseDups
  | [], s => rfl
  | (i, x) :: xs, s => by
    rw [Session.after, knownTargets_after name xs, knownTargets_step, List.filterMap_cons]
    rcases hx : x.declares? name with _ | names
    · simp
    · cases hlast : (xs.filterMap fun x => x.2.declares? name).getLast? <;>
        simp [List.getLast?_cons, hlast]

/-- What the file `i` works on in a session. -/
def Session.workspace (s : Session ι) (i : ι) : Workspace :=
  ⟨s.registry, s.drafts i, []⟩

/-- The type has a target, and no annotation of its members would be rejected because the type is
not a mixin. -/
structure Session.IsMixin (s : Session ι) (name : String) : Prop where
  target : ∃ info, s.registry.get? name = some info ∧ info.targets ≠ []
  members : ∀ i kind use site e w, kind ∈ [AnnotationKind.shadow, .overwrite, .accessor, .invoker] →
    site.owner = name → resolve (options i) ⟨kind, use, site⟩ (s.workspace i) = .error e w →
    ∀ site', e.rejection ≠ .unresolvedOwner site'

omit [DecidableEq ι] in
theorem isMixin_iff (s : Session ι) (name : String) :
    s.IsMixin options name ↔ knownTargets (s.registry.get? name) ≠ [] := by
  constructor
  · rintro ⟨⟨info, hinfo, htargets⟩, -⟩
    rw [hinfo]
    exact htargets
  · intro h
    obtain ⟨info, hinfo, htargets⟩ := exists_of_knownTargets h
    refine ⟨⟨info, hinfo, htargets⟩, ?_⟩
    rintro i kind use site e w - rfl hresolve site'
    exact resolve_ne_unresolvedOwner h hresolve

/-- After a call that names targets, it is the last such call that decides. -/
theorem isMixin_after_iff (s : Session ι) {before later : List (ι × Step)} {x : ι × Step}
    {name : String} {names : List String} (hx : x.2.declares? name = some names) :
    (s.after options (before ++ x :: later)).IsMixin options name ↔
      ((x :: later).filterMap fun x => x.2.declares? name).getLast? ≠ some [] := by
  have hcons : ((x :: later).filterMap fun x => x.2.declares? name) =
      names :: later.filterMap fun x => x.2.declares? name := List.filterMap_cons_some hx
  rw [isMixin_iff, knownTargets_after, List.filterMap_append, List.getLast?_append, hcons,
    List.getLast?_cons, Option.some_or, Option.elim_some]
  cases (later.filterMap fun x => x.2.declares? name).getLast?.getD names <;>
    simp [List.eraseDups_cons]

/-- From an accepted `@Mixin` on, a type stays a mixin exactly if neither that one nor a later one
on it is accepted without a target in its arguments. -/
theorem stays_mixin_iff_targets_named (s : Session ι) {before after : List (ι × Step)} {i : ι}
    {use : AnnotationUse} {name : String}
    (hkind : AnnotationKind.ofTypeName? use.typeName = some .mixin)
    (haccepted : ∃ w, resolve (options i) ⟨.mixin, use, .type name⟩
      ((s.after options before).workspace i) = .ok () w) :
    (∀ later, later <+: after →
      (s.after options (before ++ (i, .annotate use (.type name)) :: later)).IsMixin options name) ↔
    ∀ x ∈ (i, .annotate use (.type name)) :: after, ¬ x.2.DeclaresNone name := by
  obtain ⟨w, hw⟩ := haccepted
  obtain ⟨names, hnames⟩ := Step.declares?_of_accepted hkind hw
  have hdeclares : (i, Step.annotate use (.type name)).2.declares? name = some names := hnames
  simp only [isMixin_after_iff options s hdeclares, ← Step.declares?_eq_some_nil_iff]
  constructor
  · intro h x hx hempty
    rcases List.mem_cons.1 hx with rfl | hafter
    · exact h [] List.nil_prefix (by simp [hempty])
    · -- The calls up to `x` are those after which the type has no target.
      obtain ⟨earlier, rest, rfl⟩ := List.append_of_mem hafter
      refine h (earlier ++ [x]) ⟨rest, by simp⟩ ?_
      rw [← List.cons_append, List.filterMap_append, List.getLast?_append]
      simp [hempty]
  · intro h later hlater hlast
    obtain ⟨x, hx, hempty⟩ := List.mem_filterMap.1 (List.mem_of_getLast? hlast)
    exact h x ((List.cons_subset_cons _ hlater.subset) hx) hempty

end Runs

/-- A type that two files declare: the second time with a target, after which it stays a mixin. -/
theorem stays_mixin_iff_targets_named_redeclared :
    let mixin (value : AnnotationValue) : AnnotationUse :=
      ⟨"org/spongepowered/asm/mixin/Mixin", 0, .single value⟩
    let declare (value : AnnotationValue) : Step := .annotate (mixin value) (.type "mixin/A")
    let shadow : Step := .annotate ⟨"org/spongepowered/asm/mixin/Shadow", 9, .marker⟩
      (.field "mixin/A" [("x", "I")])
    let options : Bool → Options := fun _ => .default
    let s : Session Bool := ⟨Registry.empty, fun _ => Draft.new "mixin/A.java" "h"⟩
    let before := [(true, declare (.array [])), (false, shadow)]
    let after := [(true, shadow), (true, declare (.array [.type "com/Y", .type "com/Z"]))]
    (∃ w, resolve .default ⟨.mixin, mixin (.type "com/X"), .type "mixin/A"⟩
        ((s.after options before).workspace false) = .ok () w) ∧
      (∀ x ∈ (false, declare (.type "com/X")) :: after, ¬ x.2.DeclaresNone "mixin/A") ∧
      ∀ later, later <+: after → (s.after options
        (before ++ (false, declare (.type "com/X")) :: later)).IsMixin options "mixin/A" := by
  intro mixin declare shadow options s before after
  have haccepted : ∃ w, resolve .default ⟨.mixin, mixin (.type "com/X"), .type "mixin/A"⟩
      ((s.after options before).workspace false) = .ok () w := ⟨_, rfl⟩
  have hnamed : ∀ x ∈ (false, declare (.type "com/X")) :: after,
      ¬ x.2.DeclaresNone "mixin/A" := by
    simp only [← Step.declares?_eq_some_nil_iff]
    decide
  exact ⟨haccepted, hnamed,
    (stays_mixin_iff_targets_named options s (by decide) haccepted).2 hnamed⟩

/-- A mixin that is declared again with an empty array, which is accepted, is no mixin any more: a
shadow in it is rejected. -/
theorem mixin_lost_by_empty_array :
    let mixin (value : AnnotationValue) : AnnotationUse :=
      ⟨"org/spongepowered/asm/mixin/Mixin", 0, .single value⟩
    let declare (value : AnnotationValue) : Unit × Step :=
      ((), .annotate (mixin value) (.type "mixin/AMixin"))
    let shadow : Task := ⟨.shadow, ⟨"org/spongepowered/asm/mixin/Shadow", 40, .marker⟩,
      .field "mixin/AMixin" [("x", "I")]⟩
    let options : Unit → Options := fun _ => .default
    let s : Session Unit := ⟨Registry.empty, fun _ => Draft.new "mixin/AMixin.java" "h"⟩
    let first := s.after options [declare (.type "com/X")]
    let second := s.after options [declare (.type "com/X"), declare (.array [])]
    first.IsMixin options "mixin/AMixin" ∧
      (∃ w, resolve .default ⟨.mixin, mixin (.array []), .type "mixin/AMixin"⟩
        (first.workspace ()) = .ok () w) ∧
      ¬ second.IsMixin options "mixin/AMixin" ∧
      ∃ e w, resolve .default shadow (second.workspace ()) = .error e w ∧
        e.rejection = .unresolvedOwner shadow.site := by
  intro mixin declare shadow options s first second
  refine ⟨?_, ⟨_, rfl⟩, ?_, _, _, rfl, rfl⟩
  · rw [isMixin_iff]
    decide +kernel
  · rw [isMixin_iff]
    decide +kernel

end RangeIndex.Mixin
