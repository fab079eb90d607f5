import RangeIndex.Proofs.DeclaredTargets

/-!
# Soft interfaces

An `@Interface` is recorded with its type whether the type is a mixin yet or not, and nothing but
the list of interfaces tells that it was. No other call reads that list or changes it: a call does
the same before and after an `@Interface` (`effect_withInterface`), up to the interface in the entry
that it leaves. `Session.Declares` carries that along a run, so two orders of the same calls can be
compared.
-/

namespace RangeIndex.Mixin

/-- Whether a call is an `@Interface` on the type. -/
def Step.isInterfaceOn (name : String) : Step → Bool
  | .annotate use (.type owner) =>
    owner = name && AnnotationKind.ofTypeName? use.typeName = some .interface
  | _ => false

/-- The soft interface that a call declares for a type, if it is an `@Interface` on it with right
arguments. -/
def Step.softInterface? (name : String) : Step → Option SoftInterface
  | .annotate use (.type owner) =>
    if owner = name ∧ AnnotationKind.ofTypeName? use.typeName = some .interface then
      (interfaceArgs use.args).toOption.map fun (namePrefix, interface) =>
        SoftInterface.new namePrefix interface
    else
      none
  | _ => none

/-- The soft interfaces in what is known about a type. -/
def knownInterfaces (known : Option Info) : List SoftInterface :=
  (known.map Info.interfaces).getD []

/-- What is known about the type `owner` once a soft interface of it is recorded. -/
def withInterface (owner : String) (i : SoftInterface) (known : Option Info) : Option Info :=
  some ((known.getD (Info.new owner)).addInterface i)

/-! ## One call -/

section Entry

variable (owner : String) (i : SoftInterface) (known : Option Info)

-- A type of which nothing was known is no mixin for having an interface.
theorem filter_withInterface :
    (withInterface owner i known).filter Info.isValid =
      (known.filter Info.isValid).map (·.addInterface i) := by
  rcases known with _ | info
  · rfl
  · simp only [withInterface, Option.getD_some, Option.filter]
    rw [show (info.addInterface i).isValid = info.isValid from rfl]
    split <;> rfl

theorem addShadows_addInterface (info : Info) (namePrefix : String)
    (members : List (String × String)) :
    (info.addInterface i).addShadows namePrefix members =
      (info.addShadows namePrefix members).addInterface i := by
  rw [Info.addShadows_eq, Info.addShadows_eq]
  rfl

theorem addOverwrite_addInterface (info : Info) (name desc : String) :
    (info.addInterface i).addOverwrite name desc =
      (info.addOverwrite name desc).addInterface i := by
  rw [Info.addOverwrite_eq, Info.addOverwrite_eq]
  rfl

end Entry

/-- The change with a soft interface in the entry that it leaves. -/
def Change.withInterface (i : SoftInterface) (c : Change) : Change :=
  { c with info := c.info.map (·.addInterface i) }

section Verdict

variable {options : Options} {t : Task} {owner : String} (i : SoftInterface) (known : Option Info)

theorem update_withInterface {f : Info → Info}
    (hf : ∀ info, f (info.addInterface i) = (f info).addInterface i) :
    t.update (withInterface owner i known) f =
      (t.update known f).map (Change.withInterface i) := by
  unfold Task.update
  rw [filter_withInterface]
  cases known.filter Info.isValid with
  | none => rfl
  | some info =>
    simp only [Option.map_some, hf]
    rfl

theorem checked_bind_map {α : Type} (args : Except ArgumentError α) {v v' : α → Verdict}
    {f : Change → Change} (h : ∀ a, v' a = (v a).map f) :
    (checked args >>= v') = (checked args >>= v).map f := by
  cases args with
  | error cause => rfl
  | ok a => exact h a

theorem accessorRecord_map_withInterface (m : Member) (target : String) (desc : MethodDescriptor)
    (accessor : AccessorName) (value : Option StringLiteral) :
    (Task.accessorRecord m target desc accessor value).map (Change.withInterface i) =
      Task.accessorRecord m target desc accessor value := by
  cases h : Task.accessorRecord m target desc accessor value with
  | error rejection => rfl
  | ok c => rcases accessorRecord_eq_ok h with rfl | ⟨l, rfl⟩ | ⟨o, rfl⟩ <;> rfl

theorem accessorVerdict_withInterface :
    t.accessorVerdict (withInterface owner i known) =
      (t.accessorVerdict known).map (Change.withInterface i) := by
  unfold Task.accessorVerdict
  cases t.site with
  | type name => rfl
  | field owner fragments => rfl
  | method m =>
    refine checked_bind_map _ fun value => ?_
    rw [filter_withInterface]
    cases known.filter Info.isValid with
    | none => rfl
    | some info =>
      simp only [Option.map_some]
      rw [show (info.addInterface i).target? = info.target? from rfl]
      cases info.target? with
      | none => rfl
      | some target =>
        simp only [Task.accessorOf]
        cases MethodDescriptor.parse? m.desc with
        | none => rfl
        | some desc =>
          simp only []
          cases accessorName? t.kind m.name (value.map StringLiteral.value) desc with
          | none => rfl
          | some accessor => exact (accessorRecord_map_withInterface i _ _ _ _ _).symm

/-- The verdict on an annotation is the same with a soft interface of the type that the site
belongs to, unless it is an `@Interface` on that type itself. -/
theorem verdict_withInterface (howner : t.site.owner = owner)
    (h : t.kind = .interface → t.site ≠ .type owner) :
    t.verdict options (withInterface owner i known) =
      (t.verdict options known).map (Change.withInterface i) := by
  unfold Task.verdict
  cases hkind : t.kind with
  | mixin =>
    simp only [Task.mixinVerdict]
    cases hsite : t.site with
    | type name =>
      refine checked_bind_map _ fun targets => ?_
      rw [← howner, hsite]
      rfl
    | method m => rfl
    | field owner fragments => rfl
  | accessor => exact accessorVerdict_withInterface i known
  | invoker => exact accessorVerdict_withInterface i known
  | shadow =>
    refine checked_bind_map _ fun namePrefix => ?_
    cases t.site with
    | type name => rfl
    | method m =>
      exact update_withInterface i known fun info => addShadows_addInterface i info _ _
    | field owner fragments =>
      exact update_withInterface i known fun info => addShadows_addInterface i info _ _
  | overwrite =>
    refine checked_bind_map _ fun _ => ?_
    cases t.site with
    | type name => rfl
    | method m =>
      exact update_withInterface i known fun info => addOverwrite_addInterface i info _ _
    | field owner fragments => rfl
  | interface =>
    simp only [Task.interfaceVerdict]
    cases hsite : t.site with
    | type name =>
      rw [hsite] at howner h
      exact absurd (congrArg Site.type howner) (h hkind)
    | method m => rfl
    | field owner fragments => rfl

end Verdict

/-- What is known about the type `owner` after the soft interface `i?`, if there is one. -/
def declare (i? : Option SoftInterface) (owner : String) (known : Option Info) : Option Info :=
  i?.elim known fun i => withInterface owner i known

theorem declare_or (i : SoftInterface) (owner : String) (c : Change) (known : Option Info) :
    (c.withInterface i).info.or (withInterface owner i known) =
      withInterface owner i (c.info.or known) := by
  unfold Change.withInterface
  cases c.info <;> rfl

namespace Step

variable {options : Options} {filename : String}

theorem softInterface?_of_kind {use : AnnotationUse} (name : String)
    (hkind : AnnotationKind.ofTypeName? use.typeName = some .interface) :
    (annotate use (.type name)).softInterface? name =
      (interfaceArgs use.args).toOption.map fun (namePrefix, interface) =>
        SoftInterface.new namePrefix interface := by
  simp [softInterface?, hkind]

theorem softInterface?_of_kind_ne {use : AnnotationUse} (site : Site) (name : String)
    (h : AnnotationKind.ofTypeName? use.typeName ≠ some .interface) :
    (annotate use site).softInterface? name = none := by
  cases site <;> simp [softInterface?, h]

theorem softInterface?_of_owner_ne {x : Step} {name : String} (h : name ≠ x.owner) :
    x.softInterface? name = none := by
  unfold softInterface?
  split
  · exact if_neg fun hname => h hname.1.symm
  · rfl

theorem site_of_softInterface? {use : AnnotationUse} {site : Site} {name : String}
    {i : SoftInterface} (h : (annotate use site).softInterface? name = some i) :
    site = .type name := by
  cases site with
  | type owner =>
    simp only [softInterface?] at h
    split_ifs at h with hname
    rw [hname.1]
  | method m => cases h
  | field owner fragments => cases h

/-- A call that is no `@Interface` on its owner answers the same when a soft interface of that type
is known, and changes the same but for the interface. -/
theorem effect_withInterface {x : Step} (h : x.isInterfaceOn x.owner = false) (i : SoftInterface)
    (known : Option Info) :
    x.effect options filename (withInterface x.owner i known) =
      ((x.effect options filename known).1,
        (x.effect options filename known).2.withInterface i) := by
  cases x with
  | reference ref =>
    -- Without a target there is no redirection, and a new entry has none.
    have hsame : ((withInterface ref.member.owner i known).bind fun info =>
        info.redirection? ref.member) = known.bind fun info => info.redirection? ref.member := by
      cases known <;> rfl
    simp only [effect, owner, hsame]
    split <;> rfl
  | annotate use site =>
    simp only [effect, owner, AnnotationUse.verdict]
    rcases hkind : AnnotationKind.ofTypeName? use.typeName with _ | kind
    · rfl
    · have hsite : kind = .interface → site ≠ .type site.owner := by
        rintro rfl hsite
        rw [hsite] at h
        simp [isInterfaceOn, owner, Site.owner, hkind] at h
      simp only [verdict_withInterface i known (t := ⟨kind, use, site⟩) rfl hsite]
      cases Task.verdict options ⟨kind, use, site⟩ known <;> rfl

theorem effect_declare (options : Options) (filename : String) {x : Step}
    {i? : Option SoftInterface} (h : ∀ i, i? = some i → x.isInterfaceOn x.owner = false)
    (known : Option Info) :
    ∃ c, x.effect options filename (declare i? x.owner known) =
        ((x.effect options filename known).1, c) ∧
      c.occurrences = (x.effect options filename known).2.occurrences ∧
      c.links = (x.effect options filename known).2.links ∧
      c.info.or (declare i? x.owner known) =
        declare i? x.owner ((x.effect options filename known).2.info.or known) := by
  rcases i? with _ | i
  · exact ⟨_, rfl, rfl, rfl, rfl⟩
  · exact ⟨_, effect_withInterface (h i rfl) i known, rfl, rfl, declare_or i _ _ _⟩

/-- What an `@Interface` answers depends on nothing that is known, and it changes nothing but what
is known about its type. -/
theorem effect_of_interface (options : Options) (filename : String) {use : AnnotationUse}
    (site : Site) (hkind : AnnotationKind.ofTypeName? use.typeName = some .interface) :
    ∃ answer, ∀ known, ∃ c, (annotate use site).effect options filename known = (answer, c) ∧
      c.occurrences = [] ∧ c.links = [] ∧
      c.info.or known =
        declare ((annotate use site).softInterface? site.owner) site.owner known := by
  simp only [effect, AnnotationUse.verdict, hkind, Task.verdict, Task.interfaceVerdict]
  cases site with
  | method m => exact ⟨_, fun known => ⟨_, rfl, rfl, rfl, rfl⟩⟩
  | field owner fragments => exact ⟨_, fun known => ⟨_, rfl, rfl, rfl, rfl⟩⟩
  | type name =>
    rw [show (Site.type name).owner = name from rfl, softInterface?_of_kind name hkind]
    cases interfaceArgs use.args with
    | error cause => exact ⟨_, fun known => ⟨_, rfl, rfl, rfl, rfl⟩⟩
    | ok args =>
      refine ⟨⟨.ok none, [.interfaceRegistered name args.2 args.1]⟩, fun known => ⟨_, rfl, ?_⟩⟩
      exact ⟨rfl, rfl, rfl⟩

end Step

/-! ## A run -/

section Runs

variable {ι : Type} [DecidableEq ι] (options : ι → Options)

/-- The second session differs from the first one by soft interfaces, of the types for which
`declared` gives one. -/
structure Session.Declares (declared : String → Option SoftInterface) (s s' : Session ι) :
    Prop where
  drafts : s'.drafts = s.drafts
  info : ∀ name,
    s'.registry.get? name = declare (declared name) name (s.registry.get? name)

namespace Session.Declares

variable {declared : String → Option SoftInterface} {s s' : Session ι}

theorem of_interface (s : Session ι) (i : ι) {use : AnnotationUse} (site : Site)
    (hkind : AnnotationKind.ofTypeName? use.typeName = some .interface) :
    Declares (fun name => (Step.annotate use site).softInterface? name) s
      (s.step options i (.annotate use site)).2 := by
  obtain ⟨answer, hanswer⟩ :=
    Step.effect_of_interface (options i) (s.drafts i).filename site hkind
  obtain ⟨c, hc, hoccurrences, hlinks, hinfo⟩ := hanswer (s.registry.get? site.owner)
  have howner : (Step.annotate use site).owner = site.owner := rfl
  simp only [Session.step, Step.run_eq, howner, hc]
  refine ⟨funext fun j => ?_, fun name => ?_⟩
  · by_cases hj : j = i
    · subst hj
      simp [Change.draft, hoccurrences, hlinks]
    · simp [hj]
  · rw [Change.get?_registry]
    by_cases hname : name = site.owner
    · subst hname
      rw [if_pos rfl, hinfo]
    · rw [if_neg hname, Step.softInterface?_of_owner_ne hname]
      rfl

/-- A call answers the same in both sessions, which go on to differ as before. -/
theorem step (h : Declares declared s s') (i : ι) {x : Step}
    (hx : ∀ k, declared x.owner = some k → x.isInterfaceOn x.owner = false) :
    (s'.step options i x).1 = (s.step options i x).1 ∧
      Declares declared (s.step options i x).2 (s'.step options i x).2 := by
  obtain ⟨c, hc, hoccurrences, hlinks, hinfo⟩ := Step.effect_declare (options i)
    (s.drafts i).filename hx (s.registry.get? x.owner)
  rw [← h.info] at hc hinfo
  simp only [Session.step, Step.run_eq, h.drafts, hc, true_and]
  refine ⟨?_, fun name => ?_⟩
  · simp only [Change.draft, hoccurrences, hlinks]
  · rw [Change.get?_registry, Change.get?_registry]
    by_cases hname : name = x.owner
    · subst hname
      rw [if_pos rfl, if_pos rfl, hinfo]
    · rw [if_neg hname, if_neg hname, h.info]

theorem run :
    ∀ (xs : List (ι × Step)) {s s' : Session ι}, Declares declared s s' →
      (∀ x ∈ xs, ∀ k, declared x.2.owner = some k → x.2.isInterfaceOn x.2.owner = false) →
      s'.answers options xs = s.answers options xs ∧
        Declares declared (s.after options xs) (s'.after options xs)
  | [], s, s', h, _ => ⟨rfl, h⟩
  | (i, x) :: xs, s, s', h, hxs => by
    obtain ⟨hx, hrest⟩ := List.forall_mem_cons.1 hxs
    obtain ⟨hanswer, hstep⟩ := h.step options i hx
    obtain ⟨hanswers, hafter⟩ := run xs hstep hrest
    exact ⟨by rw [Session.answers, Session.answers, hanswer, hanswers], hafter⟩

end Session.Declares

namespace Session

theorem after_append (s : Session ι) :
    ∀ xs ys : List (ι × Step), s.after options (xs ++ ys) = (s.after options xs).after options ys
  | [], _ => rfl
  | (i, x) :: xs, ys => after_append (s.step options i x).2 xs ys

theorem answers_append (s : Session ι) :
    ∀ xs ys : List (ι × Step),
      s.answers options (xs ++ ys) =
        s.answers options xs ++ (s.after options xs).answers options ys
  | [], _ => rfl
  | (i, x) :: xs, ys => by
    simp only [List.cons_append, answers, after, answers_append (s.step options i x).2 xs ys]

theorem filename_after (i : ι) :
    ∀ (s : Session ι) (xs : List (ι × Step)),
      ((s.after options xs).drafts i).filename = (s.drafts i).filename
  | s, [] => rfl
  | s, (j, x) :: xs => by
    rw [after, filename_after i (s.step options j x).2 xs]
    simp only [Session.step, Step.run_eq, Change.draft]
    split
    · rename_i hj
      rw [hj]
    · rfl

/-- An `@Interface` gets the same answer after any calls as before them. -/
theorem answer_of_interface (s : Session ι) (xs : List (ι × Step)) (i : ι) {use : AnnotationUse}
    (site : Site) (hkind : AnnotationKind.ofTypeName? use.typeName = some .interface) :
    ((s.after options xs).step options i (.annotate use site)).1 =
      (s.step options i (.annotate use site)).1 := by
  obtain ⟨answer, hanswer⟩ :=
    Step.effect_of_interface (options i) (s.drafts i).filename site hkind
  simp only [Session.step, Step.run_eq, filename_after]
  obtain ⟨c, hc, -⟩ := hanswer ((s.after options xs).registry.get? (Step.annotate use site).owner)
  obtain ⟨c', hc', -⟩ := hanswer (s.registry.get? (Step.annotate use site).owner)
  rw [hc, hc']

/-- An `@Interface` before or after calls that are no `@Interface` on its type: these are answered
as without it, and the two sessions that it ends with are the same to every later call. -/
theorem declares_of_passed (s : Session ι) (i : ι) {use : AnnotationUse} {site : Site}
    (hkind : AnnotationKind.ofTypeName? use.typeName = some .interface)
    {passed : List (ι × Step)}
    (hpassed : ∀ x ∈ passed, ∀ name, site = .type name → x.2.isInterfaceOn name = false) :
    (s.step options i (.annotate use site)).2.answers options passed = s.answers options passed ∧
      Declares (fun _ => none)
        ((s.step options i (.annotate use site)).2.after options passed)
        ((s.after options passed).step options i (.annotate use site)).2 := by
  have hfirst := Declares.of_interface options s i site hkind
  have hlast := Declares.of_interface options (s.after options passed) i site hkind
  obtain ⟨hanswers, hafter⟩ := hfirst.run options passed fun x hx k hk =>
    hpassed x hx _ (Step.site_of_softInterface? hk)
  refine ⟨hanswers, hlast.drafts.trans hafter.drafts.symm, fun name => ?_⟩
  exact (hlast.info name).trans (hafter.info name).symm

end Session

/-! ## What an interface leaves -/

theorem knownInterfaces_of_accepted {options : Options} {t : Task} {known : Option Info}
    {c : Change} (h : Task.Accepted options t known c) (hkind : t.kind ≠ .interface) :
    knownInterfaces (c.info.or known) = knownInterfaces known := by
  cases h with
  | mixin => cases known <;> rfl
  | interface hinterface => exact absurd hinterface hkind
  | shadow _ _ _ hknown =>
    rw [hknown, Info.addShadows_eq]
    rfl
  | overwrite _ _ _ hknown =>
    rw [hknown, Info.addOverwrite_eq]
    rfl
  | skippedAccessor => rfl
  | accessor _ _ _ _ _ _ _ _ hrecord =>
    rcases accessorRecord_eq_ok hrecord with rfl | ⟨l, rfl⟩ | ⟨o, rfl⟩ <;> rfl

theorem knownInterfaces_declare (i? : Option SoftInterface) (owner : String)
    (known : Option Info) :
    knownInterfaces (declare i? owner known) = knownInterfaces known ++ i?.toList := by
  rcases i? with _ | i
  · simp [declare]
  · cases known <;> rfl

theorem Step.knownInterfaces_effect (options : Options) (filename : String) (known : Option Info)
    (x : Step) :
    knownInterfaces ((x.effect options filename known).2.info.or known) =
      knownInterfaces known ++ (x.softInterface? x.owner).toList := by
  cases x with
  | reference ref =>
    simp only [effect, softInterface?]
    split <;> simp [Change.nothing, Change.occurrence]
  | annotate use site =>
    rcases hkind : AnnotationKind.ofTypeName? use.typeName with _ | kind
    · rw [softInterface?_of_kind_ne site _ (by simp [hkind])]
      simp [effect, AnnotationUse.verdict, hkind, Change.nothing]
    by_cases hinterface : kind = .interface
    · subst hinterface
      obtain ⟨_, hanswer⟩ := effect_of_interface options filename site hkind
      obtain ⟨c, hc, -, -, hinfo⟩ := hanswer known
      rw [hc, hinfo, knownInterfaces_declare]
      rfl
    · rw [softInterface?_of_kind_ne site _ (by simpa [hkind] using hinterface)]
      simp only [effect, AnnotationUse.verdict, hkind, Option.toList_none, List.append_nil]
      cases hverdict : Task.verdict options ⟨kind, use, site⟩ known with
      | error rejection => rfl
      | ok c => exact knownInterfaces_of_accepted (accepted_of_verdict hverdict) hinterface

theorem knownInterfaces_step (s : Session ι) (i : ι) (x : Step) (name : String) :
    knownInterfaces ((s.step options i x).2.registry.get? name) =
      knownInterfaces (s.registry.get? name) ++ (x.softInterface? name).toList := by
  simp only [Session.step, Step.run_eq, Change.get?_registry]
  by_cases hname : name = x.owner
  · subst hname
    rw [if_pos rfl, Step.knownInterfaces_effect]
  · rw [if_neg hname, Step.softInterface?_of_owner_ne hname]
    simp

/-- The soft interfaces of a type are those that it had and those declared since, in order. -/
theorem knownInterfaces_after (name : String) :
    ∀ (xs : List (ι × Step)) (s : Session ι),
      knownInterfaces ((s.after options xs).registry.get? name) =
        knownInterfaces (s.registry.get? name) ++ xs.filterMap fun x => x.2.softInterface? name
  | [], s => by simp [Session.after]
  | (i, x) :: xs, s => by
    rw [Session.after, knownInterfaces_after name xs, knownInterfaces_step, List.filterMap_cons]
    cases x.softInterface? name <;> simp

/-- Annotations of members are rejected where the type has no targets. -/
theorem resolve_of_no_targets {o : Options} {t : Task} {w : Workspace}
    (h : knownTargets (w.registry.get? t.site.owner) = [])
    (hkind : t.kind ∈ [AnnotationKind.shadow, .overwrite, .accessor, .invoker]) :
    ∃ e, resolve o t w = .error e w := by
  have hvalid {info : Info} (hknown : w.registry.get? t.site.owner = some info) :
      ¬ info.isValid := by
    have htargets : info.targets = [] := by simpa [knownTargets, hknown] using h
    simp [Info.isValid, htargets]
  rw [resolve_eq_enact]
  cases hverdict : t.verdict o (w.registry.get? t.site.owner) with
  | error rejection => exact ⟨_, rfl⟩
  | ok c =>
    cases accepted_of_verdict hverdict with
    | mixin hmixin => simp [hmixin] at hkind
    | interface hinterface => simp [hinterface] at hkind
    | shadow _ _ _ hknown hv => exact absurd hv (hvalid hknown)
    | overwrite _ _ _ hknown hv => exact absurd hv (hvalid hknown)
    | skippedAccessor _ _ _ hknown hv => exact absurd hv (hvalid hknown)
    | accessor _ _ _ hknown hv => exact absurd hv (hvalid hknown)

/-- An `@Interface` can be moved past calls that are no `@Interface` on its type, in a run that goes
on after rejections: every call gets the same answer, and every draft and every entry of the
registry ends the same. On a type of which nothing is known it leaves an entry with the interface
and no more, and while no `@Mixin` on that type is accepted, the annotations of its members are
rejected. The interfaces of a type only grow, whatever else is declared for it. -/
theorem interface_moves_past (s : Session ι) (i : ι) (use : AnnotationUse) {site : Site}
    (hkind : AnnotationKind.ofTypeName? use.typeName = some .interface)
    (before after : List (ι × Step)) {passed : List (ι × Step)}
    (hpassed : ∀ x ∈ passed, ∀ name, site = .type name → x.2.isInterfaceOn name = false) :
    let a : Step := .annotate use site
    let earlier := before ++ (i, a) :: (passed ++ after)
    let later := before ++ (passed ++ (i, a) :: after)
    let t := s.after options before
    (∃ rest, s.answers options earlier = s.answers options before ++
        (i, (t.step options i a).1) :: (t.answers options passed ++ rest) ∧
      s.answers options later = s.answers options before ++
        (t.answers options passed ++ (i, (t.step options i a).1) :: rest)) ∧
    (s.after options earlier).drafts = (s.after options later).drafts ∧
    (∀ name, (s.after options earlier).registry.get? name =
      (s.after options later).registry.get? name) ∧
    (∀ name k, s.registry.get? name = none → a.softInterface? name = some k →
      (s.step options i a).2.registry.get? name = some { Info.new name with interfaces := [k] }) ∧
    (∀ name xs, knownTargets (s.registry.get? name) = [] →
      (∀ x ∈ xs, x.2.declares? name = none) → ∀ j kind use site,
      kind ∈ [AnnotationKind.shadow, .overwrite, .accessor, .invoker] → site.owner = name →
      ∃ e, resolve (options j) ⟨kind, use, site⟩ ((s.after options xs).workspace j) =
        .error e ((s.after options xs).workspace j)) ∧
    ∀ name xs, knownInterfaces ((s.after options xs).registry.get? name) =
      knownInterfaces (s.registry.get? name) ++ xs.filterMap fun x => x.2.softInterface? name := by
  intro a earlier later t
  obtain ⟨hanswers, hsame⟩ := t.declares_of_passed options i hkind hpassed
  obtain ⟨hrest, hend⟩ := hsame.run options after (by simp)
  refine ⟨⟨((t.step options i a).2.after options passed).answers options after, ?_, ?_⟩, ?_,
    fun name => ?_, fun name k hnone hk => ?_, ?_, ?_⟩
  · simp only [earlier, Session.answers_append, Session.answers, t, a, hanswers]
  · rw [← hrest]
    simp only [later, Session.answers_append, Session.answers, t, a]
    rw [Session.answer_of_interface options _ passed i site hkind]
  · simp only [earlier, later, Session.after_append, Session.after]
    exact hend.drafts.symm
  · simp only [earlier, later, Session.after_append, Session.after]
    exact (hend.info name).symm
  · rw [(Session.Declares.of_interface options s i site hkind).info name, hnone]
    simp only [a] at hk
    rw [hk]
    rfl
  · intro name xs hnone hxs j kind use site hmember howner
    refine resolve_of_no_targets ?_ hmember
    have hdeclares : (xs.filterMap fun x => x.2.declares? name) = [] :=
      List.filterMap_eq_nil_iff.2 hxs
    simp only [Session.workspace, howner]
    rw [knownTargets_after, hdeclares]
    exact hnone
  · exact fun name xs => knownInterfaces_after options name xs s

end Runs

/-- An `@Interface` that comes before the `@Mixin` of its type, the shadow and the accessor in it,
and one that comes after them and after an `@Interface` on another type. -/
theorem interface_moves_past_mixin :
    let soft (target : String) : AnnotationUse := ⟨"org/spongepowered/asm/mixin/Interface", 0,
      .named [("iface", .type target), ("prefix", .string (.quoted 20 "api$"))]⟩
    let a : Step := .annotate (soft "com/api/Thing") (.type "mixin/A")
    let passed : List (Unit × Step) := [
      ((), .annotate ⟨"org/spongepowered/asm/mixin/Mixin", 40, .single (.type "com/X")⟩
        (.type "mixin/A")),
      ((), .annotate (soft "com/api/Other") (.type "mixin/B")),
      ((), .annotate ⟨"org/spongepowered/asm/mixin/Shadow", 60, .marker⟩
        (.field "mixin/A" [("x", "I")])),
      ((), .annotate ⟨"org/spongepowered/asm/mixin/gen/Accessor", 80, .marker⟩
        (.method ⟨"mixin/A", "getFoo", "()I"⟩))]
    let options : Unit → Options := fun _ => ⟨false, defaultShadowPrefix⟩
    let s : Session Unit := ⟨Registry.empty, fun _ => Draft.new "mixin/A.java" "h"⟩
    let info := (s.after options (((), a) :: passed)).registry.get? "mixin/A"
    (∀ x ∈ passed, ∀ name, Site.type "mixin/A" = .type name → x.2.isInterfaceOn name = false) ∧
      info = (s.after options (passed ++ [((), a)])).registry.get? "mixin/A" ∧
      knownTargets info = ["com/X"] ∧
      knownInterfaces info = [SoftInterface.new "api$" "com/api/Thing"] := by
  intro soft a passed options s info
  have hpassed : ∀ x ∈ passed, ∀ name, Site.type "mixin/A" = .type name →
      x.2.isInterfaceOn name = false := by
    intro x hx name hname
    cases hname
    revert x
    decide
  obtain ⟨-, -, hinfo, -, -, hinterfaces⟩ :=
    interface_moves_past options s () (soft "com/api/Thing") (by decide) [] [] hpassed
  have hinfo := hinfo "mixin/A"
  simp only [List.append_nil, List.nil_append] at hinfo
  refine ⟨hpassed, hinfo, by decide +kernel, ?_⟩
  simp only [info]
  rw [hinterfaces "mixin/A" (((), a) :: passed)]
  decide +kernel

end RangeIndex.Mixin
