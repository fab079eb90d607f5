import Mathlib.Tactic.SplitIfs
import RangeIndex.Mixin.Resolve
import RangeIndex.Proofs.Outcomes

/-!
# What an annotation comes to

Handling an annotation is a decision and then a change. The decision looks at the annotation and at
what the registry knows about the type that the site belongs to, and at nothing else; the change
replaces that type's entry and adds to the draft, and nothing else. `Task.verdict` is the decision
and `Change.apply` the change, and `resolve_eq_enact` says that handling is one after the other. So
a rejected annotation changes nothing, whatever was read before it was rejected.
-/

namespace RangeIndex.Mixin

/-- What an accepted annotation changes. -/
structure Change where
  /-- The new entry of the type that the site belongs to, unless the old one stays. -/
  info : Option Info
  occurrences : List Occurrence
  links : List AccessorLink
  events : List MixinEvent

namespace Change

def nothing : Change := ⟨none, [], [], []⟩

def entry (info : Info) : Change := { nothing with info := some info }

def occurrence (o : Occurrence) : Change := { nothing with occurrences := [o] }

def link (l : AccessorLink) : Change := { nothing with links := [l] }

/-- The registry after the change, where `owner` is the type that the site belongs to. -/
def registry (c : Change) (owner : String) (r : Registry) : Registry :=
  match c.info with
  | some info => r.insert owner info
  | none => r

def draft (c : Change) (d : Draft) : Draft :=
  { d with occurrences := d.occurrences ++ c.occurrences, links := d.links ++ c.links }

def apply (c : Change) (owner : String) (w : Workspace) : Workspace :=
  ⟨c.registry owner w.registry, c.draft w.draft, w.events ++ c.events⟩

theorem get?_registry (c : Change) (owner other : String) (r : Registry) :
    (c.registry owner r).get? other =
      if other = owner then c.info.or (r.get? owner) else r.get? other := by
  unfold registry
  split
  · rename_i info hinfo
    rw [OrderedMap.get?_insert, hinfo]
    rfl
  · rename_i hinfo
    rw [hinfo]
    split
    · rename_i h
      rw [h]
      rfl
    · rfl

theorem draft_nothing (d : Draft) : nothing.draft d = d := by
  simp [draft, nothing]

theorem draft_occurrence (o : Occurrence) (d : Draft) :
    (occurrence o).draft d = d.addOccurrence o := by
  simp [draft, occurrence, nothing, Draft.addOccurrence]

theorem draft_link (l : AccessorLink) (d : Draft) : (link l).draft d = d.addLink l := by
  simp [draft, link, nothing, Draft.addLink]

theorem apply_nothing (owner : String) (w : Workspace) : nothing.apply owner w = w := by
  simp [apply, registry, draft, nothing]

theorem apply_occurrence (o : Occurrence) (owner : String) (w : Workspace) :
    (occurrence o).apply owner w = { w with draft := w.draft.addOccurrence o } := by
  simp [apply, registry, draft, occurrence, nothing, Draft.addOccurrence]

theorem apply_link (l : AccessorLink) (owner : String) (w : Workspace) :
    (link l).apply owner w = { w with draft := w.draft.addLink l } := by
  simp [apply, registry, draft, link, nothing, Draft.addLink]

theorem apply_entry (info : Info) (owner : String) (w : Workspace) :
    (entry info).apply owner w = { w with registry := w.registry.insert owner info } := by
  simp [apply, registry, draft, entry, nothing]

end Change

/-! ## The decision -/

abbrev Verdict := Except Rejection Change

def checked {α : Type} (args : Except ArgumentError α) : Except Rejection α :=
  args.mapError .invalidArgument

/-- The members that a site declares, by name and descriptor. -/
def Site.members : Site → List (String × String)
  | .type _ => []
  | .method m => [(m.name, m.desc)]
  | .field _ fragments => fragments

/-- What is known about the mixin with shadows for the given members. -/
def Info.addShadows (info : Info) (namePrefix : String) (members : List (String × String)) : Info :=
  members.foldl (fun info m => info.addShadow ⟨m.1, m.2, namePrefix⟩) info

theorem Info.addShadows_eq (info : Info) (namePrefix : String)
    (members : List (String × String)) :
    info.addShadows namePrefix members =
      { info with
        shadows := members.foldl (fun shadows m =>
          shadows.insert (shadowKey m.1 m.2) ⟨m.1, m.2, namePrefix⟩) info.shadows } := by
  unfold addShadows
  induction members generalizing info with
  | nil => rfl
  | cons m members ih =>
    rw [List.foldl_cons, ih]
    rfl

theorem Info.addOverwrite_eq (info : Info) (name desc : String) :
    info.addOverwrite name desc =
      { info with
        overwrites := if info.overwrites.contains (name ++ desc) then info.overwrites
          else info.overwrites ++ [name ++ desc] } := by
  unfold addOverwrite
  split <;> rfl

namespace Task

def update (t : Task) (known : Option Info) (f : Info → Info) : Verdict :=
  match known.filter Info.isValid with
  | some info => .ok (.entry (f info))
  | none => .error (.unresolvedOwner t.site)

def mixinVerdict (t : Task) (known : Option Info) : Verdict :=
  match t.site with
  | .type owner => do
    let targets ← checked (MixinTargets.ofArgs t.use.args)
    return {
      info := some ((known.getD (Info.new owner)).setTargets targets.names)
      occurrences := targets.literals.map fun l =>
        l.occurrence (.typeLiteral (internalName l.value))
      links := []
      events := [.registered owner targets.names.eraseDups] }
  | site => .error (.invalidSite site)

def accessorRecord (method : Member) (target : String) (desc : MethodDescriptor)
    (accessor : AccessorName) (value : Option StringLiteral) : Verdict :=
  let link (name desc : String) : Verdict :=
    .ok (.link ⟨method, ⟨target, name, desc⟩, accessor.namePrefix⟩)
  let literal (l : StringLiteral) (referent : Referent) : Verdict :=
    .ok (.occurrence (l.occurrence referent))
  match accessor.role, value with
  | .getter, none => link accessor.target desc.result.display
  | .getter, some l => literal l (.fieldLiteral target accessor.target)
  | .setter, value =>
    match desc.params, value with
    | [], _ => .error (.unresolvedName method)
    | param :: _, none => link accessor.target param.display
    | _ :: _, some l => literal l (.fieldLiteral target accessor.target)
  | .proxy, none => link accessor.target method.desc
  | .proxy, some l => literal l (.methodLiteral ⟨target, accessor.target, method.desc⟩)
  | .factory, none => link AccessorName.constructorName desc.withVoidReturn.display
  | .factory, some l =>
    if l.value = AccessorName.constructorName then
      .ok .nothing
    else if internalName l.value = target then
      literal l (.typeLiteral target)
    else
      .error (.targetMismatch target (internalName l.value))

/-- The verdict on an accessor of a mixin with the given target. -/
def accessorOf (t : Task) (method : Member) (info : Info) (target : String)
    (value : Option StringLiteral) : Verdict :=
  match MethodDescriptor.parse? method.desc with
  | none => .error (.unresolvedName method)
  | some desc =>
    match accessorName? t.kind method.name (value.map StringLiteral.value) desc with
    | none => .error (.unresolvedName method)
    | some accessor =>
      accessorRecord { method with owner := info.owner } target desc accessor value

/-- The verdict on `@Accessor` or `@Invoker`. -/
def accessorVerdict (t : Task) (known : Option Info) : Verdict :=
  match t.site with
  | .method method => do
    let value ← checked (accessorArgs t.use.args)
    match known.filter Info.isValid with
    | none => .error (.unresolvedOwner t.site)
    | some info =>
      match info.target? with
      | none =>
        .ok { Change.nothing with events := [.accessorSkipped method.owner method.name] }
      | some target => t.accessorOf method info target value
  | site => .error (.invalidSite site)

def shadowVerdict (options : Options) (t : Task) (known : Option Info) : Verdict := do
  let namePrefix ← checked (shadowArgs options.shadowPrefix t.use.args)
  match t.site with
  | .type name => .error (.invalidSite (.type name))
  | site => t.update known fun info => info.addShadows namePrefix site.members

def overwriteVerdict (t : Task) (known : Option Info) : Verdict := do
  checked (overwriteArgs t.use.args)
  match t.site with
  | .method m => t.update known fun info => info.addOverwrite m.name m.desc
  | site => .error (.invalidSite site)

def interfaceVerdict (t : Task) (known : Option Info) : Verdict :=
  match t.site with
  | .type owner => do
    let (namePrefix, interface) ← checked (interfaceArgs t.use.args)
    return { Change.entry ((known.getD (Info.new owner)).addInterface
        (SoftInterface.new namePrefix interface)) with
      events := [.interfaceRegistered owner interface namePrefix] }
  | site => .error (.invalidSite site)

/-- The verdict on an annotation, where `known` is what the registry knows about the type that the
site belongs to. -/
def verdict (options : Options) (t : Task) (known : Option Info) : Verdict :=
  match t.kind with
  | .mixin => t.mixinVerdict known
  | .accessor | .invoker => t.accessorVerdict known
  | .shadow => t.shadowVerdict options known
  | .overwrite => t.overwriteVerdict known
  | .interface => t.interfaceVerdict known

def error (t : Task) (filename : String) (rejection : Rejection) : ResolveError :=
  ⟨⟨filename, t.use.start⟩, t.kind, rejection⟩

def enact (t : Task) (v : Verdict) : Resolve Unit := fun w =>
  match v with
  | .ok c => .ok () (c.apply t.site.owner w)
  | .error rejection => .error (t.error w.draft.filename rejection) w

end Task

/-! ## Handling is acting on the verdict -/

section Handling

variable (t : Task) (w : Workspace)

theorem reject_eq_enact (rejection : Rejection) :
    t.reject rejection w = t.enact (.error rejection) w := rfl

theorem get_bind_apply {α : Type} (k : Workspace → Resolve α) : (get >>= k) w = k w w := rfl

theorem withArgs_bind_eq_enact {α : Type} (args : Except ArgumentError α) {k : α → Resolve Unit}
    {v : α → Verdict} (h : ∀ a, k a w = t.enact (v a) w) :
    (t.withArgs args >>= k) w = t.enact (checked args >>= v) w := by
  cases args with
  | error cause => rfl
  | ok a => exact h a

theorem addOccurrence_eq_enact (o : Occurrence) :
    modifyDraft (fun d => d.addOccurrence o) w = t.enact (.ok (.occurrence o)) w := by
  simp only [Task.enact, Change.apply_occurrence]
  rfl

theorem addLink_eq_enact (l : AccessorLink) :
    modifyDraft (fun d => d.addLink l) w = t.enact (.ok (.link l)) w := by
  simp only [Task.enact, Change.apply_link]
  rfl

theorem nothing_eq_enact : (pure () : Resolve Unit) w = t.enact (.ok .nothing) w := by
  simp only [Task.enact, Change.apply_nothing]
  rfl

theorem updateOwner_eq_enact (f : Info → Info) :
    t.updateOwner f w = t.enact (t.update (w.registry.get? t.site.owner) f) w := by
  unfold Task.updateOwner Task.update
  rw [get_bind_apply, Registry.update?, Registry.getMixin?]
  cases (w.registry.get? t.site.owner).filter Info.isValid with
  | none => rfl
  | some info =>
    simp only [Task.enact, Change.apply_entry]
    rfl

theorem foldl_addOccurrence (os : List Occurrence) :
    ∀ d : Draft, os.foldl Draft.addOccurrence d =
      { d with occurrences := d.occurrences ++ os } := by
  induction os with
  | nil => simp
  | cons o os ih =>
    intro d
    rw [List.foldl_cons, ih]
    simp [Draft.addOccurrence]

theorem resolveMixin_eq_enact :
    resolveMixin t w = t.enact (t.mixinVerdict (w.registry.get? t.site.owner)) w := by
  unfold resolveMixin Task.mixinVerdict
  cases hsite : t.site with
  | type owner =>
    refine withArgs_bind_eq_enact t w _ fun targets => ?_
    have hdraft (d : Draft) : targets.literals.foldl (fun d literal =>
        d.addOccurrence (literal.occurrence (.typeLiteral (internalName literal.value)))) d =
          { d with occurrences := d.occurrences ++ targets.literals.map fun l =>
            l.occurrence (.typeLiteral (internalName l.value)) } := by
      rw [← foldl_addOccurrence, List.foldl_map]
    show EStateM.Result.ok () _ = EStateM.Result.ok () _
    simp [Change.apply, Change.registry, Change.draft, hdraft, hsite, Site.owner, Registry.upsert]
  | method m => rfl
  | field owner fragments => rfl

theorem recordAccessor_eq_enact (method : Member) (target : String) (desc : MethodDescriptor)
    (accessor : AccessorName) (value : Option StringLiteral) :
    recordAccessor t method target desc accessor value w =
      t.enact (Task.accessorRecord method target desc accessor value) w := by
  unfold recordAccessor Task.accessorRecord
  cases accessor.role with
  | getter =>
    cases value with
    | none => exact addLink_eq_enact t w _
    | some l => exact addOccurrence_eq_enact t w _
  | setter =>
    cases desc.params with
    | nil => exact reject_eq_enact t w _
    | cons param params =>
      cases value with
      | none => exact addLink_eq_enact t w _
      | some l => exact addOccurrence_eq_enact t w _
  | proxy =>
    cases value with
    | none => exact addLink_eq_enact t w _
    | some l => exact addOccurrence_eq_enact t w _
  | factory =>
    cases value with
    | none => exact addLink_eq_enact t w _
    | some l =>
      simp only []
      split_ifs
      · exact nothing_eq_enact t w
      · exact addOccurrence_eq_enact t w _
      · exact reject_eq_enact t w _

theorem resolveAccessor_eq_enact :
    resolveAccessor t w = t.enact (t.accessorVerdict (w.registry.get? t.site.owner)) w := by
  unfold resolveAccessor Task.accessorVerdict
  cases hsite : t.site with
  | method method =>
    refine withArgs_bind_eq_enact t w _ fun value => ?_
    rw [get_bind_apply, Registry.getMixin?, Site.owner]
    cases (w.registry.get? method.owner).filter Info.isValid with
    | none => rfl
    | some info =>
      simp only [Task.accessorOf]
      cases info.target? with
      | none =>
        show EStateM.Result.ok () _ = EStateM.Result.ok () _
        simp [Change.apply, Change.registry, Change.draft, Change.nothing]
      | some target =>
        simp only []
        cases MethodDescriptor.parse? method.desc with
        | none => rfl
        | some desc =>
          simp only []
          cases accessorName? t.kind method.name (value.map StringLiteral.value) desc with
          | none => rfl
          | some accessor => exact recordAccessor_eq_enact t w _ target desc accessor value
  | type name => rfl
  | field owner fragments => rfl

theorem resolveShadow_eq_enact (options : Options) :
    resolveShadow options t w =
      t.enact (t.shadowVerdict options (w.registry.get? t.site.owner)) w := by
  unfold resolveShadow Task.shadowVerdict
  refine withArgs_bind_eq_enact t w _ fun namePrefix => ?_
  cases hsite : t.site with
  | type name => rfl
  | method m =>
    have h := updateOwner_eq_enact t w fun info => info.addShadows namePrefix [(m.name, m.desc)]
    rw [hsite] at h
    exact h
  | field owner fragments =>
    have h := updateOwner_eq_enact t w fun info => info.addShadows namePrefix fragments
    rw [hsite] at h
    exact h

theorem resolveOverwrite_eq_enact :
    resolveOverwrite t w = t.enact (t.overwriteVerdict (w.registry.get? t.site.owner)) w := by
  unfold resolveOverwrite Task.overwriteVerdict
  refine withArgs_bind_eq_enact t w _ fun _ => ?_
  cases hsite : t.site with
  | method m =>
    have h := updateOwner_eq_enact t w fun info => info.addOverwrite m.name m.desc
    rw [hsite] at h
    exact h
  | type name => rfl
  | field owner fragments => rfl

theorem resolveInterface_eq_enact :
    resolveInterface t w = t.enact (t.interfaceVerdict (w.registry.get? t.site.owner)) w := by
  unfold resolveInterface Task.interfaceVerdict
  cases hsite : t.site with
  | type owner =>
    refine withArgs_bind_eq_enact t w _ fun ⟨namePrefix, interface⟩ => ?_
    show EStateM.Result.ok () _ = EStateM.Result.ok () _
    simp [Change.apply, Change.registry, Change.draft, Change.entry, Change.nothing, hsite,
      Site.owner, Registry.upsert]
  | method m => rfl
  | field owner fragments => rfl

/-- Handling an annotation is acting on the verdict about it. -/
theorem resolve_eq_enact (options : Options) :
    resolve options t w = t.enact (t.verdict options (w.registry.get? t.site.owner)) w := by
  unfold resolve Task.verdict
  cases t.kind with
  | mixin => exact resolveMixin_eq_enact t w
  | accessor => exact resolveAccessor_eq_enact t w
  | invoker => exact resolveAccessor_eq_enact t w
  | shadow => exact resolveShadow_eq_enact t w options
  | overwrite => exact resolveOverwrite_eq_enact t w
  | interface => exact resolveInterface_eq_enact t w

end Handling

theorem resolve_eq_ok {options : Options} {t : Task} {w w' : Workspace}
    (h : resolve options t w = .ok () w') :
    ∃ c, t.verdict options (w.registry.get? t.site.owner) = .ok c ∧
      w' = c.apply t.site.owner w := by
  rw [resolve_eq_enact] at h
  unfold Task.enact at h
  split at h
  · rename_i c hverdict
    cases h
    exact ⟨c, hverdict, rfl⟩
  · cases h

/-- The verdict on an annotation of any kind in a file. One of an unknown kind changes nothing. -/
def AnnotationUse.verdict (options : Options) (use : AnnotationUse) (site : Site)
    (filename : String) (known : Option Info) : Except ResolveError Change :=
  match AnnotationKind.ofTypeName? use.typeName with
  | none => .ok .nothing
  | some kind =>
    let t : Task := ⟨kind, use, site⟩
    (t.verdict options known).mapError (t.error filename)

theorem verdict_eq_ok {options : Options} {use : AnnotationUse} {site : Site} {filename : String}
    {known : Option Info} {c : Change} (h : use.verdict options site filename known = .ok c) :
    c = .nothing ∨ ∃ kind, AnnotationKind.ofTypeName? use.typeName = some kind ∧
      Task.verdict options ⟨kind, use, site⟩ known = .ok c := by
  unfold AnnotationUse.verdict at h
  split at h
  · cases h
    exact .inl rfl
  · rename_i kind hkind
    exact .inr ⟨kind, hkind, mapError_eq_ok_iff.1 h⟩

def Workspace.log (w : Workspace) (e : MixinEvent) : Workspace :=
  { w with events := w.events ++ [e] }

/-- Handling an annotation of any kind: its verdict is acted on, and a rejection is reported. -/
theorem process_eq (options : Options) (use : AnnotationUse) (site : Site) (w : Workspace) :
    process options use site w =
      match use.verdict options site w.draft.filename (w.registry.get? site.owner) with
      | .ok c => .ok () (c.apply site.owner w)
      | .error e =>
        if options.fatal then .error e (w.log (.rejected e)) else .ok () (w.log (.rejected e)) := by
  unfold process AnnotationUse.verdict
  cases AnnotationKind.ofTypeName? use.typeName with
  | none =>
    simp only [Change.apply_nothing]
    rfl
  | some kind =>
    simp only [resolve_eq_enact, Task.enact]
    cases Task.verdict options ⟨kind, use, site⟩ (w.registry.get? site.owner) <;> rfl

/-! ## Accepted annotations -/

/-- The ways to be accepted, with the change that each makes. -/
inductive Task.Accepted (options : Options) (t : Task) (known : Option Info) : Change → Prop
  | mixin {owner : String} {targets : MixinTargets} :
      t.kind = .mixin → t.site = .type owner → MixinTargets.ofArgs t.use.args = .ok targets →
      Accepted options t known {
        info := some ((known.getD (Info.new owner)).setTargets targets.names)
        occurrences := targets.literals.map fun l =>
          l.occurrence (.typeLiteral (internalName l.value))
        links := []
        events := [.registered owner targets.names.eraseDups] }
  | interface {owner namePrefix interface : String} :
      t.kind = .interface → t.site = .type owner →
      interfaceArgs t.use.args = .ok (namePrefix, interface) →
      Accepted options t known { Change.entry ((known.getD (Info.new owner)).addInterface
          (SoftInterface.new namePrefix interface)) with
        events := [.interfaceRegistered owner interface namePrefix] }
  | shadow {namePrefix : String} {info : Info} :
      t.kind = .shadow → (∀ name, t.site ≠ .type name) →
      shadowArgs options.shadowPrefix t.use.args = .ok namePrefix →
      known = some info → info.isValid →
      Accepted options t known (.entry (info.addShadows namePrefix t.site.members))
  | overwrite {m : Member} {info : Info} :
      t.kind = .overwrite → t.site = .method m → overwriteArgs t.use.args = .ok () →
      known = some info → info.isValid →
      Accepted options t known (.entry (info.addOverwrite m.name m.desc))
  | skippedAccessor {m : Member} {value : Option StringLiteral} {info : Info} :
      t.kind = .accessor ∨ t.kind = .invoker → t.site = .method m →
      accessorArgs t.use.args = .ok value → known = some info → info.isValid →
      info.target? = none →
      Accepted options t known
        { Change.nothing with events := [.accessorSkipped m.owner m.name] }
  | accessor {m : Member} {value : Option StringLiteral} {info : Info} {target : String}
      {desc : MethodDescriptor} {accessor : AccessorName} {c : Change} :
      t.kind = .accessor ∨ t.kind = .invoker → t.site = .method m →
      accessorArgs t.use.args = .ok value → known = some info → info.isValid →
      info.target? = some target → MethodDescriptor.parse? m.desc = some desc →
      accessorName? t.kind m.name (value.map StringLiteral.value) desc = some accessor →
      Task.accessorRecord { m with owner := info.owner } target desc accessor value = .ok c →
      Accepted options t known c

section Accepted

variable {options : Options} {t : Task} {known : Option Info} {c : Change}

theorem checked_eq_ok_iff {α : Type} {args : Except ArgumentError α} {a : α} :
    checked args = .ok a ↔ args = .ok a := mapError_eq_ok_iff

theorem update_eq_ok {f : Info → Info} (h : t.update known f = .ok c) :
    ∃ info, known = some info ∧ info.isValid ∧ c = .entry (f info) := by
  unfold Task.update at h
  split at h
  · rename_i info hinfo
    cases h
    obtain ⟨hknown, hvalid⟩ := Option.filter_eq_some_iff.1 hinfo
    exact ⟨info, hknown, hvalid, rfl⟩
  · cases h

theorem mixinVerdict_eq_ok (hkind : t.kind = .mixin) (h : t.mixinVerdict known = .ok c) :
    Task.Accepted options t known c := by
  unfold Task.mixinVerdict at h
  split at h
  · rename_i owner hsite
    obtain ⟨targets, hargs, hc⟩ := bind_eq_ok_iff.1 h
    cases hc
    exact .mixin hkind hsite (checked_eq_ok_iff.1 hargs)
  · cases h

theorem interfaceVerdict_eq_ok (hkind : t.kind = .interface)
    (h : t.interfaceVerdict known = .ok c) : Task.Accepted options t known c := by
  unfold Task.interfaceVerdict at h
  split at h
  · rename_i owner hsite
    obtain ⟨⟨namePrefix, interface⟩, hargs, hc⟩ := bind_eq_ok_iff.1 h
    cases hc
    exact .interface hkind hsite (checked_eq_ok_iff.1 hargs)
  · cases h

theorem shadowVerdict_eq_ok (hkind : t.kind = .shadow) (h : t.shadowVerdict options known = .ok c) :
    Task.Accepted options t known c := by
  obtain ⟨namePrefix, hargs, h⟩ := bind_eq_ok_iff.1 h
  split at h
  · cases h
  · rename_i hsite
    obtain ⟨info, hknown, hvalid, rfl⟩ := update_eq_ok h
    exact .shadow hkind hsite (checked_eq_ok_iff.1 hargs) hknown hvalid

theorem overwriteVerdict_eq_ok (hkind : t.kind = .overwrite)
    (h : t.overwriteVerdict known = .ok c) : Task.Accepted options t known c := by
  obtain ⟨_, hargs, h⟩ := bind_eq_ok_iff.1 h
  split at h
  · rename_i m hsite
    obtain ⟨info, hknown, hvalid, rfl⟩ := update_eq_ok h
    exact .overwrite hkind hsite (checked_eq_ok_iff.1 hargs) hknown hvalid
  · cases h

theorem accessorVerdict_eq_ok (hkind : t.kind = .accessor ∨ t.kind = .invoker)
    (h : t.accessorVerdict known = .ok c) : Task.Accepted options t known c := by
  unfold Task.accessorVerdict at h
  split at h
  · rename_i m hsite
    obtain ⟨value, hargs, h⟩ := bind_eq_ok_iff.1 h
    have hargs := checked_eq_ok_iff.1 hargs
    split at h
    · cases h
    · rename_i info hinfo
      obtain ⟨hknown, hvalid⟩ := Option.filter_eq_some_iff.1 hinfo
      split at h
      · rename_i htarget
        cases h
        exact .skippedAccessor hkind hsite hargs hknown hvalid htarget
      · rename_i target htarget
        unfold Task.accessorOf at h
        split at h
        · cases h
        · rename_i desc hdesc
          split at h
          · cases h
          · rename_i accessor hname
            exact .accessor hkind hsite hargs hknown hvalid htarget hdesc hname h
  · cases h

/-- An annotation is accepted in these ways only. -/
theorem accepted_of_verdict (h : t.verdict options known = .ok c) :
    Task.Accepted options t known c := by
  cases hkind : t.kind with
  | mixin =>
    simp only [Task.verdict, hkind] at h
    exact mixinVerdict_eq_ok hkind h
  | accessor =>
    simp only [Task.verdict, hkind] at h
    exact accessorVerdict_eq_ok (.inl hkind) h
  | invoker =>
    simp only [Task.verdict, hkind] at h
    exact accessorVerdict_eq_ok (.inr hkind) h
  | shadow =>
    simp only [Task.verdict, hkind] at h
    exact shadowVerdict_eq_ok hkind h
  | overwrite =>
    simp only [Task.verdict, hkind] at h
    exact overwriteVerdict_eq_ok hkind h
  | interface =>
    simp only [Task.verdict, hkind] at h
    exact interfaceVerdict_eq_ok hkind h

/-- An accessor that is recorded adds one link, one occurrence or nothing. -/
theorem accessorRecord_eq_ok {method : Member} {target : String} {desc : MethodDescriptor}
    {accessor : AccessorName} {value : Option StringLiteral}
    (h : Task.accessorRecord method target desc accessor value = .ok c) :
    c = .nothing ∨ (∃ l, c = .link l) ∨ ∃ o, c = .occurrence o := by
  unfold Task.accessorRecord at h
  split at h
  · cases h
    exact .inr (.inl ⟨_, rfl⟩)
  · cases h
    exact .inr (.inr ⟨_, rfl⟩)
  · split at h
    · cases h
    · cases h
      exact .inr (.inl ⟨_, rfl⟩)
    · cases h
      exact .inr (.inr ⟨_, rfl⟩)
  · cases h
    exact .inr (.inl ⟨_, rfl⟩)
  · cases h
    exact .inr (.inr ⟨_, rfl⟩)
  · cases h
    exact .inr (.inl ⟨_, rfl⟩)
  · split_ifs at h
    · cases h
      exact .inl rfl
    · cases h
      exact .inr (.inr ⟨_, rfl⟩)

end Accepted

end RangeIndex.Mixin
