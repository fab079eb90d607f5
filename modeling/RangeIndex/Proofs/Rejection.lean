import RangeIndex.Proofs.Verdict

/-!
# Rejected annotations leave no trace

A rejected annotation changes neither the registry nor the draft; all that is left of it is the
warning. So a run in which rejections are only reported ends as if the annotations that it warns
about were not there, and a run in which they are errors stops at the first of them, with what the
other run has at that point.

Which annotations a run warns about is read off the log (`quiet`). The runs are compared by
`SameContent`: the log aside, a workspace is its registry and its draft, and no verdict depends on
anything else.
-/

namespace RangeIndex.Mixin

/-- An annotation and the site that it is used on. -/
structure Annotated where
  use : AnnotationUse
  site : Site

/-- The options with a rejected annotation an error or not. -/
def Options.withFatal (options : Options) (fatal : Bool) : Options :=
  { options with fatal := fatal }

/-- Handles annotations one after the other, up to the first error. -/
def processAll (options : Options) (as : List Annotated) : Resolve Unit :=
  as.forM fun a => process options a.use a.site

/-- Whether a warning was reported between two states. -/
def Workspace.warnsUntil (w w' : Workspace) : Bool :=
  (w'.events.drop w.events.length).any fun e => e.record.level == .warn

/-- The annotations about which no warning is reported while all of them are handled and no
rejection is an error. -/
def quiet (options : Options) : List Annotated → Workspace → List Annotated
  | [], _ => []
  | a :: as, w =>
    match process (options.withFatal false) a.use a.site w with
    | .ok _ w' | .error _ w' =>
      if w.warnsUntil w' then quiet options as w' else a :: quiet options as w'

/-! ## One annotation -/

theorem level_ne_warn {options : Options} {t : Task} {known : Option Info} {c : Change}
    (h : t.verdict options known = .ok c) : ∀ e ∈ c.events, e.record.level ≠ .warn := by
  cases accepted_of_verdict h with
  | mixin => simp [MixinEvent.record]
  | interface => simp [MixinEvent.record]
  | shadow => simp [Change.entry, Change.nothing]
  | overwrite => simp [Change.entry, Change.nothing]
  | skippedAccessor => simp [MixinEvent.record]
  | accessor _ _ _ _ _ _ _ _ hrecord =>
    rcases accessorRecord_eq_ok hrecord with rfl | ⟨l, rfl⟩ | ⟨o, rfl⟩ <;>
      simp [Change.link, Change.occurrence, Change.nothing]

namespace Annotated

/-- The verdict on an annotation in the state `w`. -/
def verdictIn (options : Options) (a : Annotated) (w : Workspace) : Except ResolveError Change :=
  a.use.verdict options a.site w.draft.filename (w.registry.get? a.site.owner)

variable {options : Options} {a : Annotated} {w : Workspace}

-- Whether a rejection is an error has no part in the verdict.
theorem verdictIn_withFatal (options : Options) (a : Annotated) (w : Workspace) (fatal : Bool) :
    a.verdictIn (options.withFatal fatal) w = a.verdictIn options w := rfl

theorem process_of_ok {c : Change} (h : a.verdictIn options w = .ok c) (fatal : Bool) :
    process (options.withFatal fatal) a.use a.site w = .ok () (c.apply a.site.owner w) := by
  have hfatal := (verdictIn_withFatal options a w fatal).trans h
  unfold verdictIn at hfatal
  rw [process_eq, hfatal]

theorem process_of_error {e : ResolveError} (h : a.verdictIn options w = .error e) (fatal : Bool) :
    process (options.withFatal fatal) a.use a.site w =
      if fatal then .error e (w.log (.rejected e)) else .ok () (w.log (.rejected e)) := by
  have hfatal := (verdictIn_withFatal options a w fatal).trans h
  unfold verdictIn at hfatal
  rw [process_eq, hfatal]
  rfl

theorem not_warnsUntil_of_ok {c : Change} (h : a.verdictIn options w = .ok c) :
    w.warnsUntil (c.apply a.site.owner w) = false := by
  have hlevel : ∀ e ∈ c.events, e.record.level ≠ .warn := by
    rcases verdict_eq_ok h with rfl | ⟨kind, -, hverdict⟩
    · simp [Change.nothing]
    · exact level_ne_warn hverdict
  simpa [Workspace.warnsUntil, Change.apply] using hlevel

end Annotated

theorem Workspace.warnsUntil_log (w : Workspace) (e : ResolveError) :
    w.warnsUntil (w.log (.rejected e)) = true := by
  simp [Workspace.warnsUntil, Workspace.log, MixinEvent.record]

/-! ## Many annotations -/

section Run

variable {options : Options} {a : Annotated} {as : List Annotated} {w : Workspace}

theorem processAll_cons (options : Options) (a : Annotated) (as : List Annotated) (w : Workspace) :
    processAll options (a :: as) w =
      match process options a.use a.site w with
      | .ok _ w' => processAll options as w'
      | .error e w' => .error e w' := by
  show EStateM.bind (process options a.use a.site) (fun _ => processAll options as) w = _
  unfold EStateM.bind
  cases process options a.use a.site w <;> rfl

theorem processAll_cons_of_ok {c : Change} (h : a.verdictIn options w = .ok c) (fatal : Bool) :
    processAll (options.withFatal fatal) (a :: as) w =
      processAll (options.withFatal fatal) as (c.apply a.site.owner w) := by
  rw [processAll_cons, Annotated.process_of_ok h]

theorem processAll_cons_of_error {e : ResolveError} (h : a.verdictIn options w = .error e) :
    processAll (options.withFatal false) (a :: as) w =
      processAll (options.withFatal false) as (w.log (.rejected e)) ∧
    processAll (options.withFatal true) (a :: as) w = .error e (w.log (.rejected e)) := by
  rw [processAll_cons, processAll_cons, Annotated.process_of_error h, Annotated.process_of_error h]
  exact ⟨rfl, rfl⟩

theorem quiet_cons_of_ok {c : Change} (h : a.verdictIn options w = .ok c) :
    quiet options (a :: as) w = a :: quiet options as (c.apply a.site.owner w) := by
  simp [quiet, Annotated.process_of_ok h, Annotated.not_warnsUntil_of_ok h]

theorem quiet_cons_of_error {e : ResolveError} (h : a.verdictIn options w = .error e) :
    quiet options (a :: as) w = quiet options as (w.log (.rejected e)) := by
  simp [quiet, Annotated.process_of_error h, Workspace.warnsUntil_log]

/-- The workspaces differ in their logs only. -/
structure SameContent (w u : Workspace) : Prop where
  registry : w.registry = u.registry
  draft : w.draft = u.draft

theorem SameContent.apply {u : Workspace} (h : SameContent w u) (c : Change) (owner : String) :
    SameContent (c.apply owner w) (c.apply owner u) :=
  ⟨congrArg (c.registry owner) h.registry, congrArg c.draft h.draft⟩

theorem SameContent.verdictIn {u : Workspace} (h : SameContent w u) (a : Annotated) :
    a.verdictIn options u = a.verdictIn options w := by
  rw [Annotated.verdictIn, Annotated.verdictIn, h.registry, h.draft]

/-- A run that goes on after rejections ends where the run of the quiet annotations ends. -/
theorem processAll_quiet (options : Options) (fatal : Bool) :
    ∀ (as : List Annotated) {w u : Workspace}, SameContent w u →
      ∃ w' u', processAll (options.withFatal false) as w = .ok () w' ∧
        processAll (options.withFatal fatal) (quiet options as w) u = .ok () u' ∧ SameContent w' u'
  | [], w, u, h => ⟨w, u, rfl, rfl, h⟩
  | a :: as, w, u, h => by
    rcases hv : a.verdictIn options w with e | c
    · rw [quiet_cons_of_error hv, (processAll_cons_of_error hv).1]
      exact processAll_quiet options fatal as ⟨h.registry, h.draft⟩
    · rw [quiet_cons_of_ok hv, processAll_cons_of_ok hv,
        processAll_cons_of_ok ((h.verdictIn a).trans hv)]
      exact processAll_quiet options fatal as (h.apply c a.site.owner)

/-- A run that stops at rejections is the one that goes on, up to the first warning. -/
theorem processAll_strict (options : Options) :
    ∀ (as : List Annotated) (w : Workspace),
      (quiet options as w = as ∧
        processAll (options.withFatal true) as w = processAll (options.withFatal false) as w) ∨
      ∃ before a rest w₁ e, as = before ++ a :: rest ∧ quiet options before w = before ∧
        processAll (options.withFatal false) before w = .ok () w₁ ∧
        process (options.withFatal false) a.use a.site w₁ = .ok () (w₁.log (.rejected e)) ∧
        processAll (options.withFatal true) as w = .error e (w₁.log (.rejected e))
  | [], w => .inl ⟨rfl, rfl⟩
  | a :: as, w => by
    rcases hv : a.verdictIn options w with e | c
    · refine .inr ⟨[], a, as, w, e, rfl, rfl, rfl, ?_, (processAll_cons_of_error hv).2⟩
      exact Annotated.process_of_error hv false
    · rcases processAll_strict options as (c.apply a.site.owner w) with
        ⟨hquiet, hrun⟩ | ⟨before, b, rest, w₁, e, rfl, hquiet, hbefore, hb, hrun⟩
      · refine .inl ⟨by rw [quiet_cons_of_ok hv, hquiet], ?_⟩
        rw [processAll_cons_of_ok hv, processAll_cons_of_ok hv, hrun]
      · refine .inr ⟨a :: before, b, rest, w₁, e, rfl, ?_, ?_, hb, ?_⟩
        · rw [quiet_cons_of_ok hv, hquiet]
        · rw [processAll_cons_of_ok hv, hbefore]
        · rw [processAll_cons_of_ok hv, hrun]

end Run

/-- A rejected annotation changes nothing but the log. So handling annotations, with rejections
only reported, comes to the same as handling those about which nothing is warned, and with
rejections as errors it stops at the first warning, with what the other run has there. -/
theorem rejection_leaves_no_trace (options : Options) :
    (∀ kind use site w e w', AnnotationKind.ofTypeName? use.typeName = some kind →
      resolve options ⟨kind, use, site⟩ w = .error e w' →
      w' = w ∧ process options use site w =
        if options.fatal then .error e (w.log (.rejected e)) else .ok () (w.log (.rejected e))) ∧
    (∀ as w, ∃ w', processAll (options.withFatal false) as w = .ok () w' ∧
      ∀ fatal, ∃ u, processAll (options.withFatal fatal) (quiet options as w) w = .ok () u ∧
        u.registry = w'.registry ∧ u.draft = w'.draft) ∧
    ∀ as w,
      (quiet options as w = as ∧
        processAll (options.withFatal true) as w = processAll (options.withFatal false) as w) ∨
      ∃ before a rest w₁ e, as = before ++ a :: rest ∧ quiet options before w = before ∧
        processAll (options.withFatal false) before w = .ok () w₁ ∧
        process (options.withFatal false) a.use a.site w₁ = .ok () (w₁.log (.rejected e)) ∧
        processAll (options.withFatal true) as w = .error e (w₁.log (.rejected e)) := by
  refine ⟨fun kind use site w e w' hkind h => ?_, fun as w => ?_, processAll_strict options⟩
  · have hw : w' = w := by
      rw [resolve_eq_enact] at h
      unfold Task.enact at h
      split at h
      · cases h
      · cases h
        rfl
    subst hw
    refine ⟨rfl, ?_⟩
    simp only [process, hkind, h]
    rfl
  · obtain ⟨w', -, hw', -, -⟩ := processAll_quiet options false as (u := w) ⟨rfl, rfl⟩
    refine ⟨w', hw', fun fatal => ?_⟩
    obtain ⟨w'', u, hw'', hu, hsame⟩ := processAll_quiet options fatal as (u := w) ⟨rfl, rfl⟩
    cases hw'.symm.trans hw''
    exact ⟨u, hu, hsame.registry.symm, hsame.draft.symm⟩

/-- An invoker whose constructed type is not the target, which only the last check finds. -/
theorem rejection_leaves_no_trace_mismatch :
    let use : AnnotationUse :=
      ⟨"org/spongepowered/asm/mixin/gen/Invoker", 40, .single (.string (.quoted 49 "com.Other"))⟩
    let site : Site := .method ⟨"mixin/A", "createB", "()Lcom/B;"⟩
    let w : Workspace := ⟨Registry.empty.upsert "mixin/A" fun info => info.setTargets ["com/B"],
      Draft.new "mixin/A.java" "h", []⟩
    let e : ResolveError := ⟨⟨"mixin/A.java", 40⟩, .invoker, .targetMismatch "com/B" "com/Other"⟩
    AnnotationKind.ofTypeName? use.typeName = some .invoker ∧
      resolve .default ⟨.invoker, use, site⟩ w = .error e w ∧
      process .default use site w = .error e (w.log (.rejected e)) ∧
      ∃ w', processAll (Options.default.withFatal false) [⟨use, site⟩] w = .ok () w' ∧
        w'.registry = w.registry ∧ w'.draft = w.draft := by
  intro use site w e
  have hkind : AnnotationKind.ofTypeName? use.typeName = some .invoker := by decide +kernel
  have hverdict : Task.verdict .default ⟨.invoker, use, site⟩ (w.registry.get? site.owner) =
      .error (.targetMismatch "com/B" "com/Other") := by with_unfolding_all rfl
  have hresolve : resolve .default ⟨.invoker, use, site⟩ w = .error e w := by
    rw [resolve_eq_enact]
    exact congrArg (fun v => Task.enact _ v w) hverdict
  have hquiet : quiet .default [⟨use, site⟩] w = [] := by
    have hin : Annotated.verdictIn .default ⟨use, site⟩ w = .error e := by
      unfold Annotated.verdictIn AnnotationUse.verdict
      rw [hkind]
      exact congrArg (Except.mapError (Task.error ⟨.invoker, use, site⟩ "mixin/A.java")) hverdict
    rw [quiet_cons_of_error hin]
    rfl
  obtain ⟨hone, hrun, -⟩ := rejection_leaves_no_trace .default
  refine ⟨hkind, hresolve, (hone _ _ _ _ _ _ hkind hresolve).2, ?_⟩
  obtain ⟨w', hw', hsame⟩ := hrun [⟨use, site⟩] w
  obtain ⟨u, hu, hregistry, hdraft⟩ := hsame false
  rw [hquiet] at hu
  cases hu
  exact ⟨w', hw', hregistry.symm, hdraft.symm⟩

end RangeIndex.Mixin
