import Mathlib.Tactic.Tauto
import RangeIndex.Command.FileTree
import RangeIndex.Command.Program
import RangeIndex.Proofs.Grammar
import RangeIndex.Proofs.Outcomes

/-!
# What a check finds

A check looks at the indexed files one after the other. A look halts it if the source is there and
cannot be read, and in a check that fails fast also if the file is not fresh (`Look.Halts`). As long
as no look halts it, the check collects the problems that the looks show (`checkFiles_append`); so
what it reports, and how far it gets, follow from the first look that halts it.

Sources are read from a world with a state that reading may change. `LooksAt` follows the state from
look to look, and no source is read after the look that halts a check.
-/

namespace RangeIndex.Command.Check

/-- What reading the source of an indexed file gives. -/
structure Look where
  file : FileIndex
  content : Except SystemError ByteArray

def Problem.filename : Problem → String
  | .stale s => s.filename
  | .missing filename => filename

namespace Look

def IsFresh (l : Look) : Prop :=
  ∃ bytes, l.content = .ok bytes ∧ Digest.Md5.hexDigest bytes = l.file.hash

/-- The source cannot be read, for another reason than that it is not there. -/
def IsUnreadable (l : Look) : Prop :=
  ∃ cause, l.content = .error cause ∧ cause ≠ .notFound

/-- The problem that a look shows, if it shows one. -/
def problem? (l : Look) : Option Problem :=
  match l.content with
  | .ok bytes =>
    if Digest.Md5.hexDigest bytes = l.file.hash then none
    else some (.stale ⟨l.file.filename, l.file.hash, Digest.Md5.hexDigest bytes⟩)
  | .error .notFound => some (.missing l.file.filename)
  | .error _ => none

/-- The check ends with this look. -/
def Halts (failFast : Bool) (l : Look) : Prop :=
  l.IsUnreadable ∨ failFast ∧ ¬l.IsFresh

theorem checkFile_of_content_error {l : Look} {cause : SystemError} (h : l.content = .error cause)
    (hcause : cause ≠ .notFound) : checkFile l.file (.ofRead l.content) = .error cause := by
  rw [h]
  cases cause with
  | notFound => exact absurd rfl hcause
  | _ => rfl

theorem checkFile_of_not_isUnreadable {l : Look} (h : ¬l.IsUnreadable) :
    checkFile l.file (.ofRead l.content) = .ok l.problem? := by
  unfold problem?
  rcases hcontent : l.content with cause | bytes
  · by_cases hcause : cause = .notFound
    · rw [hcause]
      rfl
    · exact absurd ⟨cause, hcontent, hcause⟩ h
  · by_cases hhash : Digest.Md5.hexDigest bytes = l.file.hash
    · simp [Source.ofRead, checkFile, FileIndex.verify, FileIndex.isCurrent, hhash]
    · simp [Source.ofRead, checkFile, FileIndex.verify, FileIndex.isCurrent, hhash, Ne.symm hhash]

theorem isFresh_iff {l : Look} : l.IsFresh ↔ ¬l.IsUnreadable ∧ l.problem? = none := by
  unfold IsFresh IsUnreadable problem?
  rcases l.content with cause | bytes
  · cases cause <;> simp
  · simp

theorem filename_of_problem? {l : Look} {problem : Problem} (h : l.problem? = some problem) :
    problem.filename = l.file.filename := by
  unfold problem? at h
  split at h
  · split at h <;> cases h
    rfl
  · cases h
    rfl
  · cases h

theorem IsFresh.not_halts {failFast : Bool} {l : Look} (h : l.IsFresh) : ¬l.Halts failFast := by
  rintro (hunreadable | ⟨-, hstale⟩)
  · exact (isFresh_iff.1 h).1 hunreadable
  · exact hstale h

theorem filterMap_problem?_of_isFresh {looks : List Look} (h : ∀ l ∈ looks, l.IsFresh) :
    looks.filterMap problem? = [] :=
  List.filterMap_eq_nil_iff.2 fun l hl => (isFresh_iff.1 (h l hl)).2

theorem halts_true_iff {l : Look} : l.Halts true ↔ ¬l.IsFresh := by
  rw [Halts, isFresh_iff]
  tauto

theorem not_halts_iff {failFast : Bool} {l : Look} :
    ¬l.Halts failFast ↔ ¬l.IsUnreadable ∧ (failFast → l.problem? = none) := by
  rw [Halts, isFresh_iff]
  tauto

end Look

/-! ## Looking at files one after the other -/

section World

variable {σ : Type} {host : Host (StateM σ)} {root : String}

theorem run_bind_of_run {α β : Type} {x : StateM σ α} {a : α} {s s' : σ} (h : x.run s = (a, s'))
    (f : α → StateM σ β) : (x >>= f).run s = (f a).run s' := by
  rw [StateT.run_bind, h]
  rfl

/-- Reading the source of a file gives this look, and leads from one state of the world to
another. -/
def Sees (host : Host (StateM σ)) (root : String) (s : σ) (l : Look) (s' : σ) : Prop :=
  (host.readWhole (Path.join root l.file.filename)).run s = (l.content, s')

/-- Reading the sources of files one after the other gives these looks. -/
inductive LooksAt (host : Host (StateM σ)) (root : String) : σ → List Look → σ → Prop
  | nil (s : σ) : LooksAt host root s [] s
  | cons {s s' s'' : σ} {l : Look} {looks : List Look} :
      Sees host root s l s' → LooksAt host root s' looks s'' → LooksAt host root s (l :: looks) s''

theorem LooksAt.exists_append {before after : List Look} {s s'' : σ}
    (h : LooksAt host root s (before ++ after) s'') :
    ∃ s', LooksAt host root s before s' ∧ LooksAt host root s' after s'' := by
  induction before generalizing s with
  | nil => exact ⟨s, .nil s, h⟩
  | cons l before ih =>
    cases h with
    | cons hsees hrest =>
      obtain ⟨s', hbefore, hafter⟩ := ih hrest
      exact ⟨s', .cons hsees hbefore, hafter⟩

theorem LooksAt.concat {looks : List Look} {l : Look} {s s' s'' : σ}
    (h : LooksAt host root s looks s') (hl : Sees host root s' l s'') :
    LooksAt host root s (looks ++ [l]) s'' := by
  induction h with
  | nil => exact .cons hl (.nil s'')
  | cons hfirst _ ih => exact .cons hfirst (ih hl)

/-- A tree of files stays the same while it is looked at. -/
theorem looksAt_fileTree {tree : FileTree} {looks : List Look}
    (h : ∀ l ∈ looks, (tree.read (Path.join root l.file.filename) >>= id) = l.content) :
    LooksAt FileTree.host root tree looks tree := by
  induction looks with
  | nil => exact .nil tree
  | cons l looks ih =>
    obtain ⟨hl, hlooks⟩ := List.forall_mem_cons.1 h
    refine .cons ?_ (ih hlooks)
    have hread : (FileTree.host.read (Path.join root l.file.filename)).run tree =
        (tree.read (Path.join root l.file.filename), tree) := rfl
    rw [Sees, ← hl, Host.readWhole, run_bind_of_run hread]
    rcases tree.read (Path.join root l.file.filename) with e | content <;> rfl

section Step

variable {failFast : Bool} {l : Look} {s s' : σ}

theorem Sees.run_readSource (h : Sees host root s l s') :
    (readSource host root l.file).run s = (.ofRead l.content, s') := by
  rw [readSource, run_bind_of_run h]
  rfl

theorem checkFiles_of_content_error {cause : SystemError}
    (hsees : Sees host root s l s') (h : l.content = .error cause)
    (hcause : cause ≠ .notFound) (report : Report) (files : List FileIndex) :
    (checkFiles (readSource host root) failFast report (l.file :: files)).run s =
      (.error ⟨l.file.filename, cause, report.problems⟩, s') := by
  rw [checkFiles, run_bind_of_run hsees.run_readSource, Look.checkFile_of_content_error h hcause]
  rfl

theorem checkFiles_of_problem {problem : Problem}
    (hsees : Sees host root s l s') (h : ¬l.IsUnreadable) (hproblem : l.problem? = some problem)
    (report : Report) (files : List FileIndex) :
    (checkFiles (readSource host root) true report (l.file :: files)).run s =
      (.ok ⟨report.checked + 1, report.problems ++ [problem]⟩, s') := by
  rw [checkFiles, run_bind_of_run hsees.run_readSource, Look.checkFile_of_not_isUnreadable h,
    hproblem]
  rfl

theorem checkFiles_of_not_halts (hsees : Sees host root s l s') (h : ¬l.Halts failFast)
    (report : Report) (files : List FileIndex) :
    (checkFiles (readSource host root) failFast report (l.file :: files)).run s =
      (checkFiles (readSource host root) failFast
        ⟨report.checked + 1, report.problems ++ l.problem?.toList⟩ files).run s' := by
  obtain ⟨hreadable, hfast⟩ := Look.not_halts_iff.1 h
  rw [checkFiles, run_bind_of_run hsees.run_readSource,
    Look.checkFile_of_not_isUnreadable hreadable]
  rcases hproblem : l.problem? with _ | problem
  · simp
  · cases failFast with
    | true => simp [hproblem] at hfast
    | false => simp

end Step

/-- As long as no look halts it, a check collects what the looks show. -/
theorem checkFiles_append {failFast : Bool} {looks : List Look} {s s' : σ}
    (hlooks : LooksAt host root s looks s') (h : ∀ l ∈ looks, ¬l.Halts failFast) (report : Report)
    (files : List FileIndex) :
    (checkFiles (readSource host root) failFast report (looks.map Look.file ++ files)).run s =
      (checkFiles (readSource host root) failFast
        ⟨report.checked + looks.length, report.problems ++ looks.filterMap Look.problem?⟩
        files).run s' := by
  -- The report grows from look to look, and with it the start of the rest of the check.
  induction hlooks generalizing report with
  | nil => simp
  | @cons s s' s'' l looks hsees _ ih =>
    obtain ⟨hl, hlooks⟩ := List.forall_mem_cons.1 h
    rw [List.map_cons, List.cons_append, checkFiles_of_not_halts hsees hl, ih hlooks]
    have hchecked : report.checked + 1 + looks.length = report.checked + (l :: looks).length := by
      rw [List.length_cons]
      omega
    have hproblems : report.problems ++ l.problem?.toList ++ looks.filterMap Look.problem? =
        report.problems ++ (l :: looks).filterMap Look.problem? := by
      rcases hproblem : l.problem? with _ | problem <;> simp [hproblem]
    rw [hchecked, hproblems]

theorem checkFiles_of_looksAt {failFast : Bool} {looks : List Look} {s s' : σ}
    (hlooks : LooksAt host root s looks s') (h : ∀ l ∈ looks, ¬l.Halts failFast) :
    (checkFiles (readSource host root) failFast ⟨0, []⟩ (looks.map Look.file)).run s =
      (.ok ⟨looks.length, looks.filterMap Look.problem?⟩, s') := by
  have happend := checkFiles_append hlooks h ⟨0, []⟩ []
  rw [List.append_nil, Nat.zero_add, List.nil_append] at happend
  exact happend

theorem exists_first_halting (failFast : Bool) (looks : List Look) :
    (∀ l ∈ looks, ¬l.Halts failFast) ∨
      ∃ before l after, looks = before ++ l :: after ∧ l.Halts failFast ∧
        ∀ b ∈ before, ¬b.Halts failFast := by
  induction looks with
  | nil => exact .inl (by simp)
  | cons l looks ih =>
    by_cases hl : l.Halts failFast
    · exact .inr ⟨[], l, looks, rfl, hl, by simp⟩
    · rcases ih with hnone | ⟨before, k, after, rfl, hk, hbefore⟩
      · exact .inl (List.forall_mem_cons.2 ⟨hl, hnone⟩)
      · exact .inr ⟨l :: before, k, after, rfl, hk, List.forall_mem_cons.2 ⟨hl, hbefore⟩⟩

/-- A check comes to a look if no look before it halts the check. -/
theorem checkFiles_comes_to {failFast : Bool} {before after : List Look} {l : Look} {s s'' : σ}
    (hlooks : LooksAt host root s (before ++ l :: after) s'')
    (hbefore : ∀ b ∈ before, ¬b.Halts failFast) :
    ∃ t s', Sees host root t l s' ∧ LooksAt host root s (before ++ [l]) s' ∧
      (checkFiles (readSource host root) failFast ⟨0, []⟩
          ((before ++ l :: after).map Look.file)).run s =
        (checkFiles (readSource host root) failFast ⟨before.length, before.filterMap Look.problem?⟩
          (l.file :: after.map Look.file)).run t := by
  obtain ⟨t, hstart, hrest⟩ := hlooks.exists_append
  cases hrest with
  | @cons _ s' _ _ _ hsees _ =>
    refine ⟨t, s', hsees, hstart.concat hsees, ?_⟩
    rw [List.map_append, List.map_cons, checkFiles_append hstart hbefore, Nat.zero_add,
      List.nil_append]

theorem checkFiles_of_unreadable {failFast : Bool} {before after : List Look} {l : Look} {s s'' : σ}
    (hlooks : LooksAt host root s (before ++ l :: after) s'')
    (hbefore : ∀ b ∈ before, ¬b.Halts failFast) (hl : l.IsUnreadable) :
    ∃ e s', LooksAt host root s (before ++ [l]) s' ∧
      (checkFiles (readSource host root) failFast ⟨0, []⟩
        ((before ++ l :: after).map Look.file)).run s = (.error e, s') := by
  obtain ⟨t, s', hsees, hlooked, hcheck⟩ := checkFiles_comes_to hlooks hbefore
  obtain ⟨cause, hcontent, hcause⟩ := hl
  exact ⟨_, s', hlooked, hcheck.trans (checkFiles_of_content_error hsees hcontent hcause _ _)⟩

theorem checkFiles_of_first_problem {before after : List Look} {l : Look} {problem : Problem}
    {s s'' : σ} (hlooks : LooksAt host root s (before ++ l :: after) s'')
    (hbefore : ∀ b ∈ before, b.IsFresh) (hl : ¬l.IsUnreadable)
    (hproblem : l.problem? = some problem) :
    ∃ s', LooksAt host root s (before ++ [l]) s' ∧
      (checkFiles (readSource host root) true ⟨0, []⟩
          ((before ++ l :: after).map Look.file)).run s =
        (.ok ⟨before.length + 1, [problem]⟩, s') := by
  obtain ⟨t, s', hsees, hlooked, hcheck⟩ :=
    checkFiles_comes_to hlooks fun b hb => (hbefore b hb).not_halts
  refine ⟨s', hlooked, ?_⟩
  rw [hcheck, checkFiles_of_problem hsees hl hproblem, Look.filterMap_problem?_of_isFresh hbefore,
    List.nil_append]

/-! ## The command -/

theorem run_of_readIndex {args : CheckArgs} {settings : Settings} {reading : Run Index}
    {index : Index} {s s₁ : σ} (hroot : args.root.or settings.root = some root)
    (hread : (host.readIndex args.input).run s = (reading, s₁))
    (hindex : reading.outcome = .ok index) :
    let check := (run host args settings).run s
    let checked := (checkFiles (readSource host root) (args.failFast || settings.failFast) ⟨0, []⟩
      index.values).run s₁
    check.1.outcome = (result root checked.1).outcome ∧ check.2 = checked.2 := by
  intro check checked
  have hcheck : check = (⟨reading.events ++ (result root checked.1).events,
      (result root checked.1).outcome⟩, checked.2) := by
    unfold check run
    rw [hroot]
    simp only []
    rw [run_bind_of_run hread, hindex]
    rfl
  rw [hcheck]
  exact ⟨rfl, rfl⟩

theorem exists_ofBytes_of_indexOf {failure : ReadError → Failure}
    {content : Except SystemError ByteArray} {index : Index}
    (h : (Run.ofReading failure (Host.indexOf content)).outcome = .ok index) :
    ∃ bytes, (Index.ofBytes bytes).outcome = .ok index := by
  have hreading : (Host.indexOf content).outcome = .ok index := mapError_eq_ok_iff.1 h
  cases content with
  | error e => cases hreading
  | ok bytes => exact ⟨bytes, hreading⟩

theorem exists_ofBytes_of_readIndex {path : String} {reading : Run Index} {index : Index} {s s₁ : σ}
    (hread : (host.readIndex path).run s = (reading, s₁)) (hindex : reading.outcome = .ok index) :
    ∃ bytes, (Index.ofBytes bytes).outcome = .ok index := by
  unfold Host.readIndex at hread
  split at hread
  · rcases hstdin : host.readStdin.run s with ⟨content, t⟩
    rw [run_bind_of_run hstdin] at hread
    cases hread
    exact exists_ofBytes_of_indexOf hindex
  · rcases hopen : (host.read path).run s with ⟨opened, t⟩
    rw [run_bind_of_run hopen] at hread
    rcases opened with e | content
    · cases hread
      cases hindex
    · cases hread
      exact exists_ofBytes_of_indexOf hindex

/-- The files of an index that was read have distinct names. -/
theorem nodup_filenames_of_ofBytes {bytes : ByteArray} {index : Index}
    (h : (Index.ofBytes bytes).outcome = .ok index) :
    (index.values.map FileIndex.filename).Nodup := by
  unfold Index.ofBytes at h
  split at h
  · obtain ⟨-, blocks, -, rfl⟩ := Grammar.outcome_eq_ok_iff.1 h
    rw [Index.filenames_values_ofFiles]
    exact (Index.ofFiles _).nodup
  · cases h

theorem filenames_problems_sublist (looks : List Look) :
    ((looks.filterMap Look.problem?).map Problem.filename).Sublist
      (looks.map fun l => l.file.filename) := by
  induction looks with
  | nil => exact .slnil
  | cons l looks ih =>
    rcases hproblem : l.problem? with _ | problem
    · rw [List.filterMap_cons_none hproblem, List.map_cons]
      exact ih.cons _
    · rw [List.filterMap_cons_some hproblem, List.map_cons, List.map_cons,
        Look.filename_of_problem? hproblem]
      exact ih.cons_cons _

theorem code_of_perform {argv : List String} {invocation : Invocation} {ending : Ending} {s₀ s' : σ}
    (hparse : Invocation.parse argv = .ok invocation)
    (hperform : (Program.perform host invocation).run s₀ = (ending, s')) :
    ((Program.run host argv).run s₀).1.code = ending.code := by
  rw [Program.run, hparse]
  simp only []
  rw [run_bind_of_run hperform]
  rfl

theorem code_of_check {argv : List String} {config : Option String} {verbose : Bool}
    {args : CheckArgs} {settings : Settings} {s₀ s : σ}
    (hparse : Invocation.parse argv = .ok ⟨config, verbose, .check args⟩)
    (hload : (host.loadSettings config).run s₀ = (.ok settings, s)) :
    ((Program.run host argv).run s₀).1.code =
      (Program.endCheck ((run host args settings).run s).1).code := by
  rcases hcheck : (run host args settings).run s with ⟨check, s'⟩
  have hperform : (Program.perform host ⟨config, verbose, .check args⟩).run s₀ =
      (Program.endCheck check, s') := by
    rw [Program.perform, run_bind_of_run hload]
    simp only []
    rw [run_bind_of_run hcheck]
    rfl
  exact code_of_perform hparse hperform

theorem code_of_loadSettings_error {argv : List String} {invocation : Invocation} {e : Failure}
    {s₀ s : σ} (hparse : Invocation.parse argv = .ok invocation)
    (hload : (host.loadSettings invocation.config).run s₀ = (.error e, s)) :
    ((Program.run host argv).run s₀).1.code = 1 := by
  have hperform : (Program.perform host invocation).run s₀ = (Program.fail [] e, s) := by
    rw [Program.perform, run_bind_of_run hload]
    rfl
  exact code_of_perform hparse hperform

/-! ## What a check comes to -/

/-- The outcome of a check of all files, if this is what they look like. -/
structure ReportsAll (looks : List Look) (outcome : Except Failure Report) : Prop where
  fails_iff : (∃ e, outcome = .error e) ↔ ∃ l ∈ looks, l.IsUnreadable
  reports : (∀ l ∈ looks, ¬l.IsUnreadable) →
    outcome = .ok ⟨looks.length, looks.filterMap Look.problem?⟩
  once : ∀ report, outcome = .ok report → (report.problems.map Problem.filename).Nodup

/-- The outcome of a check that fails fast, and the state that it leaves, if the files look like
`before` and then `l`, and `l` is the first that is not fresh. -/
structure StopsAt (host : Host (StateM σ)) (root : String) (s : σ) (before : List Look) (l : Look)
    (outcome : Except Failure Report) (s' : σ) : Prop where
  looks : LooksAt host root s (before ++ [l]) s'
  fails : l.IsUnreadable → ∃ e, outcome = .error e
  reports : ¬l.IsUnreadable →
    ∃ problem, l.problem? = some problem ∧ outcome = .ok ⟨before.length + 1, [problem]⟩

/-- What a check that fails fast comes to: it stops at the first file that is not fresh, and what it
reports is the start of what a check of all files would. -/
structure FailsFast (host : Host (StateM σ)) (root : String) (s : σ) (looks : List Look)
    (outcome : Except Failure Report) (s' : σ) : Prop where
  stops : ∀ before l after, looks = before ++ l :: after → (∀ b ∈ before, b.IsFresh) → ¬l.IsFresh →
    StopsAt host root s before l outcome s'
  initial : ∀ report, outcome = .ok report → report.problems <+: looks.filterMap Look.problem?

structure ExitsWith (outcome : Except Failure Report) (code : UInt8) : Prop where
  clean : ∀ report, outcome = .ok report → report.problems = [] → code = 0
  problems : ∀ report, outcome = .ok report → report.problems ≠ [] → code = 2
  failed : ∀ e, outcome = .error e → code = 1

theorem reportsAll_checkFiles {looks : List Look} {s s' : σ} (hlooks : LooksAt host root s looks s')
    (hnames : ((looks.map Look.file).map FileIndex.filename).Nodup) :
    ReportsAll looks (result root ((checkFiles (readSource host root) false ⟨0, []⟩
      (looks.map Look.file)).run s).1).outcome := by
  rcases exists_first_halting false looks with hnone | ⟨before, l, after, rfl, hl, hbefore⟩
  · have hreadable : ∀ l ∈ looks, ¬l.IsUnreadable :=
      fun l hl => (Look.not_halts_iff.1 (hnone l hl)).1
    rw [checkFiles_of_looksAt hlooks hnone]
    refine ⟨⟨?_, ?_⟩, fun _ => rfl, ?_⟩
    · rintro ⟨e, he⟩
      cases he
    · rintro ⟨l, hl, hunreadable⟩
      exact absurd hunreadable (hreadable l hl)
    · rintro report hreport
      cases hreport
      rw [List.map_map] at hnames
      exact hnames.sublist (filenames_problems_sublist looks)
  · have hunreadable : l.IsUnreadable := by simpa [Look.Halts] using hl
    obtain ⟨e, t, -, hcheck⟩ := checkFiles_of_unreadable hlooks hbefore hunreadable
    rw [hcheck]
    refine ⟨⟨fun _ => ⟨l, by simp, hunreadable⟩, fun _ => ⟨_, rfl⟩⟩, fun hreadable => ?_, ?_⟩
    · exact absurd hunreadable (hreadable l (by simp))
    · rintro report hreport
      cases hreport

theorem stopsAt_checkFiles {before after : List Look} {l : Look} {s s' : σ}
    (hlooks : LooksAt host root s (before ++ l :: after) s') (hbefore : ∀ b ∈ before, b.IsFresh)
    (hl : ¬l.IsFresh) :
    let checked := (checkFiles (readSource host root) true ⟨0, []⟩
      ((before ++ l :: after).map Look.file)).run s
    StopsAt host root s before l (result root checked.1).outcome checked.2 := by
  intro checked
  by_cases hunreadable : l.IsUnreadable
  · obtain ⟨e, t, hlooked, hcheck⟩ := checkFiles_of_unreadable hlooks
      (fun b hb => (hbefore b hb).not_halts) hunreadable
    rw [show checked = (.error e, t) from hcheck]
    exact ⟨hlooked, fun _ => ⟨_, rfl⟩, fun hreadable => absurd hunreadable hreadable⟩
  · rw [Look.isFresh_iff, not_and] at hl
    obtain ⟨problem, hproblem⟩ := Option.ne_none_iff_exists'.1 (hl hunreadable)
    obtain ⟨t, hlooked, hcheck⟩ := checkFiles_of_first_problem hlooks hbefore hunreadable hproblem
    rw [show checked = (.ok ⟨before.length + 1, [problem]⟩, t) from hcheck]
    exact ⟨hlooked, fun h => absurd h hunreadable, fun _ => ⟨problem, hproblem, rfl⟩⟩

theorem failsFast_checkFiles {looks : List Look} {s s' : σ}
    (hlooks : LooksAt host root s looks s') :
    let checked := (checkFiles (readSource host root) true ⟨0, []⟩ (looks.map Look.file)).run s
    FailsFast host root s looks (result root checked.1).outcome checked.2 := by
  intro checked
  constructor
  · rintro before l after rfl hbefore hl
    exact stopsAt_checkFiles hlooks hbefore hl
  · intro report hreport
    rcases exists_first_halting true looks with hnone | ⟨before, l, after, rfl, hl, hbefore⟩
    · rw [show checked = _ from checkFiles_of_looksAt hlooks hnone] at hreport
      cases hreport
      exact List.prefix_rfl
    · have hfresh : ∀ b ∈ before, b.IsFresh := fun b hb =>
        not_not.1 (Look.halts_true_iff.not.1 (hbefore b hb))
      have hstops := stopsAt_checkFiles hlooks hfresh (Look.halts_true_iff.1 hl)
      obtain ⟨problem, hproblem, houtcome⟩ := hstops.reports fun hunreadable => by
        obtain ⟨e, he⟩ := hstops.fails hunreadable
        rw [he] at hreport
        cases hreport
      rw [houtcome] at hreport
      cases hreport
      rw [List.filterMap_append, Look.filterMap_problem?_of_isFresh hfresh,
        List.filterMap_cons_some hproblem]
      exact ⟨_, rfl⟩

theorem exitsWith_endCheck (check : Run Report) :
    ExitsWith check.outcome (Program.endCheck check).code := by
  unfold Program.endCheck
  rcases check.outcome with e | report
  · refine ⟨fun report hreport => ?_, fun report hreport => ?_, fun _ _ => rfl⟩
    · cases hreport
    · cases hreport
  · refine ⟨fun _ hreport hclean => ?_, fun _ hreport hproblems => ?_, fun e he => ?_⟩
    · cases hreport
      simp [Report.isClean, hclean]
    · cases hreport
      simp [Report.isClean, hproblems]
    · cases he

/-- A check of all files fails iff a source cannot be read, and otherwise reports the problem of
each file, in the order of the index and once for each name. A check that fails fast looks at the
files up to the first that is not fresh, and fails or reports only its problem. If all files are
fresh, either check reports none. The exit code is 0 without problems, 2 with problems and 1 after a
failure. -/
theorem check_reports_problems (host : Host (StateM σ)) (args : CheckArgs) (settings : Settings)
    (s : σ) :
    let check := (run host args settings).run s
    (∀ root reading index s₁ looks s₂, args.root.or settings.root = some root →
      (host.readIndex args.input).run s = (reading, s₁) → reading.outcome = .ok index →
      LooksAt host root s₁ looks s₂ → looks.map Look.file = index.values →
      ((args.failFast || settings.failFast) = false → ReportsAll looks check.1.outcome) ∧
      ((args.failFast || settings.failFast) = true →
        FailsFast host root s₁ looks check.1.outcome check.2) ∧
      ((∀ l ∈ looks, l.IsFresh) → check.1.outcome = .ok ⟨looks.length, []⟩)) ∧
    ∀ argv config verbose s₀,
      Invocation.parse argv = .ok ⟨config, verbose, .check args⟩ →
      let code := ((Program.run host argv).run s₀).1.code
      ((host.loadSettings config).run s₀ = (.ok settings, s) → ExitsWith check.1.outcome code) ∧
      ∀ e, (host.loadSettings config).run s₀ = (.error e, s) → code = 1 := by
  intro check
  constructor
  · intro root reading index s₁ looks s₂ hroot hread hindex hlooks hfiles
    obtain ⟨houtcome, hstate⟩ := run_of_readIndex hroot hread hindex
    obtain ⟨bytes, hbytes⟩ := exists_ofBytes_of_readIndex hread hindex
    have hnames := nodup_filenames_of_ofBytes hbytes
    rw [← hfiles] at houtcome hstate hnames
    refine ⟨fun hmode => ?_, fun hmode => ?_, fun hfresh => ?_⟩
    · rw [houtcome, hmode]
      exact reportsAll_checkFiles hlooks hnames
    · rw [houtcome, hstate, hmode]
      exact failsFast_checkFiles hlooks
    · rw [houtcome, checkFiles_of_looksAt hlooks fun l hl => (hfresh l hl).not_halts,
        Look.filterMap_problem?_of_isFresh hfresh]
      rfl
  · intro argv config verbose s₀ hparse
    refine ⟨fun hload => ?_, fun e hload => code_of_loadSettings_error hparse hload⟩
    rw [code_of_check hparse hload]
    exact exitsWith_endCheck check.1

end World

def sampleFiles : List FileIndex :=
  [⟨"a", "d41d8cd98f00b204e9800998ecf8427e", [], [], []⟩, ⟨"b", "h", [], [], []⟩,
    ⟨"c", "h", [], [], []⟩]

/-- An index of three files, of which one is fresh, one is stale and one is not there in `src`. In
`old` the second is not there, and the third is a directory. -/
def sampleTree : FileTree :=
  .ofFiles
    [("i", ("start 1 a d41d8cd98f00b204e9800998ecf8427e\nend\n" ++
        "start 1 b h\nend\nstart 1 c h\nend\n").toUTF8),
      ("src/a", "".toUTF8), ("src/b", "".toUTF8), ("old/a", "".toUTF8), ("old/c/d", "".toUTF8)]
    "".toUTF8

theorem check_reports_problems_sample :
    ((run FileTree.host ⟨"i", some "src", false⟩ .default).run sampleTree).1.outcome =
        .ok ⟨3, [.stale ⟨"b", "h", "d41d8cd98f00b204e9800998ecf8427e"⟩, .missing "c"]⟩ ∧
      ((Program.run FileTree.host ["check", "--root", "src", "i"]).run sampleTree).1.code = 2 ∧
      (∃ e, ((run FileTree.host ⟨"i", some "old", false⟩ .default).run sampleTree).1.outcome =
        .error e) ∧
      ((run FileTree.host ⟨"i", some "old", true⟩ .default).run sampleTree).1.outcome =
        .ok ⟨2, [.missing "b"]⟩ := by
  have hindex : ((FileTree.host.readIndex "i").run sampleTree).1.outcome =
      .ok (.ofFiles sampleFiles) := by decide +kernel
  have hvalues : sampleFiles = (Index.ofFiles sampleFiles).values := by decide +kernel
  have hsrc : LooksAt FileTree.host "src" sampleTree (List.zipWith Look.mk sampleFiles
      [.ok .empty, .ok .empty, .error .notFound]) sampleTree :=
    looksAt_fileTree (by decide +kernel)
  have hold : LooksAt FileTree.host "old" sampleTree (List.zipWith Look.mk sampleFiles
      [.ok .empty, .error .notFound, .error .isDirectory]) sampleTree :=
    looksAt_fileTree (by decide +kernel)
  obtain ⟨hchecks, hexits⟩ :=
    check_reports_problems FileTree.host ⟨"i", some "src", false⟩ .default sampleTree
  have hreport : ((run FileTree.host ⟨"i", some "src", false⟩ .default).run sampleTree).1.outcome =
      .ok ⟨3, [.stale ⟨"b", "h", "d41d8cd98f00b204e9800998ecf8427e"⟩, .missing "c"]⟩ := by
    have hall := (hchecks "src" _ _ _ _ _ rfl rfl hindex hsrc hvalues).1 rfl
    rw [hall.reports (by simp [sampleFiles, Look.IsUnreadable])]
    decide +kernel
  refine ⟨hreport, ?_, ?_, ?_⟩
  · have hparse : Invocation.parse ["check", "--root", "src", "i"] =
        .ok ⟨none, false, .check ⟨"i", some "src", false⟩⟩ := by decide +kernel
    exact ((hexits _ none false sampleTree hparse).1 rfl).problems _ hreport (by simp)
  · have hall := ((check_reports_problems FileTree.host ⟨"i", some "old", false⟩ .default
      sampleTree).1 "old" _ _ _ _ _ rfl rfl hindex hold hvalues).1 rfl
    exact hall.fails_iff.2 (by simp [sampleFiles, Look.IsUnreadable])
  · have hfresh : Digest.Md5.hexDigest .empty = "d41d8cd98f00b204e9800998ecf8427e" := by
      decide +kernel
    have hfast := ((check_reports_problems FileTree.host ⟨"i", some "old", true⟩ .default
      sampleTree).1 "old" _ _ _ _ _ rfl rfl hindex hold hvalues).2.1 rfl
    have hstops := hfast.stops [_] _ [_] rfl (by simp [Look.IsFresh, hfresh])
      (by simp [Look.IsFresh])
    obtain ⟨problem, hproblem, hreport⟩ := hstops.reports (by simp [Look.IsUnreadable])
    cases hproblem
    exact hreport

end RangeIndex.Command.Check
