import RangeIndex.Index.Draft
import RangeIndex.Proofs.StableSort

/-!
# What a draft holds over its history

A draft is created for a file and a hash, and then called in any order: to add to it, to load a
cached index, to build. What it holds is what the last cache that it took over held, followed by
what was added since (`content_after_iff`). `Holds` says so without a draft, by the calls alone.

What is built has the occurrences and declarations of the draft in the one order that sorts them
stably, so a fresh draft that loads it builds it again.
-/

namespace RangeIndex

/-- What is found in a file. -/
structure Content where
  occurrences : List Occurrence
  declarations : List Declaration
  links : List AccessorLink
deriving DecidableEq, Repr

namespace Content

instance : Append Content where
  append a b :=
    ⟨a.occurrences ++ b.occurrences, a.declarations ++ b.declarations, a.links ++ b.links⟩

@[simp]
theorem mk_append_mk (os os' : List Occurrence) (ds ds' : List Declaration)
    (ls ls' : List AccessorLink) :
    (⟨os, ds, ls⟩ : Content) ++ (⟨os', ds', ls'⟩ : Content) =
      ⟨os ++ os', ds ++ ds', ls ++ ls'⟩ := rfl

theorem append_assoc (a b c : Content) : a ++ b ++ c = a ++ (b ++ c) := by
  cases a
  cases b
  cases c
  simp

end Content

def FileIndex.content (f : FileIndex) : Content :=
  ⟨f.occurrences, f.declarations, f.links⟩

namespace Draft

def content (d : Draft) : Content :=
  ⟨d.occurrences, d.declarations, d.links⟩

inductive Call where
  | addOccurrence (o : Occurrence)
  | addDeclaration (decl : Declaration)
  | addLink (l : AccessorLink)
  | loadCache (cache : FileIndex)
  | build
deriving DecidableEq, Repr

/-- What a call returns: whether a cache was taken over, or the index that was built. -/
inductive Reply where
  | added
  | loaded (taken : Bool)
  | built (file : FileIndex)
deriving DecidableEq, Repr

def Call.run (d : Draft) : Call → Reply × Draft
  | .addOccurrence o => (.added, d.addOccurrence o)
  | .addDeclaration decl => (.added, d.addDeclaration decl)
  | .addLink l => (.added, d.addLink l)
  | .loadCache cache => (.loaded (d.accepts cache), d.loadCache cache)
  | .build => (.built d.build, d)

/-- The draft after calls. -/
def after (d : Draft) (calls : List Call) : Draft :=
  calls.foldl (fun d call => (call.run d).2) d

/-! ## Histories without a draft -/

namespace Call

def occurrence? : Call → Option Occurrence
  | .addOccurrence o => some o
  | _ => none

def declaration? : Call → Option Declaration
  | .addDeclaration decl => some decl
  | _ => none

def link? : Call → Option AccessorLink
  | .addLink l => some l
  | _ => none

/-- Everything that calls add, in their order. -/
def added (calls : List Call) : Content :=
  ⟨calls.filterMap occurrence?, calls.filterMap declaration?, calls.filterMap link?⟩

/-- Whether a call loads an index of the file with the content of the given hash. -/
def isHit (filename hash : String) : Call → Bool
  | .loadCache cache => cache.filename = filename && cache.hash = hash
  | _ => false

end Call

/-- What the draft of a file holds after calls: what was added after the last cache of the same
file and hash, behind what that cache holds. -/
inductive Holds (filename hash : String) : List Call → Content → Prop
  | fresh {calls : List Call} (hcalls : ∀ call ∈ calls, call.isHit filename hash = false) :
      Holds filename hash calls (Call.added calls)
  | cached (before : List Call) {later : List Call} {cache : FileIndex}
      (hname : cache.filename = filename) (hhash : cache.hash = hash)
      (hlater : ∀ call ∈ later, call.isHit filename hash = false) :
      Holds filename hash (before ++ .loadCache cache :: later)
        (cache.content ++ Call.added later)

/-! ## One call -/

section Calls

variable {filename hash : String} {d : Draft} {calls : List Call}

theorem accepts_iff {cache : FileIndex} :
    d.accepts cache = true ↔ cache.filename = d.filename ∧ cache.hash = d.hash := by
  simp [accepts, FileIndex.isCurrent]

theorem loadCache_of_accepts {cache : FileIndex} (h : d.accepts cache) :
    d.loadCache cache =
      ⟨d.filename, d.hash, cache.occurrences, cache.declarations, cache.links⟩ :=
  if_pos h

theorem loadCache_of_not_accepts {cache : FileIndex} (h : ¬ d.accepts cache) :
    d.loadCache cache = d :=
  if_neg h

/-- No call changes the file that a draft is of. -/
theorem file_run (call : Call) :
    (call.run d).2.filename = d.filename ∧ (call.run d).2.hash = d.hash := by
  cases call with
  | loadCache cache =>
    by_cases h : d.accepts cache
    · simp only [Call.run, loadCache_of_accepts h, and_self]
    · simp only [Call.run, loadCache_of_not_accepts h, and_self]
  | _ => exact ⟨rfl, rfl⟩

theorem content_run_of_not_hit {call : Call} (h : call.isHit d.filename d.hash = false) :
    (call.run d).2.content = d.content ++ Call.added [call] := by
  cases call with
  | addOccurrence o =>
    simp [Call.run, Call.added, Call.occurrence?, Call.declaration?, Call.link?, addOccurrence,
      content]
  | addDeclaration decl =>
    simp [Call.run, Call.added, Call.occurrence?, Call.declaration?, Call.link?, addDeclaration,
      content]
  | addLink l =>
    simp [Call.run, Call.added, Call.occurrence?, Call.declaration?, Call.link?, addLink, content]
  | loadCache cache =>
    have hrefused : ¬ d.accepts cache := by
      rw [accepts_iff]
      simpa [Call.isHit] using h
    simp [Call.run, loadCache_of_not_accepts hrefused, Call.added, Call.occurrence?,
      Call.declaration?, Call.link?, content]
  | build =>
    simp [Call.run, Call.added, Call.occurrence?, Call.declaration?, Call.link?, content]

/-! ## Many calls -/

theorem file_after (calls : List Call) :
    (d.after calls).filename = d.filename ∧ (d.after calls).hash = d.hash := by
  induction calls generalizing d with
  | nil => exact ⟨rfl, rfl⟩
  | cons call calls ih =>
    obtain ⟨hname, hhash⟩ := ih (d := (call.run d).2)
    exact ⟨hname.trans (file_run call).1, hhash.trans (file_run call).2⟩

theorem added_cons (call : Call) (calls : List Call) :
    Call.added (call :: calls) = Call.added [call] ++ Call.added calls := by
  simp only [Call.added, Content.mk_append_mk, ← List.filterMap_append, List.singleton_append]

theorem content_after_of_not_hit
    (h : ∀ call ∈ calls, call.isHit d.filename d.hash = false) :
    (d.after calls).content = d.content ++ Call.added calls := by
  induction calls generalizing d with
  | nil => simp [after, Call.added, content]
  | cons call calls ih =>
    obtain ⟨hcall, hcalls⟩ := List.forall_mem_cons.1 h
    have hfile := file_run (d := d) call
    have hrest := ih (d := (call.run d).2) (by rwa [hfile.1, hfile.2])
    rw [content_run_of_not_hit hcall, Content.append_assoc, ← added_cons] at hrest
    exact hrest

/-- Either no call is a hit, or there is a last one. -/
theorem exists_holds (filename hash : String) :
    ∀ calls : List Call, ∃ content, Holds filename hash calls content
  | [] => ⟨_, .fresh (by simp)⟩
  | call :: calls => by
    obtain ⟨content, hcontent⟩ := exists_holds filename hash calls
    cases hcontent with
    | @cached before later cache hname hhash hlater =>
      exact ⟨_, .cached (call :: before) hname hhash hlater⟩
    | fresh hcalls =>
      cases hcall : call.isHit filename hash with
      | false => exact ⟨_, .fresh (List.forall_mem_cons.2 ⟨hcall, hcalls⟩)⟩
      | true =>
        cases call with
        | loadCache cache =>
          obtain ⟨hname, hhash⟩ : cache.filename = filename ∧ cache.hash = hash := by
            simpa [Call.isHit] using hcall
          exact ⟨_, .cached [] hname hhash hcalls⟩
        | _ => cases hcall

theorem content_after_of_holds {content : Content} (h : Holds filename hash calls content) :
    ((new filename hash).after calls).content = content := by
  cases h with
  | fresh hcalls =>
    rw [content_after_of_not_hit hcalls]
    simp [Call.added, Draft.content, new]
  | @cached before later cache hname hhash hlater =>
    obtain ⟨hname', hhash'⟩ := file_after (d := new filename hash) before
    have haccepts : ((new filename hash).after before).accepts cache :=
      accepts_iff.2 ⟨hname.trans hname'.symm, hhash.trans hhash'.symm⟩
    have hafter : (new filename hash).after (before ++ .loadCache cache :: later) =
        (((new filename hash).after before).loadCache cache).after later := by
      simp only [after, List.foldl_append, List.foldl_cons, Call.run]
    rw [hafter, loadCache_of_accepts haccepts, hname', hhash', content_after_of_not_hit hlater]
    rfl

/-- A draft holds what its history says, and nothing else. -/
theorem content_after_iff {content : Content} :
    Holds filename hash calls content ↔ ((new filename hash).after calls).content = content := by
  refine ⟨content_after_of_holds, ?_⟩
  rintro rfl
  obtain ⟨content, hcontent⟩ := exists_holds filename hash calls
  rwa [content_after_of_holds hcontent]

end Calls

/-! ## Building -/

/-- A fresh draft that loads what was built builds it again. -/
theorem build_loadCache_build (d : Draft) :
    (new d.filename d.hash).accepts d.build ∧
      ((new d.filename d.hash).loadCache d.build).build = d.build := by
  have haccepts : (new d.filename d.hash).accepts d.build := accepts_iff.2 ⟨rfl, rfl⟩
  refine ⟨haccepts, ?_⟩
  rw [loadCache_of_accepts haccepts]
  simp only [build, new]
  rw [mergeSort_key_of_pairwise (fun o : Occurrence => o.span.start) (pairwise_mergeSort_key _ _),
    mergeSort_key_of_pairwise (fun x : Declaration => x.span.start) (pairwise_mergeSort_key _ _)]

/-- A draft over its history: it holds what the last cache of its own file and hash held and what
was added since. It takes over just such caches, and any other leaves it alone. It builds its file
with its links, and with its occurrences and declarations in the order that sorts them stably by
start, and stays as it is. What is built is built again by a fresh draft that loads it. -/
theorem build_after_history (filename hash : String) (calls : List Call) :
    let d := (new filename hash).after calls
    (∀ content, Holds filename hash calls content ↔ d.content = content) ∧
    (∀ cache, Call.run d (.loadCache cache) =
      if cache.filename = filename ∧ cache.hash = hash then
        (.loaded true, ⟨filename, hash, cache.occurrences, cache.declarations, cache.links⟩)
      else (.loaded false, d)) ∧
    ∃ file, Call.run d .build = (.built file, d) ∧
      file.filename = filename ∧ file.hash = hash ∧ file.links = d.links ∧
      (∀ os, IsStableSort (fun o : Occurrence => o.span.start) d.occurrences os ↔
        os = file.occurrences) ∧
      (∀ ds, IsStableSort (fun x : Declaration => x.span.start) d.declarations ds ↔
        ds = file.declarations) ∧
      ∃ d', Call.run (new filename hash) (.loadCache file) = (.loaded true, d') ∧
        Call.run d' .build = (.built file, d') := by
  intro d
  obtain ⟨hname, hhash⟩ : d.filename = filename ∧ d.hash = hash :=
    file_after (d := new filename hash) calls
  refine ⟨fun content => content_after_iff, fun cache => ?_, d.build, rfl, hname, hhash, rfl,
    fun os => isStableSort_iff _, fun ds => isStableSort_iff _, ?_⟩
  · have hiff : d.accepts cache = true ↔ cache.filename = filename ∧ cache.hash = hash := by
      rw [accepts_iff, hname, hhash]
    by_cases h : d.accepts cache
    · rw [if_pos (hiff.1 h), Call.run, loadCache_of_accepts h, h, hname, hhash]
    · rw [if_neg fun hfile => h (hiff.2 hfile), Call.run, loadCache_of_not_accepts h,
        Bool.of_not_eq_true h]
  · obtain ⟨haccepts, hbuild⟩ := build_loadCache_build d
    rw [hname, hhash] at haccepts hbuild
    refine ⟨(new filename hash).loadCache d.build, ?_, ?_⟩
    · rw [Call.run, haccepts]
    · rw [Call.run, hbuild]

end Draft

end RangeIndex
