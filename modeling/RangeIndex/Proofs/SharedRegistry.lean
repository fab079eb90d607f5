import RangeIndex.Proofs.Verdict

/-!
# Files that share a registry

Every file of a run is worked through on its own draft, and all of them share the registry. A
`Session` is the registry with the drafts, and its calls come from the files in any order.

A call reads and changes the registry's entry of one type only, the owner of its site or of the
member it refers to (`Step.run_eq`). So files whose calls name different owners do not notice each
other: each of them gets the answers, and ends with the draft and the entries, of the session in
which it is alone (`AgreesFor.run`). `interleaving_is_serial` compares two orders of the same calls
by that.
-/

namespace RangeIndex.Mixin

/-- The target and the prefix with which a reference to a member of the mixin is recorded. -/
def Info.redirection? (info : Info) (m : Member) : Option (String × String) := do
  let target ← info.target?
  let shadow ← info.findShadow? m.name m.desc
  return (target, shadow.namePrefix)

theorem redirection?_eq (r : Registry) (m : Member) :
    MethodReference.redirection? r m = (r.get? m.owner).bind fun info => info.redirection? m := rfl

theorem methodReference_eq (ref : MethodReference) (w : Workspace) :
    methodReference ref w =
      match MethodReference.redirection? w.registry ref.member with
      | none => .ok false w
      | some (target, namePrefix) =>
        .ok true { w with draft := w.draft.addOccurrence (ref.redirect target namePrefix) } := by
  rw [methodReference, get_bind_apply]
  rcases MethodReference.redirection? w.registry ref.member with _ | ⟨target, namePrefix⟩ <;> rfl

/-- A call for a file: an annotation to handle, or a reference to record. -/
inductive Step where
  | annotate (use : AnnotationUse) (site : Site)
  | reference (ref : MethodReference)

/-- What a call answers, with the events that it reports. Only a reference has a result, whether it
was redirected. -/
structure Answer where
  result : Except ResolveError (Option Bool)
  events : List MixinEvent

namespace Step

/-- The type that a call is about. -/
def owner : Step → String
  | .annotate _ site => site.owner
  | .reference ref => ref.member.owner

def act (options : Options) : Step → Resolve (Option Bool)
  | .annotate use site => do
    process options use site
    return none
  | .reference ref => return some (← methodReference ref)

/-- The answer of a call, and the registry and the file's draft after it. -/
def run (options : Options) (step : Step) (r : Registry) (d : Draft) :
    Answer × Registry × Draft :=
  match step.act options ⟨r, d, []⟩ with
  | .ok result w => (⟨.ok result, w.events⟩, w.registry, w.draft)
  | .error e w => (⟨.error e, w.events⟩, w.registry, w.draft)

/-- What a call comes to, given what is known about its owner. -/
def effect (options : Options) (filename : String) (known : Option Info) : Step → Answer × Change
  | .annotate use site =>
    match use.verdict options site filename known with
    | .ok c => (⟨.ok none, c.events⟩, c)
    | .error e => (⟨if options.fatal then .error e else .ok none, [.rejected e]⟩, .nothing)
  | .reference ref =>
    match known.bind fun info => info.redirection? ref.member with
    | none => (⟨.ok (some false), []⟩, .nothing)
    | some (target, namePrefix) =>
      (⟨.ok (some true), []⟩, .occurrence (ref.redirect target namePrefix))

theorem run_annotate (options : Options) (use : AnnotationUse) (site : Site) (r : Registry)
    (d : Draft) :
    (annotate use site).run options r d =
      match process options use site ⟨r, d, []⟩ with
      | .ok _ w => (⟨.ok none, w.events⟩, w.registry, w.draft)
      | .error e w => (⟨.error e, w.events⟩, w.registry, w.draft) := by
  unfold run act
  simp only [bind, EStateM.bind]
  cases process options use site ⟨r, d, []⟩ <;> rfl

/-- A call depends on the entry of its owner, and changes no other. -/
theorem run_eq (options : Options) (step : Step) (r : Registry) (d : Draft) :
    step.run options r d =
      let (answer, c) := step.effect options d.filename (r.get? step.owner)
      (answer, c.registry step.owner r, c.draft d) := by
  cases step with
  | annotate use site =>
    rw [run_annotate, process_eq]
    simp only [effect, owner]
    cases use.verdict options site d.filename (r.get? site.owner) with
    | ok c => simp [Change.apply]
    | error e => cases options.fatal <;> simp [Workspace.log, Change.nothing, Change.registry,
        Change.draft]
  | reference ref =>
    simp only [run, act, bind, EStateM.bind, methodReference_eq, effect, owner, redirection?_eq]
    rcases (r.get? ref.member.owner).bind fun info => info.redirection? ref.member with
      _ | ⟨target, namePrefix⟩
    · rw [Change.draft_nothing]
      rfl
    · rw [Change.draft_occurrence]
      rfl

end Step

/-! ## Sessions -/

/-- The registry, and the draft of each file. -/
structure Session (ι : Type) where
  registry : Registry
  drafts : ι → Draft

section Runs

variable {ι : Type} [DecidableEq ι] (options : ι → Options)

namespace Session

/-- The answer to a call for the file `i`, and the session after it. -/
def step (s : Session ι) (i : ι) (step : Step) : Answer × Session ι :=
  let (answer, registry, draft) := step.run (options i) s.registry (s.drafts i)
  (answer, ⟨registry, fun j => if j = i then draft else s.drafts j⟩)

/-- The session after the calls `xs`. -/
def after (s : Session ι) : List (ι × Step) → Session ι
  | [] => s
  | (i, x) :: xs => after (s.step options i x).2 xs

/-- The answers to the calls `xs`, each with its file. -/
def answers (s : Session ι) : List (ι × Step) → List (ι × Answer)
  | [] => []
  | (i, x) :: xs => (i, (s.step options i x).1) :: answers (s.step options i x).2 xs

end Session

/-- The items of the file `i`, in their order. -/
def ofFile {α : Type} (i : ι) (xs : List (ι × α)) : List α :=
  (xs.filter (·.1 = i)).map Prod.snd

/-- The file `i` sees the same in both sessions, where `owned` are the types that it may name. -/
structure AgreesFor (i : ι) (owned : String → Prop) (s u : Session ι) : Prop where
  draft : s.drafts i = u.drafts i
  info : ∀ name, owned name → s.registry.get? name = u.registry.get? name

namespace AgreesFor

variable {i j : ι} {owned : String → Prop} {s u : Session ι} {x : Step}

/-- A call for the file itself: the answers are the same, and what it sees stays the same. -/
theorem own (h : AgreesFor i owned s u) (hx : owned x.owner) :
    (s.step options i x).1 = (u.step options i x).1 ∧
      AgreesFor i owned (s.step options i x).2 (u.step options i x).2 := by
  simp only [Session.step, Step.run_eq, h.draft, h.info _ hx]
  refine ⟨trivial, ?_, fun name hname => ?_⟩
  · simp
  · simp only [Change.get?_registry, h.info _ hname, h.info _ hx]

/-- A call for another file, about a type that this one does not name, goes unnoticed. -/
theorem other (h : AgreesFor i owned s u) (hj : j ≠ i) (hx : ¬ owned x.owner) :
    AgreesFor i owned (s.step options j x).2 u := by
  refine ⟨?_, fun name hname => ?_⟩
  · simp only [Session.step, if_neg hj.symm, h.draft]
  · have hne : name ≠ x.owner := fun heq => hx (heq ▸ hname)
    simp only [Session.step, Step.run_eq, Change.get?_registry, if_neg hne, h.info _ hname]

/-- A file that alone names the types in `owned` might as well be alone. -/
theorem run :
    ∀ {xs : List (ι × Step)} {s u : Session ι}, AgreesFor i owned s u →
      (∀ x ∈ xs, x.1 = i ↔ owned x.2.owner) →
      ofFile i (s.answers options xs) = ofFile i (u.answers options (xs.filter (·.1 = i))) ∧
        AgreesFor i owned (s.after options xs) (u.after options (xs.filter (·.1 = i)))
  | [], s, u, h, _ => ⟨rfl, h⟩
  | (j, x) :: xs, s, u, h, howned => by
    obtain ⟨hx, hxs⟩ := List.forall_mem_cons.1 howned
    by_cases hj : j = i
    · subst j
      obtain ⟨hanswer, hstep⟩ := h.own options (hx.1 rfl)
      obtain ⟨hanswers, hafter⟩ := run hstep hxs
      simp only [ofFile, Session.answers, Session.after, List.filter_cons, decide_true, if_true,
        List.map_cons] at hanswers ⊢
      exact ⟨by rw [hanswer, hanswers], hafter⟩
    · have hstep := h.other options hj fun ho => hj (hx.2 ho)
      obtain ⟨hanswers, hafter⟩ := run hstep hxs
      simp only [ofFile, Session.answers, Session.after, List.filter_cons, hj, decide_false,
        Bool.false_eq_true, if_false] at hanswers ⊢
      exact ⟨hanswers, hafter⟩

end AgreesFor

theorem filter_eq_map_ofFile {α : Type} (i : ι) (xs : List (ι × α)) :
    xs.filter (·.1 = i) = (ofFile i xs).map (Prod.mk i) := by
  rw [ofFile, List.map_map]
  refine (List.map_id _).symm.trans (List.map_congr_left fun x hx => ?_)
  have hi : x.1 = i := by simpa using (List.mem_filter.1 hx).2
  simp [← hi]

theorem mem_ofFile {α : Type} {i : ι} {xs : List (ι × α)} {x : ι × α} (hx : x ∈ xs)
    (hi : x.1 = i) : x.2 ∈ ofFile i xs :=
  List.mem_map.2 ⟨x, List.mem_filter.2 ⟨hx, by simpa using hi⟩, rfl⟩

/-- A file with the same calls in two sessions, where other files name other types, gets the same
in both. -/
theorem agreesFor_of_ofFile_eq (owned : String → Prop) {i : ι} {s : Session ι}
    {xs ys : List (ι × Step)} (hxs : ∀ x ∈ xs, x.1 = i ↔ owned x.2.owner)
    (hys : ∀ y ∈ ys, y.1 = i ↔ owned y.2.owner) (h : ofFile i xs = ofFile i ys) :
    ofFile i (s.answers options xs) = ofFile i (s.answers options ys) ∧
      AgreesFor i owned (s.after options xs) (s.after options ys) := by
  have hrefl : AgreesFor i owned s s := ⟨rfl, fun _ _ => rfl⟩
  obtain ⟨hx, hxa⟩ := hrefl.run options hxs
  obtain ⟨hy, hya⟩ := hrefl.run options hys
  -- Both sessions are compared with the one that has the calls of this file only.
  rw [filter_eq_map_ofFile, h, ← filter_eq_map_ofFile] at hx hxa
  refine ⟨hx.trans hy.symm, hxa.draft.trans hya.draft.symm, fun name hname => ?_⟩
  exact (hxa.info name hname).trans (hya.info name hname).symm

end Runs

/-! ## Two files -/

inductive Side where
  | left
  | right
deriving DecidableEq

/-- The calls of two files, each file's in their order. -/
def Interleaves (l r : List Step) (xs : List (Side × Step)) : Prop :=
  ofFile .left xs = l ∧ ofFile .right xs = r

/-- All calls of the left file before those of the right one. -/
def serial (l r : List Step) : List (Side × Step) :=
  l.map (Prod.mk .left) ++ r.map (Prod.mk .right)

theorem interleaves_serial (l r : List Step) : Interleaves l r (serial l r) := by
  have hsame (side : Side) (xs : List Step) :
      (xs.map (Prod.mk side)).filter (·.1 = side) = xs.map (Prod.mk side) :=
    List.filter_eq_self.2 (by simp)
  have hother {side other : Side} (hne : side ≠ other) (xs : List Step) :
      (xs.map (Prod.mk side)).filter (·.1 = other) = [] :=
    List.filter_eq_nil_iff.2 (by simp [hne])
  constructor
  · rw [ofFile, serial, List.filter_append, hsame, hother (by decide), List.append_nil,
      List.map_map]
    exact List.map_id l
  · rw [ofFile, serial, List.filter_append, hsame, hother (by decide), List.nil_append,
      List.map_map]
    exact List.map_id r

/-- Where the two files name different types, the type tells the file. -/
theorem right_iff_of_interleaves {l r : List Step} {xs : List (Side × Step)}
    (h : Interleaves l r xs) (hdisjoint : ∀ a ∈ l, ∀ b ∈ r, a.owner ≠ b.owner) :
    ∀ x ∈ xs, x.1 = .right ↔ x.2.owner ∈ r.map Step.owner := by
  intro x hx
  constructor
  · intro hright
    have hmem := mem_ofFile hx hright
    rw [h.2] at hmem
    exact List.mem_map_of_mem hmem
  · intro howner
    rcases hside : x.1 with _ | _
    · have hmem := mem_ofFile hx hside
      rw [h.1] at hmem
      obtain ⟨b, hb, heq⟩ := List.mem_map.1 howner
      exact absurd heq.symm (hdisjoint _ hmem b hb)
    · rfl

theorem left_iff_of_interleaves {l r : List Step} {xs : List (Side × Step)}
    (h : Interleaves l r xs) (hdisjoint : ∀ a ∈ l, ∀ b ∈ r, a.owner ≠ b.owner) :
    ∀ x ∈ xs, x.1 = .left ↔ x.2.owner ∉ r.map Step.owner := by
  intro x hx
  rw [← right_iff_of_interleaves h hdisjoint x hx]
  rcases x.1 with _ | _ <;> simp

/-- Two files that name different types: in whatever order their calls come, every call is answered
and every draft and every entry of the registry ends as if one file came after the other. -/
theorem interleaving_is_serial (options : Side → Options) (s : Session Side) {l r : List Step}
    {xs : List (Side × Step)} (hxs : Interleaves l r xs)
    (hdisjoint : ∀ a ∈ l, ∀ b ∈ r, a.owner ≠ b.owner) :
    (∀ side, ofFile side (s.answers options xs) = ofFile side (s.answers options (serial l r))) ∧
    (∀ side, (s.after options xs).drafts side = (s.after options (serial l r)).drafts side) ∧
    ∀ name, (s.after options xs).registry.get? name =
      (s.after options (serial l r)).registry.get? name := by
  have hserial := interleaves_serial l r
  obtain ⟨hl, hleft⟩ := agreesFor_of_ofFile_eq options (· ∉ r.map Step.owner) (s := s)
    (left_iff_of_interleaves hxs hdisjoint) (left_iff_of_interleaves hserial hdisjoint)
    (hxs.1.trans hserial.1.symm)
  obtain ⟨hr, hright⟩ := agreesFor_of_ofFile_eq options (· ∈ r.map Step.owner) (s := s)
    (right_iff_of_interleaves hxs hdisjoint) (right_iff_of_interleaves hserial hdisjoint)
    (hxs.2.trans hserial.2.symm)
  refine ⟨?_, ?_, fun name => ?_⟩
  · rintro (_ | _)
    · exact hl
    · exact hr
  · rintro (_ | _)
    · exact hleft.draft
    · exact hright.draft
  · -- A type that neither file names is among those that the left one may name.
    by_cases hname : name ∈ r.map Step.owner
    · exact hright.info name hname
    · exact hleft.info name hname

/-- Two mixins whose calls take turns; the second one's reference is redirected all the same. -/
theorem interleaving_is_serial_turns :
    let mixin (target : String) : AnnotationUse :=
      ⟨"org/spongepowered/asm/mixin/Mixin", 0, .single (.type target)⟩
    let shadow : AnnotationUse := ⟨"org/spongepowered/asm/mixin/Shadow", 9, .marker⟩
    let l : List Step := [.annotate (mixin "com/X") (.type "mixin/A"),
      .annotate shadow (.method ⟨"mixin/A", "tick", "()V"⟩)]
    let r : List Step := [.annotate (mixin "com/Y") (.type "mixin/B"),
      .annotate shadow (.method ⟨"mixin/B", "tick", "()V"⟩),
      .reference ⟨⟨30, 11⟩, "shadow$tick", ⟨"mixin/B", "shadow$tick", "()V"⟩⟩]
    let xs : List (Side × Step) := (l.zip r).flatMap (fun (a, b) => [(.right, b), (.left, a)]) ++
      (r.drop l.length).map (Prod.mk .right)
    let options : Side → Options := fun _ => ⟨false, defaultShadowPrefix⟩
    let s : Session Side := ⟨Registry.empty, fun
      | .left => Draft.new "mixin/A.java" "h"
      | .right => Draft.new "mixin/B.java" "h"⟩
    Interleaves l r xs ∧ (∀ a ∈ l, ∀ b ∈ r, a.owner ≠ b.owner) ∧
      ((ofFile .right (s.answers options (serial l r))).map Answer.result).getLast? =
        some (.ok (some true)) ∧
      ofFile .right (s.answers options xs) = ofFile .right (s.answers options (serial l r)) ∧
      ∀ name, (s.after options xs).registry.get? name =
        (s.after options (serial l r)).registry.get? name := by
  intro mixin shadow l r xs options s
  have hxs : Interleaves l r xs := ⟨rfl, rfl⟩
  have hdisjoint : ∀ a ∈ l, ∀ b ∈ r, a.owner ≠ b.owner := by decide
  have hlast : ((ofFile .right (s.answers options (serial l r))).map Answer.result).getLast? =
      some (.ok (some true)) := by
    have hvalue : (((ofFile .right (s.answers options (serial l r))).map
        Answer.result).getLast?.bind Except.toOption) = some (some true) := by decide +kernel
    obtain ⟨result, hresult, hok⟩ := Option.bind_eq_some_iff.1 hvalue
    cases result with
    | error e => cases hok
    | ok redirected =>
      cases hok
      exact hresult
  obtain ⟨hanswers, -, hinfo⟩ := interleaving_is_serial options s hxs hdisjoint
  exact ⟨hxs, hdisjoint, hlast, hanswers .right, hinfo⟩

end RangeIndex.Mixin
