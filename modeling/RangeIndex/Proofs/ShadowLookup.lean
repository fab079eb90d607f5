import RangeIndex.Proofs.AccessorRecords
import RangeIndex.Proofs.IndexFiles
import RangeIndex.Proofs.InfoHistory

/-!
# Which shadow a reference means

The table of shadows holds the last shadow recorded for each member (`get?_shadows_after`), since no
name has the blank in it that ends the name in a key. A reference means a shadow by its own name or
by its prefixed name. Several shadows may share a prefixed name, and the table then decides which
one is found; but whether one is found does not depend on the order of the table
(`isSome_findShadow?`), and so the target does not either.
-/

namespace RangeIndex

theorem OrderedMap.mem_values_iff {κ β : Type} [DecidableEq κ] {m : OrderedMap κ β} {v : β} :
    v ∈ m.values ↔ ∃ k, m.get? k = some v := by
  simp [values, get?_eq_some_iff]

theorem OrderedMap.get?_of_perm {κ β : Type} [DecidableEq κ] {m n : OrderedMap κ β}
    (h : m.entries.Perm n.entries) (k : κ) : m.get? k = n.get? k := by
  ext v
  rw [get?_eq_some_iff, get?_eq_some_iff, h.mem_iff]

namespace Mixin

namespace Shadow

def SameMember (s s' : Shadow) : Prop :=
  s.name = s'.name ∧ s.desc = s'.desc

theorem isPrefixed_iff {s : Shadow} {name desc : String} :
    s.isPrefixed name desc ↔ s.desc = desc ∧ name = s.namePrefix ++ s.name := by
  simp [isPrefixed, Text.after?_eq_some_iff]

end Shadow

namespace Info

def Call.Shadows (s : Shadow) : Call → Prop
  | .addShadow s' => s'.SameMember s
  | _ => False

def Call.Retargets : Call → Prop
  | .setTargets _ => True
  | _ => False

/-- The shadow is the last one that the calls record for its member. -/
def LastShadow (calls : List Call) (s : Shadow) : Prop :=
  LastCall (Call.Shadows s) calls (.addShadow s)

/-- The last call that sets targets names `t` and no other type. -/
def OnlyTarget (calls : List Call) (t : String) : Prop :=
  ∃ targets, LastCall Call.Retargets calls (.setTargets targets) ∧ t ∈ targets ∧
    ∀ x ∈ targets, x = t

/-! ## The table over a history -/

theorem shadowKey_inj {n n' d d' : String} (hn : ' ' ∉ n.toList) (hn' : ' ' ∉ n'.toList) :
    shadowKey n d = shadowKey n' d' ↔ n = n' ∧ d = d' := by
  rw [shadowKey, shadowKey, String.append_assoc, String.append_assoc,
    append_inj_of_mark hn hn' (by simp) (by simp), String.append_right_inj]

theorem shadows_run (info : Info) (call : Call) :
    (call.run info).shadows =
      match call with
      | .addShadow s => info.shadows.insert (shadowKey s.name s.desc) s
      | _ => info.shadows := by
  cases call with
  | addOverwrite name desc =>
    rw [Call.run, addOverwrite_eq]
  | _ => rfl

theorem lastShadow_concat_iff {calls : List Call} {last : Call} {s : Shadow} :
    LastShadow (calls ++ [last]) s ↔
      last = .addShadow s ∨ LastShadow calls s ∧ ¬ last.Shadows s :=
  lastCall_concat_iff

/-- What stands in the table is what was recorded last, under the key of its member. -/
theorem get?_shadows_after (owner : String) {calls : List Call}
    (hcalls : ∀ s, .addShadow s ∈ calls → ' ' ∉ s.name.toList) {key : String} {s : Shadow} :
    ((new owner).after calls).shadows.get? key = some s ↔
      LastShadow calls s ∧ key = shadowKey s.name s.desc := by
  induction calls using List.reverseRecOn with
  | nil =>
    simp only [after, List.foldl_nil, new, OrderedMap.get?_empty, reduceCtorEq, false_iff]
    exact fun h => by simpa using h.1.mem
  | append_singleton calls call ih =>
    have ih := ih fun s hs => hcalls s (by simp [hs])
    rw [after_concat, shadows_run, lastShadow_concat_iff]
    rcases call with _ | s₀ | _ | _ | _
    case addShadow =>
      -- A shadow in the table has the key of the new one just if it is of the same member.
      have hkey (hs : LastShadow calls s) :
          shadowKey s.name s.desc = shadowKey s₀.name s₀.desc ↔ s₀.SameMember s := by
        rw [shadowKey_inj (hcalls s (by simp [hs.mem])) (hcalls s₀ (by simp))]
        exact ⟨fun h => ⟨h.1.symm, h.2.symm⟩, fun h => ⟨h.1.symm, h.2.symm⟩⟩
      simp only [OrderedMap.get?_insert, Call.addShadow.injEq, Call.Shadows]
      split
      · rename_i hnew
        constructor
        · intro h
          cases h
          exact ⟨.inl rfl, hnew⟩
        · rintro ⟨rfl | ⟨hs, hother⟩, hsame⟩
          · rfl
          · exact absurd ((hkey hs).1 (hsame.symm.trans hnew)) hother
      · rename_i hold
        rw [ih]
        refine and_congr_left fun hsame => ⟨fun hs => ?_, ?_⟩
        · exact .inr ⟨hs, fun h => hold (hsame.trans ((hkey hs).2 h))⟩
        · rintro (rfl | ⟨hs, -⟩)
          · exact absurd hsame hold
          · exact hs
    all_goals simpa [Call.Shadows] using ih

theorem exists_lastShadow {calls : List Call} {s : Shadow} (h : .addShadow s ∈ calls) :
    ∃ s', LastShadow calls s' ∧ s'.SameMember s := by
  have hexists : ∃ c ∈ calls, Call.Shadows s c := ⟨_, h, rfl, rfl⟩
  obtain ⟨call, hcall, hlast⟩ := exists_lastCall hexists
  rcases call with _ | s' | _ | _ | _
  case addShadow =>
    have hsame : Call.Shadows s' = Call.Shadows s := by
      funext c
      cases c <;> simp [Call.Shadows, Shadow.SameMember, hcall.1, hcall.2]
    refine ⟨s', ?_, hcall⟩
    rw [LastShadow, hsame]
    exact hlast
  all_goals exact hcall.elim

/-! ## The targets over a history -/

theorem eraseDups_eq_singleton_iff {ts : List String} {t : String} :
    ts.eraseDups = [t] ↔ t ∈ ts ∧ ∀ x ∈ ts, x = t := by
  constructor
  · intro h
    have hmem (x : String) : x ∈ ts ↔ x = t := by
      rw [← List.mem_eraseDups, h, List.mem_singleton]
    exact ⟨(hmem t).2 rfl, fun x hx => (hmem x).1 hx⟩
  · rintro ⟨hmem, hall⟩
    rcases ts with _ | ⟨a, rest⟩
    · simp at hmem
    · obtain ⟨rfl, hrest⟩ := List.forall_mem_cons.1 hall
      have hnone : (rest.filter fun b => !b == a) = [] := by simpa using hrest
      rw [List.eraseDups_cons, hnone, List.eraseDups_nil]

theorem targets_run (info : Info) (call : Call) :
    (call.run info).targets =
      match call with
      | .setTargets targets => targets.eraseDups
      | _ => info.targets := by
  cases call with
  | addOverwrite name desc =>
    rw [Call.run, addOverwrite_eq]
  | _ => rfl

theorem targets_after_eq_singleton_iff (owner : String) {calls : List Call} {t : String} :
    ((new owner).after calls).targets = [t] ↔ OnlyTarget calls t := by
  induction calls using List.reverseRecOn with
  | nil =>
    simp only [after, List.foldl_nil, new, List.ne_cons_self, false_iff]
    rintro ⟨targets, hlast, -⟩
    simpa using hlast.mem
  | append_singleton calls call ih =>
    rw [after_concat, targets_run, OnlyTarget]
    simp only [lastCall_concat_iff]
    rcases call with targets | _ | _ | _ | _
    case setTargets => simp [Call.Retargets, eraseDups_eq_singleton_iff]
    all_goals simpa [Call.Retargets, OnlyTarget] using ih

/-! ## What a reference means -/

section Lookup

variable {info : Info} {name desc : String}

theorem isSome_findShadow? :
    (info.findShadow? name desc).isSome ↔ (∃ s, info.getShadow? name desc = some s) ∨
      ∃ s ∈ info.shadows.values, s.desc = desc ∧ name = s.namePrefix ++ s.name := by
  rw [findShadow?, Option.isSome_or, Bool.or_eq_true, Option.isSome_iff_exists, List.find?_isSome]
  simp only [Shadow.isPrefixed_iff]

theorem shadedOwner?_eq_some_iff {t : String} :
    info.shadedOwner? name desc = some t ↔
      (info.findShadow? name desc).isSome ∧ info.targets = [t] := by
  rw [← target?_eq_some_iff, shadedOwner?]
  cases info.findShadow? name desc <;> simp

/-- Listing the shadows in another order changes no answer. -/
theorem shadedOwner?_of_perm {table : OrderedMap String Shadow}
    (h : table.entries.Perm info.shadows.entries) :
    shadedOwner? { info with shadows := table } name desc = info.shadedOwner? name desc := by
  have hvalues : table.values.Perm info.shadows.values := h.map Prod.snd
  ext t
  rw [shadedOwner?_eq_some_iff, shadedOwner?_eq_some_iff, isSome_findShadow?, isSome_findShadow?]
  simp only [getShadow?, OrderedMap.get?_of_perm h, hvalues.mem_iff]

end Lookup

section After

variable (owner : String) {calls : List Call}
  (hcalls : ∀ s, .addShadow s ∈ calls → ' ' ∉ s.name.toList) {name : String}
  (hname : ' ' ∉ name.toList) {desc : String}
include hcalls hname

theorem getShadow?_after {s : Shadow} :
    ((new owner).after calls).getShadow? name desc = some s ↔
      LastShadow calls s ∧ s.name = name ∧ s.desc = desc := by
  rw [getShadow?, get?_shadows_after owner hcalls]
  refine and_congr_right fun hs => ?_
  rw [shadowKey_inj hname (hcalls s hs.mem), eq_comm (a := name), eq_comm (a := desc)]

theorem getShadow?_after_eq_none_iff :
    ((new owner).after calls).getShadow? name desc = none ↔
      ∀ s, .addShadow s ∈ calls → ¬ (s.name = name ∧ s.desc = desc) := by
  rw [Option.eq_none_iff_forall_ne_some]
  simp only [ne_eq, getShadow?_after owner hcalls hname, not_and]
  constructor
  · intro h s hs hsname hsdesc
    obtain ⟨s', hlast, hsame⟩ := exists_lastShadow hs
    exact h s' hlast (hsame.1.trans hsname) (hsame.2.trans hsdesc)
  · exact fun h s hs => h s hs.mem

theorem isSome_findShadow?_after :
    (((new owner).after calls).findShadow? name desc).isSome ↔
      ∃ s, LastShadow calls s ∧ s.desc = desc ∧
        (name = s.name ∨ name = s.namePrefix ++ s.name) := by
  rw [isSome_findShadow?]
  simp only [getShadow?_after owner hcalls hname, OrderedMap.mem_values_iff,
    get?_shadows_after owner hcalls]
  constructor
  · rintro (⟨s, hs, hsname, hdesc⟩ | ⟨s, ⟨-, hs, -⟩, hdesc, hprefixed⟩)
    · exact ⟨s, hs, hdesc, .inl hsname.symm⟩
    · exact ⟨s, hs, hdesc, .inr hprefixed⟩
  · rintro ⟨s, hs, hdesc, hsname | hprefixed⟩
    · exact .inl ⟨s, hs, hsname.symm, hdesc⟩
    · exact .inr ⟨s, ⟨_, hs, rfl⟩, hdesc, hprefixed⟩

end After

end Info

/-- Over any history in which no shadow has a blank in its name, a reference is resolved to the only
target exactly if its name is that of a shadow, bare or with the prefix that the shadow had last.
The shadow under a name is the one recorded last, and the order of the table plays no part. -/
theorem shadow_lookup_follows_history (owner : String) {calls : List Info.Call}
    (hcalls : ∀ s, .addShadow s ∈ calls → ' ' ∉ s.name.toList) {name : String}
    (hname : ' ' ∉ name.toList) (desc : String) :
    let info := (Info.new owner).after calls
    (∀ t, info.shadedOwner? name desc = some t ↔
      Info.OnlyTarget calls t ∧ ∃ s, Info.LastShadow calls s ∧ s.desc = desc ∧
        (name = s.name ∨ name = s.namePrefix ++ s.name)) ∧
    (∀ s, info.getShadow? name desc = some s ↔
      Info.LastShadow calls s ∧ s.name = name ∧ s.desc = desc) ∧
    (info.getShadow? name desc = none ↔
      ∀ s, .addShadow s ∈ calls → ¬ (s.name = name ∧ s.desc = desc)) ∧
    ∀ table : OrderedMap String Shadow, table.entries.Perm info.shadows.entries →
      Info.shadedOwner? { info with shadows := table } name desc = info.shadedOwner? name desc ∧
      Info.getShadow? { info with shadows := table } name desc = info.getShadow? name desc := by
  intro info
  refine ⟨fun t => ?_, fun s => Info.getShadow?_after owner hcalls hname,
    Info.getShadow?_after_eq_none_iff owner hcalls hname, fun table htable => ⟨?_, ?_⟩⟩
  · rw [Info.shadedOwner?_eq_some_iff, Info.isSome_findShadow?_after owner hcalls hname,
      Info.targets_after_eq_singleton_iff, and_comm]
  · exact Info.shadedOwner?_of_perm htable
  · exact OrderedMap.get?_of_perm htable _

/-- A shadow that is recorded again with another prefix, in a mixin whose target was set again. -/
theorem shadow_lookup_follows_history_replaced :
    let calls : List Info.Call := [.setTargets ["com/A", "com/B"], .addShadow ⟨"x", "I", "old$"⟩,
      .addInterface "api$" "com/api/Thing" [], .addShadow ⟨"x", "J", "old$"⟩,
      .addShadow ⟨"x", "I", "new$"⟩, .setTargets ["com/B", "com/B"], .addOverwrite "tick" "()V"]
    let info := (Info.new "mixin/A").after calls
    (∀ s, .addShadow s ∈ calls → ' ' ∉ s.name.toList) ∧ ' ' ∉ "new$x".toList ∧
      info.shadedOwner? "new$x" "I" = some "com/B" ∧
      info.getShadow? "new$x" "I" = none := by
  intro calls info
  have hnames : ∀ s, .addShadow s ∈ calls → s.name = "x" := by
    intro s hs
    simp only [calls, List.mem_cons, reduceCtorEq, Info.Call.addShadow.injEq, List.not_mem_nil,
      or_false, false_or] at hs
    rcases hs with rfl | rfl | rfl <;> rfl
  have hcalls : ∀ s, .addShadow s ∈ calls → ' ' ∉ s.name.toList := by
    intro s hs
    simp [hnames s hs]
  have hname : ' ' ∉ "new$x".toList := by simp
  obtain ⟨hshaded, -, hnone, -⟩ :=
    shadow_lookup_follows_history "mixin/A" hcalls hname "I"
  refine ⟨hcalls, hname, (hshaded "com/B").2 ⟨?_, ?_⟩, hnone.2 ?_⟩
  · exact ⟨["com/B", "com/B"], ⟨calls.take 5, [.addOverwrite "tick" "()V"], rfl,
      by simp [Info.Call.Retargets]⟩, by simp, by simp⟩
  · exact ⟨⟨"x", "I", "new$"⟩, ⟨calls.take 4, calls.drop 5, rfl,
      by simp [calls, Info.Call.Shadows]⟩, rfl, .inr rfl⟩
  · rintro s hs ⟨hsname, -⟩
    rw [hnames s hs] at hsname
    exact absurd hsname (by decide)

end Mixin

end RangeIndex
