import RangeIndex.Proofs.InfoHistory
import RangeIndex.Proofs.Verdict

/-!
# Overwrites and soft interfaces over a history

Methods are kept under their name directly followed by their descriptor. The descriptor of a method
begins with a parenthesis, which no name has, so the two can be told apart in a key.

A soft interface answers with the type that was recorded first for a method (`get?_addMethods`).
Methods are recorded for it when it is added and at any time later, by its position; `declared`
collects them from the calls alone, and `interfaces_after` says that the interfaces of a mixin are
those.
-/

namespace RangeIndex.Mixin

/-- A name and a descriptor that a method can have. -/
@[mk_iff]
structure IsMethod (name desc : String) : Prop where
  name : '(' ∉ name.toList
  desc : desc.toList.head? = some '('

theorem methodKey_inj {n n' d d' : String} (h : IsMethod n d) (h' : IsMethod n' d') :
    n ++ d = n' ++ d' ↔ n = n' ∧ d = d' :=
  append_inj_of_mark h.name h'.name h.desc h'.desc

/-- The owner is the first one that is recorded for a method. -/
def FirstOwner (methods : List InterfaceMethod) (name desc owner : String) : Prop :=
  ∃ earlier later, methods = earlier ++ ⟨name, desc, owner⟩ :: later ∧
    ∀ m ∈ earlier, ¬ (m.name = name ∧ m.desc = desc)

/-- An interface with all methods that are recorded for it, in order. -/
structure DeclaredInterface where
  namePrefix : String
  target : String
  methods : List InterfaceMethod
deriving DecidableEq

namespace DeclaredInterface

def soft (d : DeclaredInterface) : SoftInterface :=
  (SoftInterface.new d.namePrefix d.target).addMethods d.methods

/-- A method of the mixin implements a method of the interface that `owner` declares. -/
def Declares (d : DeclaredInterface) (name desc owner : String) : Prop :=
  ∃ n, name = d.namePrefix ++ n ∧ FirstOwner d.methods n desc owner

end DeclaredInterface

namespace Info

/-- The methods that a call names can be methods. -/
def Call.NamesMethods : Call → Prop
  | .addOverwrite name desc => IsMethod name desc
  | .addInterface _ _ methods => ∀ m ∈ methods, IsMethod m.name m.desc
  | .addInterfaceMethod _ m => IsMethod m.name m.desc
  | _ => True

def Call.methodAt? (position : Nat) : Call → Option InterfaceMethod
  | .addInterfaceMethod p m => if p = position then some m else none
  | _ => none

/-- The interfaces that calls add, the first of them at the given position. -/
def declared (position : Nat) : List Call → List DeclaredInterface
  | [] => []
  | .addInterface namePrefix target methods :: later =>
    ⟨namePrefix, target, methods ++ later.filterMap (Call.methodAt? position)⟩ ::
      declared (position + 1) later
  | _ :: later => declared position later

end Info

/-! ## Overwrites -/

namespace Info

theorem overwrites_run (info : Info) (call : Call) (key : String) :
    key ∈ (call.run info).overwrites ↔
      key ∈ info.overwrites ∨ ∃ name desc, call = .addOverwrite name desc ∧ key = name ++ desc := by
  cases call with
  | addOverwrite name desc =>
    rw [Call.run, addOverwrite_eq]
    simp only [List.contains_iff_mem, Call.addOverwrite.injEq]
    split <;> grind
  | _ => simp [Call.run, setTargets, addShadow, addInterface, addInterfaceMethod]

theorem mem_overwrites_after (owner key : String) (calls : List Call) :
    key ∈ ((new owner).after calls).overwrites ↔
      ∃ name desc, .addOverwrite name desc ∈ calls ∧ key = name ++ desc := by
  induction calls using List.reverseRecOn with
  | nil => simp [after, new]
  | append_singleton calls call ih =>
    rw [after_concat, overwrites_run, ih]
    grind

end Info

/-! ## The methods of one interface -/

namespace SoftInterface

theorem get?_addMethod (i : SoftInterface) (name desc owner key : String) :
    (i.addMethod name desc owner).methods.get? key =
      (i.methods.get? key).or (if name ++ desc = key then some owner else none) := by
  unfold addMethod
  split
  · rename_i hold
    obtain ⟨o, ho⟩ := Option.isSome_iff_exists.1 hold
    split
    · rename_i hkey
      rw [← hkey, ho]
      rfl
    · simp
  · rename_i hnew
    rw [OrderedMap.get?_insert]
    split
    · rename_i hkey
      subst hkey
      have hnone : i.methods.get? (name ++ desc) = none := by
        simpa [OrderedMap.contains] using hnew
      simp [hnone]
    · rename_i hkey
      simp [Ne.symm hkey]

theorem addMethods_cons (i : SoftInterface) (m : InterfaceMethod) (methods : List InterfaceMethod) :
    i.addMethods (m :: methods) = (i.addMethod m.name m.desc m.owner).addMethods methods := rfl

theorem get?_addMethods (key : String) :
    ∀ (methods : List InterfaceMethod) (i : SoftInterface),
      (i.addMethods methods).methods.get? key = (i.methods.get? key).or
        ((methods.find? fun m => m.name ++ m.desc = key).map InterfaceMethod.owner)
  | [], i => by simp [addMethods]
  | m :: methods, i => by
    have ih := get?_addMethods key methods (i.addMethod m.name m.desc m.owner)
    rw [get?_addMethod] at ih
    rw [addMethods_cons, ih, List.find?_cons]
    by_cases hkey : m.name ++ m.desc = key <;> simp [hkey]

theorem namePrefix_addMethods :
    ∀ (methods : List InterfaceMethod) (i : SoftInterface),
      (i.addMethods methods).namePrefix = i.namePrefix
  | [], _ => rfl
  | m :: methods, i => by
    rw [addMethods_cons, namePrefix_addMethods]
    unfold addMethod
    split <;> rfl

end SoftInterface

theorem find?_eq_some_iff_firstOwner {methods : List InterfaceMethod}
    (hmethods : ∀ m ∈ methods, IsMethod m.name m.desc) {name desc : String}
    (h : IsMethod name desc) {owner : String} :
    (methods.find? fun m => m.name ++ m.desc = name ++ desc).map InterfaceMethod.owner =
        some owner ↔ FirstOwner methods name desc owner := by
  have hkey {m : InterfaceMethod} (hm : m ∈ methods) :
      m.name ++ m.desc = name ++ desc ↔ m.name = name ∧ m.desc = desc :=
    methodKey_inj (hmethods m hm) h
  rw [Option.map_eq_some_iff]
  constructor
  · rintro ⟨m, hfind, rfl⟩
    obtain ⟨hm, earlier, later, rfl, hearlier⟩ := List.find?_eq_some_iff_append.1 hfind
    obtain ⟨rfl, rfl⟩ := (hkey (by simp)).1 (of_decide_eq_true hm)
    refine ⟨earlier, later, rfl, fun m' hm' hsame => ?_⟩
    simpa [hsame] using hearlier m' hm'
  · rintro ⟨earlier, later, rfl, hearlier⟩
    refine ⟨⟨name, desc, owner⟩, List.find?_eq_some_iff_append.2 ⟨by simp, earlier, later, rfl, ?_⟩,
      rfl⟩
    intro m hm
    have hother := hearlier m hm
    rw [← hkey (by simp [hm])] at hother
    simpa using hother

namespace DeclaredInterface

/-- What the interface answers, which is nothing to a name without its prefix. -/
def owner? (d : DeclaredInterface) (name desc : String) : Option String :=
  if Text.startsWith d.soft.namePrefix name then d.soft.findOwner name desc else none

section Answer

variable {d : DeclaredInterface} (hmethods : ∀ m ∈ d.methods, IsMethod m.name m.desc)
  {name desc : String} (h : IsMethod name desc)
include hmethods h

theorem owner?_eq_some_iff {owner : String} :
    d.owner? name desc = some owner ↔ d.Declares name desc owner := by
  rw [owner?, Option.ite_none_right_eq_some, soft, SoftInterface.findOwner,
    SoftInterface.namePrefix_addMethods, SoftInterface.get?_addMethods, Text.startsWith_iff]
  have hempty (key : String) :
      (SoftInterface.new d.namePrefix d.target).methods.get? key = none := rfl
  rw [hempty, Option.none_or, ← exists_and_right]
  refine exists_congr fun n => and_congr_right ?_
  rintro rfl
  rw [Text.after?_eq_some_iff.2 rfl, Option.getD_some]
  refine find?_eq_some_iff_firstOwner hmethods ⟨fun hmark => h.name ?_, h.desc⟩
  simp [hmark]

theorem owner?_eq_none_iff :
    d.owner? name desc = none ↔ ∀ owner, ¬ d.Declares name desc owner := by
  rw [Option.eq_none_iff_forall_ne_some]
  exact forall_congr' fun owner => not_congr (owner?_eq_some_iff hmethods h)

end Answer

end DeclaredInterface

/-! ## The interfaces over a history -/

namespace Info

theorem interfaces_run (info : Info) (call : Call) :
    (call.run info).interfaces =
      match call with
      | .addInterface namePrefix target methods =>
        info.interfaces ++ [(SoftInterface.new namePrefix target).addMethods methods]
      | .addInterfaceMethod position m =>
        info.interfaces.modify position fun i => i.addMethods [m]
      | _ => info.interfaces := by
  cases call with
  | addOverwrite name desc =>
    rw [Call.run, addOverwrite_eq]
  | _ => rfl

theorem mapIdx_modify {α β : Type} (l : List α) (p : Nat) (f : α → α) (g : Nat → α → β) :
    (l.modify p f).mapIdx g = l.mapIdx fun k x => g k (if p = k then f x else x) := by
  ext1 k
  simp [List.getElem?_modify, Function.comp_def]

theorem interfaces_after :
    ∀ (calls : List Call) (info : Info),
      (info.after calls).interfaces =
        (info.interfaces.mapIdx fun k i => i.addMethods (calls.filterMap (Call.methodAt? k))) ++
          (declared info.interfaces.length calls).map DeclaredInterface.soft
  | [], info => by
    have hsame : (info.interfaces.mapIdx fun _ i => i) = info.interfaces := by
      ext1 k
      simp
    simpa [after, declared, SoftInterface.addMethods] using hsame.symm
  | call :: calls, info => by
    rw [show info.after (call :: calls) = (call.run info).after calls from rfl,
      interfaces_after calls, interfaces_run]
    cases call with
    | addInterface namePrefix target methods =>
      simp [List.mapIdx_append, List.filterMap_cons, Call.methodAt?, declared,
        DeclaredInterface.soft, SoftInterface.addMethods]
    | addInterfaceMethod position m =>
      simp only [mapIdx_modify, List.filterMap_cons, Call.methodAt?, declared, List.length_modify]
      congr 2
      funext k i
      split <;> simp [SoftInterface.addMethods]
    | _ => simp [List.filterMap_cons, Call.methodAt?, declared]

theorem Call.NamesMethods.isMethod {c : Call} (h : c.NamesMethods) {position : Nat}
    {m : InterfaceMethod} (hm : c.methodAt? position = some m) : IsMethod m.name m.desc := by
  unfold methodAt? at hm
  split at hm
  · split_ifs at hm
    cases hm
    exact h
  · cases hm

theorem isMethod_of_declared :
    ∀ {calls : List Call} {position : Nat}, (∀ c ∈ calls, c.NamesMethods) →
      ∀ d ∈ declared position calls, ∀ m ∈ d.methods, IsMethod m.name m.desc
  | [], _, _, d, hd => by simp [declared] at hd
  | call :: calls, position, hcalls, d, hd => by
    obtain ⟨hcall, hrest⟩ := List.forall_mem_cons.1 hcalls
    cases call with
    | addInterface namePrefix target methods =>
      rcases List.mem_cons.1 hd with rfl | hd
      · intro m hm
        rcases List.mem_append.1 hm with hm | hm
        · exact hcall m hm
        · obtain ⟨c, hc, hrecorded⟩ := List.mem_filterMap.1 hm
          exact (hrest c hc).isMethod hrecorded
      · exact isMethod_of_declared hrest d hd
    | _ => exact isMethod_of_declared hrest d hd

/-- The interfaces are asked in the order in which they were added, and only those whose prefix the
name has. -/
theorem findInterfaceOwner?_after (owner name desc : String) (calls : List Call) :
    ((new owner).after calls).findInterfaceOwner? name desc =
      (declared 0 calls).findSome? fun d => d.owner? name desc := by
  have hinterfaces : ((new owner).after calls).interfaces =
      (declared 0 calls).map DeclaredInterface.soft := by
    rw [interfaces_after]
    rfl
  rw [findInterfaceOwner?, hinterfaces, ← List.head?_filterMap, List.filterMap_filter,
    List.head?_filterMap, List.findSome?_map]
  rfl

end Info

/-- Over any history in which methods are methods by their names and descriptors, a method is
overwritten exactly if it was recorded as such. A method of the mixin implements the method of the
first interface that has one under the name without the prefix, and the type that was recorded first
for it declares it. -/
theorem tables_answer_for_registered (owner : String) {calls : List Info.Call}
    (hcalls : ∀ c ∈ calls, c.NamesMethods) {name desc : String} (h : IsMethod name desc) :
    let info := (Info.new owner).after calls
    let interfaces := Info.declared 0 calls
    (info.isOverwrite name desc ↔ .addOverwrite name desc ∈ calls) ∧
    (∀ o, info.findInterfaceOwner? name desc = some o ↔
      ∃ earlier d later, interfaces = earlier ++ d :: later ∧ d.Declares name desc o ∧
        ∀ e ∈ earlier, ∀ o', ¬ e.Declares name desc o') ∧
    (info.findInterfaceOwner? name desc = none ↔
      ∀ d ∈ interfaces, ∀ o, ¬ d.Declares name desc o) := by
  intro info interfaces
  have hmethods : ∀ d ∈ interfaces, ∀ m ∈ d.methods, IsMethod m.name m.desc :=
    Info.isMethod_of_declared hcalls
  have hnone : ∀ d ∈ interfaces, d.owner? name desc = none ↔ ∀ o, ¬ d.Declares name desc o :=
    fun d hd => DeclaredInterface.owner?_eq_none_iff (hmethods d hd) h
  refine ⟨?_, fun o => ?_, ?_⟩
  · rw [Info.isOverwrite, List.contains_iff_mem, Info.mem_overwrites_after]
    constructor
    · rintro ⟨n, d, hcall, hkey⟩
      obtain ⟨rfl, rfl⟩ := (methodKey_inj h (hcalls _ hcall)).1 hkey
      exact hcall
    · exact fun hcall => ⟨name, desc, hcall, rfl⟩
  · rw [Info.findInterfaceOwner?_after, List.findSome?_eq_some_iff]
    refine exists_congr fun earlier => exists_congr fun d => exists_congr fun later =>
      and_congr_right fun hsplit =>
        and_congr (DeclaredInterface.owner?_eq_some_iff (hmethods d ?_) h) ?_
    · simp [interfaces, hsplit]
    · exact forall₂_congr fun e he => hnone e (by simp [interfaces, hsplit, he])
  · rw [Info.findInterfaceOwner?_after, List.findSome?_eq_none_iff]
    exact forall₂_congr hnone

/-- Two interfaces whose prefixes a name has, of which the second one knows the method, from two
types. -/
theorem tables_answer_for_registered_twice :
    let calls : List Info.Call := [
      .addInterface "" "com/api/Any" [⟨"size", "()J", "com/api/Any"⟩],
      .addInterface "api$" "com/api/Thing" [⟨"size", "()I", "com/api/Thing"⟩],
      .addOverwrite "size" "()I", .addInterfaceMethod 1 ⟨"size", "()I", "com/api/Base"⟩]
    let info := (Info.new "mixin/A").after calls
    (∀ c ∈ calls, c.NamesMethods) ∧ IsMethod "api$size" "()I" ∧
      ¬ info.isOverwrite "api$size" "()I" ∧
      info.findInterfaceOwner? "api$size" "()I" = some "com/api/Thing" := by
  intro calls info
  have hcalls : ∀ c ∈ calls, c.NamesMethods := by
    simp [calls, Info.Call.NamesMethods, isMethod_iff]
  have hquery : IsMethod "api$size" "()I" := ⟨by simp, rfl⟩
  obtain ⟨hoverwrite, howner, -⟩ := tables_answer_for_registered "mixin/A" hcalls hquery
  let first : DeclaredInterface := ⟨"", "com/api/Any", [⟨"size", "()J", "com/api/Any"⟩]⟩
  let second : DeclaredInterface := ⟨"api$", "com/api/Thing",
    [⟨"size", "()I", "com/api/Thing"⟩, ⟨"size", "()I", "com/api/Base"⟩]⟩
  have hsecond : second.Declares "api$size" "()I" "com/api/Thing" :=
    ⟨"size", rfl, [], _, rfl, by simp⟩
  have hfirst : ∀ o, ¬ first.Declares "api$size" "()I" o := by
    rintro o ⟨n, -, earlier, later, hmethods, -⟩
    have hmem : (⟨n, "()I", o⟩ : InterfaceMethod) ∈ first.methods := by simp [hmethods]
    simp [first] at hmem
  refine ⟨hcalls, hquery, hoverwrite.not.2 (by simp [calls]), (howner _).2 ?_⟩
  exact ⟨[first], second, [], rfl, hsecond, by simpa using hfirst⟩

end RangeIndex.Mixin
