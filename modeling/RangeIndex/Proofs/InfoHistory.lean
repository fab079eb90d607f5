import Mathlib.Data.List.Induction
import RangeIndex.Mixin.Info
import RangeIndex.Proofs.DescriptorGrammar

/-!
# The history of a mixin

What is known about a type begins with nothing and changes by calls, in any order. Here these are
data, so that what is found later can be compared with what was once registered.

Members are found by keys that a name and a descriptor are put together to. A key tells the two
apart as long as no name holds the mark at which the descriptor begins (`append_inj_of_mark`).
-/

namespace RangeIndex.Mixin

theorem append_inj_of_mark {c : Char} {n n' d d' : String} (hn : c ∉ n.toList)
    (hn' : c ∉ n'.toList) (hd : d.toList.head? = some c) (hd' : d'.toList.head? = some c) :
    n ++ d = n' ++ d' ↔ n = n' ∧ d = d' := by
  constructor
  · intro h
    obtain ⟨r, hr⟩ := List.head?_eq_some_iff.1 hd
    obtain ⟨r', hr'⟩ := List.head?_eq_some_iff.1 hd'
    have hlist : n.toList ++ c :: r = n'.toList ++ c :: r' := by
      rw [← hr, ← hr', ← String.toList_append, ← String.toList_append, h]
    -- Both sides are cut at the first mark.
    obtain ⟨hname, hrest⟩ := until_append hn r
    obtain ⟨hname', hrest'⟩ := until_append hn' r'
    rw [hlist] at hname hrest
    refine ⟨String.toList_inj.1 (hname.symm.trans hname'), String.toList_inj.1 ?_⟩
    rw [hr, hr']
    exact hrest.symm.trans hrest'
  · rintro ⟨rfl, rfl⟩
    rfl

/-- A method of an interface, and the type that declares it. -/
structure InterfaceMethod where
  name : String
  desc : String
  owner : String
deriving DecidableEq, Repr

def SoftInterface.addMethods (i : SoftInterface) (methods : List InterfaceMethod) :
    SoftInterface :=
  methods.foldl (fun i m => i.addMethod m.name m.desc m.owner) i

namespace Info

/-- A call that changes what is known. An interface is added with the methods that it has by then,
and later ones are recorded at its position. -/
inductive Call where
  | setTargets (targets : List String)
  | addShadow (shadow : Shadow)
  | addOverwrite (name desc : String)
  | addInterface (namePrefix target : String) (methods : List InterfaceMethod)
  | addInterfaceMethod (position : Nat) (method : InterfaceMethod)
deriving DecidableEq

def Call.run (info : Info) : Call → Info
  | .setTargets targets => info.setTargets targets
  | .addShadow shadow => info.addShadow shadow
  | .addOverwrite name desc => info.addOverwrite name desc
  | .addInterface namePrefix target methods =>
    info.addInterface ((SoftInterface.new namePrefix target).addMethods methods)
  | .addInterfaceMethod position m => info.addInterfaceMethod position m.name m.desc m.owner

/-- What is known after calls. -/
def after (info : Info) (calls : List Call) : Info :=
  calls.foldl Call.run info

/-- The call is among the calls, and none after it replaces what it did. -/
def LastCall (replaces : Call → Prop) (calls : List Call) (call : Call) : Prop :=
  ∃ before later, calls = before ++ call :: later ∧ ∀ c ∈ later, ¬ replaces c

theorem LastCall.mem {replaces : Call → Prop} {calls : List Call} {call : Call}
    (h : LastCall replaces calls call) : call ∈ calls := by
  obtain ⟨before, later, rfl, -⟩ := h
  simp

theorem lastCall_concat_iff {replaces : Call → Prop} {calls : List Call} {call last : Call} :
    LastCall replaces (calls ++ [last]) call ↔
      last = call ∨ LastCall replaces calls call ∧ ¬ replaces last := by
  constructor
  · rintro ⟨before, later, hcalls, hlater⟩
    rcases List.eq_nil_or_concat later with rfl | ⟨later, c, rfl⟩
    · obtain ⟨-, hlast⟩ := List.append_inj' hcalls rfl
      exact .inl (List.singleton_inj.1 hlast)
    · have hcalls : calls ++ [last] = (before ++ call :: later) ++ [c] := by simpa using hcalls
      obtain ⟨rfl, hlast⟩ := List.append_inj' hcalls rfl
      obtain rfl := List.singleton_inj.1 hlast
      refine .inr ⟨⟨before, later, rfl, fun c hc => hlater c ?_⟩, hlater last ?_⟩
      · simp [hc]
      · simp
  · rintro (rfl | ⟨⟨before, later, rfl, hlater⟩, hlast⟩)
    · exact ⟨calls, [], rfl, by simp⟩
    · refine ⟨before, later ++ [last], by simp, fun c hc => ?_⟩
      rcases List.mem_append.1 hc with hc | hc
      · exact hlater c hc
      · rw [List.mem_singleton.1 hc]
        exact hlast

theorem exists_lastCall {replaces : Call → Prop} {calls : List Call}
    (h : ∃ c ∈ calls, replaces c) : ∃ c, replaces c ∧ LastCall replaces calls c := by
  induction calls using List.reverseRecOn with
  | nil => simp at h
  | append_singleton calls last ih =>
    simp only [lastCall_concat_iff]
    by_cases hlast : replaces last
    · exact ⟨last, hlast, .inl rfl⟩
    · obtain ⟨c, hc, hreplaces⟩ := h
      have hcalls : c ∈ calls := by
        rcases List.mem_append.1 hc with hc | hc
        · exact hc
        · exact absurd (List.mem_singleton.1 hc ▸ hreplaces) hlast
      obtain ⟨c, hreplaces, hc⟩ := ih ⟨c, hcalls, hreplaces⟩
      exact ⟨c, hreplaces, .inr ⟨hc, hlast⟩⟩

theorem after_concat (info : Info) (calls : List Call) (call : Call) :
    info.after (calls ++ [call]) = call.run (info.after calls) := by
  simp [after]

end Info

end RangeIndex.Mixin
