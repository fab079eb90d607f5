import RangeIndex.Proofs.Verdict

/-!
# Registries that a run can leave

A run starts with the empty registry, and nothing but the handling of annotations changes it. Every
entry of such a registry is about the type under whose name it is found
(`Registry.Reachable.owner_eq`): an annotation changes the entry of the owner of its site, and a new
entry is made for that owner.
-/

namespace RangeIndex.Mixin

/-- What a step leaves, whether it fails or not. -/
def Resolve.after {α : Type} (step : Resolve α) (w : Workspace) : Workspace :=
  match step w with
  | .ok _ w' => w'
  | .error _ w' => w'

/-- The registries that handling annotations can leave, for whatever files and with whatever
options. -/
inductive Registry.Reachable : Registry → Prop
  | empty : Reachable Registry.empty
  | process {w : Workspace} (options : Options) (use : AnnotationUse) (site : Site) :
      Reachable w.registry →
      Reachable (Resolve.after (Mixin.process options use site) w).registry

theorem after_process (options : Options) (use : AnnotationUse) (site : Site) (w : Workspace) :
    Resolve.after (process options use site) w =
      match use.verdict options site w.draft.filename (w.registry.get? site.owner) with
      | .ok c => c.apply site.owner w
      | .error e => w.log (.rejected e) := by
  rw [Resolve.after, process_eq]
  cases use.verdict options site w.draft.filename (w.registry.get? site.owner) with
  | ok c => rfl
  | error e => cases options.fatal <;> rfl

section Owner

variable {options : Options} {t : Task} {known : Option Info} {c : Change}

/-- The entry that an accepted annotation leaves is about the owner of its site, if the old one
was. -/
theorem owner_of_accepted (h : Task.Accepted options t known c)
    (hknown : ∀ info ∈ known, info.owner = t.site.owner) :
    ∀ info ∈ c.info, info.owner = t.site.owner := by
  have hold (owner : String) (hsite : t.site = .type owner) :
      (known.getD (Info.new owner)).owner = t.site.owner := by
    rw [hsite]
    cases known with
    | none => rfl
    | some info => simpa [hsite, Site.owner] using hknown info rfl
  intro info hinfo
  cases h with
  | mixin _ hsite =>
    cases hinfo
    exact hold _ hsite
  | interface _ hsite =>
    cases hinfo
    exact hold _ hsite
  | shadow _ _ _ hold' =>
    cases hinfo
    have howner := hknown _ hold'
    rw [Info.addShadows_eq]
    exact howner
  | overwrite _ _ _ hold' =>
    cases hinfo
    have howner := hknown _ hold'
    rw [Info.addOverwrite_eq]
    exact howner
  | skippedAccessor => cases hinfo
  | accessor _ _ _ _ _ _ _ _ hrecord =>
    rcases accessorRecord_eq_ok hrecord with rfl | ⟨l, rfl⟩ | ⟨o, rfl⟩ <;> cases hinfo

end Owner

/-- What holds of every entry still does after an annotation, if it holds of the entry that an
accepted one leaves. -/
theorem entries_after_process {P : String → Info → Prop} {options : Options}
    {use : AnnotationUse} {site : Site} {w : Workspace}
    (hold : ∀ name, ∀ info ∈ w.registry.get? name, P name info)
    (hnew : ∀ kind c, AnnotationKind.ofTypeName? use.typeName = some kind →
      Task.Accepted options ⟨kind, use, site⟩ (w.registry.get? site.owner) c →
      ∀ info ∈ c.info, P site.owner info) :
    ∀ name, ∀ info ∈ (Resolve.after (process options use site) w).registry.get? name,
      P name info := by
  intro name info hinfo
  rw [after_process] at hinfo
  split at hinfo
  · rename_i c hverdict
    simp only [Change.apply, Change.get?_registry] at hinfo
    split_ifs at hinfo with hname
    · subst hname
      rcases Option.or_eq_some_iff.1 hinfo with hinfo | ⟨-, hinfo⟩
      · rcases verdict_eq_ok hverdict with rfl | ⟨kind, hkind, htask⟩
        · cases hinfo
        · exact hnew kind c hkind (accepted_of_verdict htask) info hinfo
      · exact hold _ info hinfo
    · exact hold name info hinfo
  · exact hold name info hinfo

/-- Every entry is about the type under whose name it is found. -/
theorem Registry.Reachable.owner_eq {r : Registry} (h : r.Reachable) :
    ∀ name, ∀ info ∈ r.get? name, info.owner = name := by
  induction h with
  | empty => simp [Registry.empty]
  | process options use site _ ih =>
    refine entries_after_process ih fun kind c _ haccepted => ?_
    exact owner_of_accepted haccepted (ih site.owner)

end RangeIndex.Mixin
