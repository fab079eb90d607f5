import RangeIndex.Proofs.Overlaps
import RangeIndex.Proofs.ReachableRegistry
import RangeIndex.Proofs.SharedRegistry
import RangeIndex.Proofs.ShadowLookup

/-!
# References to shadowed methods

A reference to a method is redirected exactly if the look-up for fields finds a target for the same
member, and to that target (`shadedOwner?_eq_redirection?`). What is recorded is the reference
without the prefix of the shadow, where its name begins with it (`RecordedAs`). The prefix is taken
off the name and off the front of the span alike, so the span keeps its end, also at the last offset
(`RecordedAs.stop_eq`).

A prefix that is longer than any span is not taken off the span. Short ones are all that a registry
has if no annotation names another (`Registry.ReachableWithin.short`).
-/

namespace RangeIndex.Mixin

/-- The registries that handling annotations can leave if the prefixes of all shadows are shorter
than `limit` bytes. The shadows of a type have no order of their own, so they may come to be listed
in any other. -/
inductive Registry.ReachableWithin (limit : Nat) : Registry → Prop
  | empty : ReachableWithin limit Registry.empty
  | process {w : Workspace} (options : Options) (use : AnnotationUse) (site : Site) :
      (∀ p, AnnotationKind.ofTypeName? use.typeName = some .shadow →
        shadowArgs options.shadowPrefix use.args = .ok p → p.utf8ByteSize < limit) →
      ReachableWithin limit w.registry →
      ReachableWithin limit (Resolve.after (Mixin.process options use site) w).registry
  | reorder {r : Registry} {owner : String} {info : Info} {table : OrderedMap String Shadow} :
      ReachableWithin limit r → r.get? owner = some info →
      table.entries.Perm info.shadows.entries →
      ReachableWithin limit (r.insert owner { info with shadows := table })

/-- What is taken off a name in a reference to the shadow. -/
def Shadow.trimmed (s : Shadow) (name : String) : String :=
  if Text.startsWith s.namePrefix name then s.namePrefix else ""

/-- The occurrence records the reference for the method `name` of the target, with `q` taken off. -/
structure RecordedAs (ref : MethodReference) (target q name : String) (o : Occurrence) : Prop where
  name_eq : ref.member.name = q ++ name
  referent : o.referent = .method ⟨target, name, ref.member.desc⟩
  text : ref.text = q ++ o.text ∨ ¬ Text.startsWith q ref.text ∧ o.text = ref.text
  start : o.span.start.toNat = min (ref.span.start.toNat + q.utf8ByteSize) (UInt32.size - 1)
  length : o.span.length.toNat = ref.span.length.toNat - q.utf8ByteSize

/-! ## Prefixes in a registry -/

theorem mem_values_addShadows {namePrefix : String} {s : Shadow} :
    ∀ {members : List (String × String)} {info : Info},
      s ∈ (info.addShadows namePrefix members).shadows.values →
        s ∈ info.shadows.values ∨ s.namePrefix = namePrefix
  | [], info, h => .inl h
  | m :: members, info, h => by
    have hrest : s ∈ ((info.addShadow ⟨m.1, m.2, namePrefix⟩).addShadows namePrefix
        members).shadows.values := h
    rcases mem_values_addShadows hrest with h | h
    · obtain ⟨e, he, rfl⟩ := List.mem_map.1 h
      rcases OrderedMap.mem_put he with rfl | he
      · exact .inr rfl
      · exact .inl (List.mem_map_of_mem he)
    · exact .inr h

section Accepted

variable {options : Options} {t : Task} {known : Option Info} {c : Change}

/-- A shadow in the entry that an accepted annotation leaves was there before, or the annotation
declares it. -/
theorem mem_values_of_accepted (h : Task.Accepted options t known c) :
    ∀ info ∈ c.info, ∀ s ∈ info.shadows.values,
      (∃ old ∈ known, s ∈ old.shadows.values) ∨
        t.kind = .shadow ∧ shadowArgs options.shadowPrefix t.use.args = .ok s.namePrefix := by
  have hold {owner : String} {s : Shadow}
      (hs : s ∈ (known.getD (Info.new owner)).shadows.values) :
      ∃ old ∈ known, s ∈ old.shadows.values := by
    cases known with
    | none => cases hs
    | some old => exact ⟨old, rfl, hs⟩
  intro info hinfo s hs
  cases h with
  | mixin =>
    cases hinfo
    exact .inl (hold hs)
  | interface =>
    cases hinfo
    exact .inl (hold hs)
  | shadow hkind _ hargs hknown =>
    cases hinfo
    rcases mem_values_addShadows hs with hs | rfl
    · exact .inl ⟨_, hknown, hs⟩
    · exact .inr ⟨hkind, hargs⟩
  | overwrite _ _ _ hknown =>
    cases hinfo
    rw [Info.addOverwrite_eq] at hs
    exact .inl ⟨_, hknown, hs⟩
  | skippedAccessor => cases hinfo
  | accessor _ _ _ _ _ _ _ _ hrecord =>
    rcases accessorRecord_eq_ok hrecord with rfl | ⟨l, rfl⟩ | ⟨o, rfl⟩ <;> cases hinfo

end Accepted

theorem Registry.ReachableWithin.short {limit : Nat} {r : Registry} (h : r.ReachableWithin limit) :
    ∀ name, ∀ info ∈ r.get? name, ∀ s ∈ info.shadows.values,
      s.namePrefix.utf8ByteSize < limit := by
  induction h with
  | empty => simp [Registry.empty]
  | process options use site hprefixes _ ih =>
    refine entries_after_process (P := fun _ info => ∀ s ∈ info.shadows.values, _) ih ?_
    intro kind c hkind haccepted info hinfo s hs
    rcases mem_values_of_accepted haccepted info hinfo s hs with ⟨old, hold, hs⟩ | ⟨rfl, hargs⟩
    · exact ih _ old hold s hs
    · exact hprefixes _ hkind hargs
  | reorder _ hinfo htable ih =>
    intro name info' hinfo' s hs
    rw [OrderedMap.get?_insert] at hinfo'
    split at hinfo'
    · cases hinfo'
      exact ih _ _ hinfo s ((htable.map Prod.snd).mem_iff.1 hs)
    · exact ih name info' hinfo' s hs

/-! ## What is recorded -/

theorem toNat_ofNatClamp (n : Nat) : (UInt32.ofNatClamp n).toNat = min n (UInt32.size - 1) := by
  by_cases h : n < UInt32.size
  · rw [UInt32.toNat_ofNatClamp_of_lt h]
    omega
  · rw [UInt32.toNat_ofNatClamp_of_le (by omega)]
    omega

section Recorded

variable {ref : MethodReference} {target q name : String} {o : Occurrence}

/-- A reference may be recorded as it is. -/
theorem recordedAs_whole (ref : MethodReference) (target : String) :
    RecordedAs ref target "" ref.member.name
      ⟨ref.span, ref.text, .method ⟨target, ref.member.name, ref.member.desc⟩⟩ where
  name_eq := by simp
  referent := rfl
  text := by simp
  start := by
    have hstart := ref.span.start.toNat_lt_size
    simp only [String.utf8ByteSize_empty, Nat.add_zero]
    omega
  length := by simp

theorem redirect_recordedAs (ref : MethodReference) (target : String) {s : Shadow}
    (hshort : s.namePrefix.utf8ByteSize < UInt32.size) :
    ∃ name, RecordedAs ref target (s.trimmed ref.member.name) name
      (ref.redirect target s.namePrefix) := by
  unfold MethodReference.redirect Shadow.trimmed Text.startsWith
  rcases hname : Text.after? s.namePrefix ref.member.name with _ | name
  · exact ⟨ref.member.name, recordedAs_whole ref target⟩
  · simp only [Option.isSome_some, if_true]
    split_ifs with hempty
    · rw [String.isEmpty_iff.1 hempty]
      exact ⟨ref.member.name, recordedAs_whole ref target⟩
    · have hcount : MethodReference.prefixLength s.namePrefix = s.namePrefix.utf8ByteSize :=
        if_pos hshort
      refine ⟨name, Text.after?_eq_some_iff.1 hname, rfl, ?_, ?_, ?_⟩
      · rcases htext : Text.after? s.namePrefix ref.text with _ | rest
        · exact .inr ⟨by simp [Text.startsWith, htext], rfl⟩
        · exact .inl (Text.after?_eq_some_iff.1 htext)
      · simp only [MethodReference.trimSpan, hcount, toNat_ofNatClamp]
      · have hlength := ref.span.length.toNat_lt_size
        simp only [MethodReference.trimSpan, hcount]
        exact UInt32.toNat_ofNat_of_lt' (by omega)

/-- The span keeps its end if it is as long as what is taken off it. -/
theorem RecordedAs.stop_eq (h : RecordedAs ref target q name o)
    (hlength : q.utf8ByteSize ≤ ref.span.length.toNat) : o.span.stop = ref.span.stop := by
  rw [← UInt32.toNat_inj, Span.toNat_stop_eq_min, Span.toNat_stop_eq_min, h.start, h.length]
  omega

/-- A reference that spells the name is recorded as one that spells the recorded name. -/
theorem RecordedAs.aligned (h : RecordedAs ref target q name o)
    (htext : ref.text = ref.member.name)
    (hlength : ref.span.length.toNat = ref.text.utf8ByteSize) :
    o.text = name ∧ o.span.length.toNat = o.text.utf8ByteSize := by
  have hsplit : ref.text = q ++ name := htext.trans h.name_eq
  rcases h.text with hq | ⟨hq, -⟩
  · refine ⟨(String.append_right_inj q).1 (hq.symm.trans hsplit), ?_⟩
    rw [h.length, hlength, hq, String.utf8ByteSize_append]
    omega
  · exact absurd (Text.startsWith_iff.2 ⟨name, hsplit⟩) hq

end Recorded

/-! ## When a reference is redirected -/

theorem Info.shadedOwner?_eq_redirection? (info : Info) (m : Member) :
    info.shadedOwner? m.name m.desc = (info.redirection? m).map Prod.fst := by
  unfold shadedOwner? redirection?
  cases info.findShadow? m.name m.desc <;> cases info.target? <;> rfl

/-- The look-ups for fields and for methods agree. -/
theorem shadedOwner?_eq_redirection? (r : Registry) (m : Member) :
    r.shadedOwner? m.owner m.name m.desc =
      (MethodReference.redirection? r m).map Prod.fst := by
  rw [redirection?_eq, Registry.shadedOwner?, Option.map_bind]
  exact congrArg _ (funext fun info => info.shadedOwner?_eq_redirection? m)

theorem Info.redirection?_eq_some {info : Info} {m : Member} {target namePrefix : String}
    (h : info.redirection? m = some (target, namePrefix)) :
    ∃ s, info.findShadow? m.name m.desc = some s ∧ s.namePrefix = namePrefix := by
  obtain ⟨target', -, h⟩ := Option.bind_eq_some_iff.1 h
  obtain ⟨s, hs, h⟩ := Option.bind_eq_some_iff.1 h
  cases h
  exact ⟨s, hs, rfl⟩

theorem Info.mem_values_of_findShadow? {info : Info} {name desc : String} {s : Shadow}
    (h : info.findShadow? name desc = some s) : s ∈ info.shadows.values := by
  rcases Option.or_eq_some_iff.1 h with h | ⟨-, h⟩
  · exact OrderedMap.mem_values_iff.2 ⟨_, h⟩
  · exact List.mem_of_find?_eq_some h

/-- A reference to a method is redirected exactly if the member is shaded, to the same target that a
reference to such a field has. It is then recorded without what the prefix of the shadow takes off
its name, and with the same end. Any other reference leaves everything as it was. -/
theorem method_reference_follows_shadow {w : Workspace}
    (hreachable : w.registry.ReachableWithin UInt32.size) (ref : MethodReference) :
    let m := ref.member
    let shaded := w.registry.shadedOwner? m.owner m.name m.desc
    ((∃ w', methodReference ref w = .ok true w') ↔ ∃ t, shaded = some t) ∧
    (shaded = none → fieldOwner w.registry m.owner m.name m.desc = m.owner ∧
      methodReference ref w = .ok false w) ∧
    ∀ t, shaded = some t → fieldOwner w.registry m.owner m.name m.desc = t ∧
      ∃ info s name o, w.registry.get? m.owner = some info ∧
        info.findShadow? m.name m.desc = some s ∧
        methodReference ref w = .ok true { w with draft := w.draft.addOccurrence o } ∧
        RecordedAs ref t (s.trimmed m.name) name o ∧
        ((s.trimmed m.name).utf8ByteSize ≤ ref.span.length.toNat →
          o.span.stop = ref.span.stop) ∧
        (ref.text = m.name → ref.span.length.toNat = ref.text.utf8ByteSize →
          o.text = name ∧ o.span.length.toNat = o.text.utf8ByteSize) := by
  intro m shaded
  have hshaded : shaded = (MethodReference.redirection? w.registry m).map Prod.fst :=
    shadedOwner?_eq_redirection? w.registry m
  have howner : fieldOwner w.registry m.owner m.name m.desc = shaded.getD m.owner := rfl
  rw [methodReference_eq, howner, hshaded]
  rcases hredirection : MethodReference.redirection? w.registry m with _ | ⟨target, namePrefix⟩
  · simp
  · obtain ⟨info, hinfo, hfound⟩ := Option.bind_eq_some_iff.1 hredirection
    obtain ⟨s, hs, rfl⟩ := Info.redirection?_eq_some hfound
    have hshort := hreachable.short m.owner info hinfo s (Info.mem_values_of_findShadow? hs)
    obtain ⟨name, hrecorded⟩ := redirect_recordedAs ref target hshort
    refine ⟨⟨fun _ => ⟨target, rfl⟩, fun _ => ⟨_, rfl⟩⟩, by simp, ?_⟩
    rintro t ht
    obtain rfl : target = t := by simpa using ht
    exact ⟨rfl, info, s, name, _, hinfo, hs, rfl, hrecorded, hrecorded.stop_eq,
      hrecorded.aligned⟩

/-- A reference by a prefixed name, so near the last offset that its start is cut off there. -/
theorem method_reference_follows_shadow_prefixed :
    let mixin : AnnotationUse :=
      ⟨"org/spongepowered/asm/mixin/Mixin", 0, .single (.type "com/B")⟩
    let shadow : AnnotationUse := ⟨"org/spongepowered/asm/mixin/Shadow", 9, .marker⟩
    let w := Resolve.after (process .default shadow (.method ⟨"mixin/A", "tick", "()V"⟩))
      (Resolve.after (process .default mixin (.type "mixin/A"))
        ⟨Registry.empty, Draft.new "mixin/A.java" "h", []⟩)
    let ref : MethodReference :=
      ⟨⟨4294967290, 11⟩, "shadow$tick", ⟨"mixin/A", "shadow$tick", "()V"⟩⟩
    w.registry.ReachableWithin UInt32.size ∧
      w.registry.shadedOwner? "mixin/A" "shadow$tick" "()V" = some "com/B" ∧
      fieldOwner w.registry "mixin/A" "shadow$tick" "()V" = "com/B" ∧
      ∃ o, methodReference ref w = .ok true { w with draft := w.draft.addOccurrence o } ∧
        o.referent = .method ⟨"com/B", "tick", "()V"⟩ ∧ o.text = "tick" ∧
        o.span.length.toNat = 4 ∧ o.span.stop = ref.span.stop := by
  intro mixin shadow w ref
  have hreachable : w.registry.ReachableWithin UInt32.size := by
    refine .process .default shadow _ ?_ (.process .default mixin _ ?_ .empty)
    · rintro p - hargs
      cases hargs
      decide
    · intro p hkind
      exact absurd hkind (by decide +kernel)
  have hshaded : w.registry.shadedOwner? "mixin/A" "shadow$tick" "()V" = some "com/B" := by
    decide +kernel
  obtain ⟨-, -, hredirected⟩ := method_reference_follows_shadow hreachable ref
  obtain ⟨howner, info, s, name, o, hinfo, hs, hresult, hrecorded, hstop, haligned⟩ :=
    hredirected "com/B" hshaded
  obtain ⟨htext, hlength⟩ := haligned rfl (by decide)
  have hfound :
      (w.registry.get? "mixin/A").bind (fun info => info.findShadow? "shadow$tick" "()V") =
        some ⟨"tick", "()V", "shadow$"⟩ := by decide +kernel
  rw [hinfo] at hfound
  obtain rfl : s = ⟨"tick", "()V", "shadow$"⟩ := Option.some.inj (hs.symm.trans hfound)
  have hq : Shadow.trimmed ⟨"tick", "()V", "shadow$"⟩ "shadow$tick" = "shadow$" := by
    decide +kernel
  have hname : "shadow$" ++ name = "shadow$" ++ "tick" :=
    (congrArg (· ++ name) hq).symm.trans hrecorded.name_eq.symm
  obtain rfl := (String.append_right_inj "shadow$").1 hname
  refine ⟨hreachable, hshaded, howner, o, hresult, hrecorded.referent, htext, ?_, hstop (by decide)⟩
  rw [hlength, htext]
  rfl

end RangeIndex.Mixin
