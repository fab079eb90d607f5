import RangeIndex.Proofs.NamingPattern
import RangeIndex.Proofs.Pattern

/-!
# The groups of the naming pattern

The conventions for accessor names are one pattern,
`^(get|is|set|call|invoke|new|create)(([A-Z])(.*?))(_\$md.*)?$`, of which a search gives the groups.
`parts?` takes a name apart without a search, and its parts are these groups
(`captures_namePattern`, `captures_map_get?`).

The fourth group is lazy, so it stops as soon as a suffix and the end of the text can follow. The
suffix is optional, but without it the text has to end at once, so the group stops before the first
marker (`findSome?_lazy_suffix`). Neither the group nor the suffix can pass a line feed, so a name
with one has no match, whatever is tried.
-/

namespace RangeIndex.Mixin

/-- The role that a naming prefix stands for. -/
def AccessorRole.ofPrefix? (p : String) : Option AccessorRole :=
  all.find? fun role => role.prefixes.contains p

theorem AccessorRole.ofPrefix?_of_convention {p : String} {role : AccessorRole}
    (h : Convention p role) : ofPrefix? p = some role := by
  cases h <;> decide

namespace AccessorName

open RangeIndex.Pattern (CharClass Cursor Groups Spans results runs first?_seq first?_stop
  captures_start findSome?_greedy_cons findSome?_lazy_cons)
open RangeIndex.Text (afterChars? afterChars?_eq_some_iff isLowercase)

/-- The naming prefix, `(get|is|set|call|invoke|new|create)`. -/
def prefixPattern : Pattern :=
  .group 1 <| .alt (.text "get") <| .alt (.text "is") <| .alt (.text "set") <|
    .alt (.text "call") <| .alt (.text "invoke") <| .alt (.text "new") (.text "create")

/-- The name of the member with its capital, `(([A-Z])(.*?))`. -/
def memberPattern : Pattern :=
  .group 2 <| .seq (.group 3 (.one (.range 'A' 'Z'))) (.group 4 (.many .dot .lazy))

/-- What does not count, `(_\$md.*)?`. -/
def suffixPattern : Pattern :=
  .optional <| .group 5 <| .seq (.text "_$md") (.many .dot .greedy)

/-- The whole pattern, `^(get|is|set|call|invoke|new|create)(([A-Z])(.*?))(_\$md.*)?$`. -/
def namePattern : Pattern :=
  .seq .start <| .seq prefixPattern <| .seq memberPattern <| .seq suffixPattern .stop

/-- Adds the group of a suffix that starts at `i`, unless the text ends there. -/
def withSuffix (i stop : Nat) (groups : Spans) : Spans :=
  if i = stop then groups else (5, i, stop) :: groups

/-! ## The end of a name -/

theorem dot_holds_iff {c : Char} : CharClass.dot.holds c ↔ c ≠ '\n' := by
  simp [CharClass.holds]

/-- The rest of a line reaches the end of the text if there is no other line. -/
theorem findSome?_greedy_stop (groups : Spans) (n i : Nat) (ahead : List Char) (position : Nat) :
    (runs .dot .greedy groups position ahead).findSome?
        (fun d => Pattern.stop.first? (d.close n i)) =
      if '\n' ∈ ahead then none
      else some ⟨position + ahead.length, [], (n, i, position + ahead.length) :: groups⟩ := by
  induction ahead generalizing position with
  | nil => simp [runs, first?_stop, Cursor.close]
  | cons c ahead ih =>
    have hhere : Pattern.stop.first? (Cursor.close ⟨position, c :: ahead, groups⟩ n i) = none := by
      simp [first?_stop, Cursor.close]
    rw [findSome?_greedy_cons, hhere, Option.or_none, ih]
    by_cases hc : c = '\n'
    · simp [dot_holds_iff, hc]
    · simp [dot_holds_iff, hc, Ne.symm hc, Nat.add_assoc, Nat.add_comm 1]

theorem first?_suffix (position : Nat) (ahead : List Char) (groups : Spans) :
    (Pattern.seq suffixPattern .stop).first? ⟨position, ahead, groups⟩ =
      if ahead = [] ∨ marker <+: ahead ∧ '\n' ∉ ahead then
        some ⟨position + ahead.length, [],
          withSuffix position (position + ahead.length) groups⟩
      else none := by
  rw [first?_seq, suffixPattern, results, List.findSome?_append, List.findSome?_singleton,
    first?_stop, results, results, results, show "_$md".toList = marker from rfl]
  cases hafter : afterChars? marker ahead with
  | none =>
    have hnot : ¬ marker <+: ahead := by
      rintro ⟨tail, rfl⟩
      rw [afterChars?_eq_some_iff.2 rfl] at hafter
      cases hafter
    by_cases hend : ahead = []
    · simp [hend, withSuffix]
    · simp [hend, hnot]
  | some tail =>
    obtain rfl := afterChars?_eq_some_iff.1 hafter
    have hline : '\n' ∈ marker ++ tail ↔ '\n' ∈ tail := by simp [marker]
    have hne : marker ++ tail ≠ [] := by simp [marker]
    simp only [List.flatMap_singleton, results, List.findSome?_map, Function.comp_def,
      findSome?_greedy_stop, hne, false_or, if_false, Option.or_none, List.prefix_append, true_and,
      hline, withSuffix, List.length_append, Nat.add_assoc]
    by_cases h : '\n' ∈ tail <;> simp [h, marker]

/-- The lazy group stops at the first marker, or at the end of the text if there is none. -/
theorem findSome?_lazy_suffix (groups : Spans) (i j : Nat) (ahead : List Char) (position : Nat) :
    (runs .dot .lazy groups position ahead).findSome?
        (fun d => (Pattern.seq suffixPattern .stop).first? ((d.close 4 j).close 2 i)) =
      if '\n' ∈ ahead then none
      else
        let stop := position + (beforeMarker ahead).length
        some ⟨position + ahead.length, [], withSuffix stop (position + ahead.length)
          ((2, i, stop) :: (4, j, stop) :: groups)⟩ := by
  induction ahead generalizing position with
  | nil => simp [runs, first?_suffix, Cursor.close, beforeMarker]
  | cons c ahead ih =>
    rw [findSome?_lazy_cons, ih]
    simp only [Cursor.close, first?_suffix, List.cons_ne_nil, false_or]
    by_cases hline : '\n' ∈ c :: ahead
    · -- A line feed stays ahead wherever the group stops.
      have hmore : CharClass.dot.holds c → '\n' ∈ ahead := fun h => by
        simpa [Ne.symm (dot_holds_iff.1 h)] using hline
      simpa [hline] using hmore
    · obtain ⟨hc, hahead⟩ : '\n' ≠ c ∧ '\n' ∉ ahead := by simpa using hline
      by_cases hmarker : marker <+: c :: ahead
      · rw [beforeMarker_cons_of_marker hmarker]
        simp [hmarker, hline]
      · rw [beforeMarker_cons_of_ne hmarker]
        simp [hmarker, hahead, hc, dot_holds_iff.2 hc.symm, Nat.add_assoc, Nat.add_comm 1]

/-! ## Whole names -/

/-- The groups in a name of the given length that has these parts. -/
def Parts.spans (parts : Parts) (length : Nat) : Spans :=
  let start := parts.namePrefix.toList.length
  let stop := start + 1 + parts.rest.length
  withSuffix stop length
    [(2, start, stop), (4, start + 1, stop), (3, start, start + 1), (1, 0, start)]

theorem range_holds (c : Char) : (CharClass.range 'A' 'Z').holds c = c.isUpper :=
  (Bool.decide_and _ _).symm

theorem results_prefixPattern (c : Cursor) :
    prefixPattern.results c =
      conventions.flatMap fun convention => results (.group 1 (.text convention.1)) c := by
  simp [prefixPattern, results, conventions, AccessorRole.all, AccessorRole.prefixes]

theorem first?_member (position : Nat) (c : Char) (rest : List Char) (groups : Spans) :
    (Pattern.seq memberPattern (.seq suffixPattern .stop)).first? ⟨position, c :: rest, groups⟩ =
      if c.isUpper && !rest.contains '\n' then
        let stop := position + 1 + (beforeMarker rest).length
        some ⟨position + 1 + rest.length, [], withSuffix stop (position + 1 + rest.length)
          ((2, position, stop) :: (4, position + 1, stop) :: (3, position, position + 1) :: groups)⟩
      else none := by
  rw [first?_seq, memberPattern]
  simp only [results, range_holds]
  cases c.isUpper with
  | false => rfl
  | true =>
    have hlazy := findSome?_lazy_suffix ((3, position, position + 1) :: groups) position
      (position + 1) rest (position + 1)
    simp only [if_true, List.map_cons, List.map_nil, List.flatMap_singleton, List.findSome?_map,
      Function.comp_def, Cursor.close] at hlazy ⊢
    rw [hlazy]
    by_cases hline : '\n' ∈ rest <;> simp [hline]

theorem first?_convention (method : List Char) (convention : String × AccessorRole) :
    (Pattern.seq (.group 1 (.text convention.1))
        (.seq memberPattern (.seq suffixPattern .stop))).first? ⟨0, method, []⟩ =
      (partsWith? method convention).map fun parts =>
        ⟨method.length, [], parts.spans method.length⟩ := by
  unfold partsWith?
  rw [first?_seq, results, results]
  cases hafter : afterChars? convention.1.toList method with
  | none => rfl
  | some ahead =>
    obtain rfl := afterChars?_eq_some_iff.1 hafter
    simp only [List.map_cons, List.map_nil, List.findSome?_singleton, Cursor.close, Nat.zero_add]
    cases ahead with
    | nil => rfl
    | cons c rest =>
      rw [first?_member]
      simp only []
      split
      · simp [Parts.spans, Nat.add_assoc, Nat.add_comm 1]
      · rfl

/-- The search finds a match just if the name has parts, and the groups are where the parts are. -/
theorem captures_namePattern (method : List Char) :
    namePattern.captures method =
      (parts? method).map fun parts => ⟨method, parts.spans method.length⟩ := by
  have hsearch : (Pattern.seq prefixPattern
      (.seq memberPattern (.seq suffixPattern .stop))).first? ⟨0, method, []⟩ =
        (parts? method).map fun parts => ⟨method.length, [], parts.spans method.length⟩ := by
    rw [Pattern.first?, results, results_prefixPattern, List.flatMap_assoc, List.head?_flatMap,
      parts?, List.map_findSome?]
    exact congrArg conventions.findSome? (funext (first?_convention method))
  rw [namePattern, captures_start, hsearch, Option.map_map]
  rfl

theorem lookup_withSuffix {n : Nat} (hn : n ≠ 5) (i stop : Nat) (groups : Spans) :
    (withSuffix i stop groups).lookup n = groups.lookup n := by
  unfold withSuffix
  split
  · rfl
  · rw [List.lookup_cons, beq_false_of_ne hn]

/-- The parts of a method name are the groups of the pattern. -/
theorem captures_map_get? (method : String) :
    (namePattern.captures method.toList).map (fun groups => [1, 2, 3, 4].map groups.get?) =
      (parts? method.toList).map fun parts => [some parts.namePrefix.toList,
        some (parts.capital :: parts.rest), some [parts.capital], some parts.rest] := by
  rw [captures_namePattern, Option.map_map]
  cases hparts : parts? method.toList with
  | none => rfl
  | some parts =>
    obtain ⟨rest, hfollows, hcounted⟩ := parts?_eq_some_iff.1 hparts
    obtain ⟨tail, rfl⟩ := hcounted.exists_append
    have hlength : parts.namePrefix.toList.length + 1 + parts.rest.length -
        parts.namePrefix.toList.length = parts.rest.length + 1 := by omega
    simp [Parts.spans, Groups.get?, lookup_withSuffix, List.lookup_cons, hfollows.text, hlength]

/-! ## Readings -/

/-- The name of the member that the groups of a method name give. -/
def memberOfGroups? (role : AccessorRole) (groups : Groups) : Option (List Char) := do
  let rest ← groups.get? 2
  if role ≠ .factory ∧ rest.all fun c => !isLowercase c then
    some rest
  else
    let capital ← groups.get? 3
    some (capital.map Char.toLower ++ (groups.get? 4).getD [])

/-- Reads the name of a method with the given descriptor by its groups. -/
def ofGroups? (method : String) (value : Option String) (desc : MethodDescriptor)
    (groups : Groups) : Option AccessorName := do
  let p := String.ofList (← groups.get? 1)
  let role ← AccessorRole.ofPrefix? p
  if role.fits desc then
    let target ← match value with
      | some target => some target
      | none => (memberOfGroups? role groups).map String.ofList
    some ⟨role, method, target, p⟩
  else
    none

theorem ofMethod?_eq_bind_captures (method : String) (value : Option String)
    (desc : MethodDescriptor) :
    ofMethod? method value desc =
      (namePattern.captures method.toList).bind (ofGroups? method value desc) := by
  have hgroups := captures_map_get? method
  unfold ofMethod?
  cases hparts : parts? method.toList with
  | none =>
    rw [hparts] at hgroups
    rw [Option.map_eq_none_iff.1 hgroups]
    rfl
  | some parts =>
    rw [hparts] at hgroups
    obtain ⟨groups, hcaptures, hget⟩ := Option.map_eq_some_iff.1 hgroups
    simp only [List.map_cons, List.map_nil, List.cons.injEq, and_true] at hget
    obtain ⟨h1, h2, h3, h4⟩ := hget
    obtain ⟨rest, hfollows, -⟩ := parts?_eq_some_iff.1 hparts
    have hrole := AccessorRole.ofPrefix?_of_convention hfollows.convention
    have hmember : memberOfGroups? parts.role groups = some parts.member := by
      simp only [memberOfGroups?, Parts.member, h2, h3, h4, Option.bind_eq_bind, Option.bind_some]
      split <;> rfl
    rw [hcaptures]
    cases value <;> simp [ofGroups?, h1, hrole, hmember]

/-- A method name is read by the groups of the pattern. That gives a result just if the name follows
a convention whose role suits the descriptor, the result is then made of the parts of the name, and
an appended marker with anything after it changes nothing. -/
theorem reading_follows_pattern (method : String) (value : Option String)
    (desc : MethodDescriptor) :
    ofMethod? method value desc =
      (namePattern.captures method.toList).bind (ofGroups? method value desc) ∧
    ((ofMethod? method value desc).isSome ↔
      ∃ p role capital rest, Follows method p role capital rest ∧ role.Suits desc) ∧
    (∀ p role capital rest, Follows method p role capital rest → role.Suits desc →
      ∃ counted name, BeforeMarker rest counted ∧ NamesMember role capital counted name ∧
        ofMethod? method value desc =
          some ⟨role, method, value.getD (String.ofList name), p⟩) ∧
    ∀ s : String, '\n' ∉ s.toList →
      ofMethod? (method ++ "_$md" ++ s) value desc =
        (ofMethod? method value desc).map fun a => { a with method := method ++ "_$md" ++ s } := by
  refine ⟨ofMethod?_eq_bind_captures method value desc, ⟨fun h => ?_, ?_⟩,
    fun p role capital rest hfollows hsuits => ofMethod?_of_follows hfollows hsuits value,
    fun s hs => ofMethod?_append_marker method hs value desc⟩
  · obtain ⟨a, ha⟩ := Option.isSome_iff_exists.1 h
    obtain ⟨capital, rest, -, -, hfollows, hsuits, -⟩ := follows_of_ofMethod? ha
    exact ⟨_, _, _, _, hfollows, hsuits⟩
  · rintro ⟨p, role, capital, rest, hfollows, hsuits⟩
    obtain ⟨counted, name, -, -, h⟩ := ofMethod?_of_follows hfollows hsuits value
    rw [h]
    rfl

/-- A constant whose name ends in a `_`, with a suffix and with another one after it. -/
theorem reading_follows_pattern_constant :
    let desc : MethodDescriptor := ⟨[], .value (.base .int)⟩
    Follows "getMAX__$md$1" "get" .getter 'M' "AX__$md$1".toList ∧
      AccessorRole.getter.Suits desc ∧
      (namePattern.captures "getMAX__$md$1".toList).map (fun groups =>
        [1, 2, 3, 4, 5].map fun n => (groups.get? n).map String.ofList) =
          some [some "get", some "MAX_", some "M", some "AX_", some "_$md$1"] ∧
      ofMethod? "getMAX__$md$1" none desc = some ⟨.getter, "getMAX__$md$1", "MAX_", "get"⟩ ∧
      ofMethod? "getMAX__$md$1_$md" none desc =
        some ⟨.getter, "getMAX__$md$1_$md", "MAX_", "get"⟩ := by
  intro desc
  have hfollows : Follows "getMAX__$md$1" "get" .getter 'M' "AX__$md$1".toList :=
    ⟨by decide, .get, by decide, by decide⟩
  have hsuits : AccessorRole.getter.Suits desc := ⟨rfl, by simp [desc]⟩
  obtain ⟨-, -, hread, happend⟩ := reading_follows_pattern "getMAX__$md$1" none desc
  obtain ⟨counted, name, hcounted, hname, h⟩ := hread _ _ _ _ hfollows hsuits
  obtain rfl : "AX_".toList = counted :=
    (by decide : "AX_".toList = beforeMarker "AX__$md$1".toList).trans
      (beforeMarker_eq_iff.2 hcounted)
  have htarget : String.ofList name = "MAX_" := by
    cases hname with
    | capitals => decide
    | small hsmall =>
      have hlower := List.any_eq_true.2 (hsmall.resolve_left (by decide))
      exact absurd hlower (by decide)
  have hmarked : ofMethod? "getMAX__$md$1" none desc =
      some ⟨.getter, "getMAX__$md$1", "MAX_", "get"⟩ := by rw [h, ← htarget]; rfl
  refine ⟨hfollows, hsuits, by decide, hmarked, ?_⟩
  have hagain := happend "" (by decide)
  rw [hmarked] at hagain
  exact hagain

end AccessorName

end RangeIndex.Mixin
