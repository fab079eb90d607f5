import Mathlib.Data.List.Basic
import RangeIndex.Mixin.AccessorName

/-!
# Names that follow a convention

A method name follows a convention if it is a naming prefix, a capital, and anything on the same
line (`Follows`). It does so in one way only, since no naming prefix begins another one. Of what
comes after the capital, the part before the first marker names the member (`BeforeMarker`).

No marker can begin inside a name and end in another marker that is appended to the name, so what is
appended behind a marker never matters (`ofMethod?_append_marker`).

Capitalising a member name is undone by the reading of the method name where the name says whether
its first letter was small: `capitalised_member_recovered_iff`.
-/

namespace RangeIndex.Mixin

open RangeIndex.Text (afterChars?_eq_some_iff isLowercase)

/-- The naming prefixes, each with what it makes of a method. -/
inductive Convention : String → AccessorRole → Prop
  | get : Convention "get" .getter
  | is : Convention "is" .getter
  | set : Convention "set" .setter
  | call : Convention "call" .proxy
  | invoke : Convention "invoke" .proxy
  | new : Convention "new" .factory
  | create : Convention "create" .factory

/-- The descriptors that suit a role. -/
def AccessorRole.Suits : AccessorRole → MethodDescriptor → Prop
  | .getter, desc => desc.params = [] ∧ desc.result ≠ .void
  | .setter, desc => (∃ param, desc.params = [param]) ∧ desc.result = .void
  | .proxy, _ => True
  | .factory, _ => True

/-- The method name is the naming prefix `p` of the role, a capital, and `rest` on one line. -/
structure Follows (method p : String) (role : AccessorRole) (capital : Char) (rest : List Char) :
    Prop where
  text : method.toList = p.toList ++ capital :: rest
  convention : Convention p role
  upper : capital.isUpper
  line : '\n' ∉ rest

/-- The second text is the part of the first one before its first marker, or all of it if it has
none. -/
inductive BeforeMarker : List Char → List Char → Prop
  | all {rest : List Char} : ¬ AccessorName.marker <:+: rest → BeforeMarker rest rest
  | cut {rest counted tail : List Char} :
      rest = counted ++ AccessorName.marker ++ tail →
      (∀ counted' tail', rest = counted' ++ AccessorName.marker ++ tail' →
        counted.length ≤ counted'.length) →
      BeforeMarker rest counted

/-- The member that a capital and what counts after it name: a name in capitals stays as it is,
unless a type is constructed, and any other one starts with a small letter. -/
inductive NamesMember (role : AccessorRole) (capital : Char) (counted : List Char) :
    List Char → Prop
  | capitals : role ≠ .factory → (∀ c ∈ capital :: counted, ¬ isLowercase c) →
      NamesMember role capital counted (capital :: counted)
  | small : (role = .factory ∨ ∃ c ∈ capital :: counted, isLowercase c) →
      NamesMember role capital counted (capital.toLower :: counted)

theorem AccessorRole.fits_iff {role : AccessorRole} {desc : MethodDescriptor} :
    role.fits desc ↔ role.Suits desc := by
  cases role with
  | getter => simp [fits, Suits, MethodDescriptor.returnsVoid]
  | setter => simp [fits, Suits, MethodDescriptor.returnsVoid, List.length_eq_one_iff]
  | proxy => simp [fits, Suits]
  | factory => simp [fits, Suits]

theorem BeforeMarker.unique {rest counted counted' : List Char} (h : BeforeMarker rest counted)
    (h' : BeforeMarker rest counted') : counted = counted' := by
  cases h with
  | all hnone =>
    cases h' with
    | all => rfl
    | cut heq' => exact absurd ⟨_, _, heq'.symm⟩ hnone
  | cut heq hfirst =>
    cases h' with
    | all hnone' => exact absurd ⟨_, _, heq.symm⟩ hnone'
    | cut heq' hfirst' =>
      have hlength := Nat.le_antisymm (hfirst _ _ heq') (hfirst' _ _ heq)
      rw [heq, List.append_assoc, List.append_assoc] at heq'
      exact List.append_inj_left heq' hlength

theorem BeforeMarker.exists_append {rest counted : List Char} (h : BeforeMarker rest counted) :
    ∃ tail, rest = counted ++ tail := by
  cases h with
  | all => exact ⟨[], (List.append_nil _).symm⟩
  | cut heq => exact ⟨_, heq.trans (List.append_assoc _ _ _)⟩

namespace AccessorName

/-! ## Markers -/

theorem beforeMarker_cons_of_marker {c : Char} {rest : List Char} (h : marker <+: c :: rest) :
    beforeMarker (c :: rest) = [] := by
  rw [beforeMarker, if_pos (List.isPrefixOf_iff_prefix.2 h)]

theorem beforeMarker_cons_of_ne {c : Char} {rest : List Char} (h : ¬ marker <+: c :: rest) :
    beforeMarker (c :: rest) = c :: beforeMarker rest := by
  rw [beforeMarker, if_neg (mt List.isPrefixOf_iff_prefix.1 h)]

theorem beforeMarker_spec (rest : List Char) : BeforeMarker rest (beforeMarker rest) := by
  induction rest with
  | nil => exact .all (by simp [marker])
  | cons c rest ih =>
    by_cases h : marker <+: c :: rest
    · rw [beforeMarker_cons_of_marker h]
      obtain ⟨tail, htail⟩ := h
      exact .cut htail.symm fun _ _ _ => Nat.zero_le _
    · rw [beforeMarker_cons_of_ne h]
      generalize beforeMarker rest = counted at ih
      cases ih with
      | all hnone => exact .all fun hinfix => (List.infix_cons_iff.1 hinfix).elim h hnone
      | cut heq hfirst =>
        refine .cut (congrArg (c :: ·) heq) fun counted' tail' heq' => ?_
        -- With nothing before it, the marker would be the one that is not at the front.
        cases counted' with
        | nil => exact absurd ⟨tail', heq'.symm⟩ h
        | cons d counted' => exact Nat.succ_le_succ (hfirst counted' tail' (List.cons.inj heq').2)

theorem beforeMarker_eq_iff {rest counted : List Char} :
    beforeMarker rest = counted ↔ BeforeMarker rest counted := by
  constructor
  · rintro rfl
    exact beforeMarker_spec rest
  · exact (beforeMarker_spec rest).unique

/-- A marker that is appended makes no other marker with what it is appended to: none of its
characters but the first one is `_`. -/
theorem marker_prefix_append {cs : List Char} (hne : cs ≠ []) (s : List Char) :
    marker <+: cs ++ (marker ++ s) ↔ marker <+: cs := by
  refine ⟨fun h => ?_, fun h => h.trans (List.prefix_append _ _)⟩
  rcases cs with _ | ⟨a, _ | ⟨b, _ | ⟨c, _ | ⟨d, cs⟩⟩⟩⟩
  · exact absurd rfl hne
  · simp [marker] at h
  · simp [marker] at h
  · simp [marker] at h
  · simpa [marker] using h

theorem beforeMarker_append_marker (rest s : List Char) :
    beforeMarker (rest ++ (marker ++ s)) = beforeMarker rest := by
  induction rest with
  | nil => exact beforeMarker_cons_of_marker (List.prefix_append marker s)
  | cons c rest ih =>
    have hiff := marker_prefix_append (List.cons_ne_nil c rest) s
    by_cases h : marker <+: c :: rest
    · rw [beforeMarker_cons_of_marker h]
      exact beforeMarker_cons_of_marker (hiff.2 h)
    · rw [beforeMarker_cons_of_ne h, ← ih]
      exact beforeMarker_cons_of_ne (mt hiff.1 h)

/-! ## Names -/

theorem mem_conventions_iff {p : String} {role : AccessorRole} :
    (p, role) ∈ conventions ↔ Convention p role := by
  constructor
  · intro h
    simp only [conventions, AccessorRole.all, AccessorRole.prefixes, List.flatMap_cons,
      List.flatMap_nil, List.map_cons, List.map_nil, List.cons_append, List.nil_append,
      List.mem_cons, List.not_mem_nil, Prod.mk.injEq, or_false] at h
    rcases h with ⟨rfl, rfl⟩ | ⟨rfl, rfl⟩ | ⟨rfl, rfl⟩ | ⟨rfl, rfl⟩ | ⟨rfl, rfl⟩ | ⟨rfl, rfl⟩ |
      ⟨rfl, rfl⟩
    · exact .get
    · exact .is
    · exact .set
    · exact .call
    · exact .invoke
    · exact .new
    · exact .create
  · rintro (_ | _) <;> decide

theorem conventions_prefix_free :
    ∀ a ∈ conventions, ∀ b ∈ conventions, a.1.toList <+: b.1.toList → a = b := by
  decide

theorem partsWith?_eq_some_iff {method : List Char} {p : String} {role : AccessorRole}
    {parts : Parts} :
    partsWith? method (p, role) = some parts ↔
      ∃ capital rest, method = p.toList ++ capital :: rest ∧ capital.isUpper ∧ '\n' ∉ rest ∧
        parts = ⟨p, role, capital, beforeMarker rest⟩ := by
  constructor
  · intro h
    unfold partsWith? at h
    split at h
    · rename_i capital rest hafter
      split_ifs at h with hline
      obtain ⟨hupper, hline⟩ : capital.isUpper ∧ '\n' ∉ rest := by simpa using hline
      cases h
      exact ⟨capital, rest, afterChars?_eq_some_iff.1 hafter, hupper, hline, rfl⟩
    · cases h
  · rintro ⟨capital, rest, hmethod, hupper, hline, rfl⟩
    have hafter := afterChars?_eq_some_iff.2 hmethod
    simp [partsWith?, hafter, hupper, hline]

/-- A method name follows one convention at most. -/
theorem parts?_eq_some_iff {method : String} {parts : Parts} :
    parts? method.toList = some parts ↔
      ∃ rest, Follows method parts.namePrefix parts.role parts.capital rest ∧
        BeforeMarker rest parts.rest := by
  constructor
  · intro h
    obtain ⟨⟨p, role⟩, hmem, hparts⟩ := List.exists_of_findSome?_eq_some h
    obtain ⟨capital, rest, htext, hupper, hline, rfl⟩ := partsWith?_eq_some_iff.1 hparts
    exact ⟨rest, ⟨htext, mem_conventions_iff.1 hmem, hupper, hline⟩, beforeMarker_spec rest⟩
  · obtain ⟨p, role, capital, counted⟩ := parts
    rintro ⟨rest, hfollows, hcounted⟩
    have hmem := mem_conventions_iff.2 hfollows.convention
    have hwith : partsWith? method.toList (p, role) = some ⟨p, role, capital, counted⟩ :=
      partsWith?_eq_some_iff.2 ⟨capital, rest, hfollows.text, hfollows.upper, hfollows.line, by
        rw [beforeMarker_eq_iff.2 hcounted]⟩
    have hsome : (parts? method.toList).isSome :=
      List.findSome?_isSome_iff.2 ⟨(p, role), hmem, by rw [hwith]; rfl⟩
    obtain ⟨parts, hparts⟩ := Option.isSome_iff_exists.1 hsome
    -- The convention that is found first begins the same name, so it is this one.
    obtain ⟨⟨q, role'⟩, hmem', hparts'⟩ := List.exists_of_findSome?_eq_some hparts
    obtain ⟨capital', rest', htext', -⟩ := partsWith?_eq_some_iff.1 hparts'
    have hsame : (q, role') = (p, role) := by
      have hp : p.toList <+: method.toList := ⟨_, hfollows.text.symm⟩
      have hq : q.toList <+: method.toList := ⟨_, htext'.symm⟩
      rcases List.prefix_or_prefix_of_prefix hq hp with hqp | hpq
      · exact conventions_prefix_free _ hmem' _ hmem hqp
      · exact (conventions_prefix_free _ hmem _ hmem' hpq).symm
    rw [hsame, hwith] at hparts'
    exact hparts.trans hparts'.symm

theorem namesMember_member (parts : Parts) :
    NamesMember parts.role parts.capital parts.rest parts.member := by
  unfold Parts.member
  split_ifs with h
  · exact .capitals h.1 (by simpa using h.2)
  · refine .small (or_iff_not_imp_left.2 fun hrole => ?_)
    by_contra! hnone
    exact h ⟨hrole, by simpa using hnone⟩

theorem ofMethod?_eq_some_iff {method : String} {value : Option String} {desc : MethodDescriptor}
    {a : AccessorName} :
    ofMethod? method value desc = some a ↔
      ∃ parts, parts? method.toList = some parts ∧ parts.role.Suits desc ∧
        a = ⟨parts.role, method, value.getD (String.ofList parts.member), parts.namePrefix⟩ := by
  rw [ofMethod?, Option.bind_eq_bind, Option.bind_eq_some_iff]
  refine exists_congr fun parts => and_congr_right fun _ => ?_
  simp only [← AccessorRole.fits_iff]
  split_ifs with h
  · simp [h, eq_comm]
  · simp [h]

theorem ofMethod?_of_follows {method p : String} {role : AccessorRole} {capital : Char}
    {rest : List Char} {desc : MethodDescriptor} (hfollows : Follows method p role capital rest)
    (hsuits : role.Suits desc) (value : Option String) :
    ∃ counted name, BeforeMarker rest counted ∧ NamesMember role capital counted name ∧
      ofMethod? method value desc = some ⟨role, method, value.getD (String.ofList name), p⟩ := by
  have hcounted := beforeMarker_spec rest
  have hparts : parts? method.toList = some ⟨p, role, capital, beforeMarker rest⟩ :=
    parts?_eq_some_iff.2 ⟨rest, hfollows, hcounted⟩
  exact ⟨_, _, hcounted, namesMember_member ⟨p, role, capital, beforeMarker rest⟩,
    ofMethod?_eq_some_iff.2 ⟨_, hparts, hsuits, rfl⟩⟩

theorem follows_of_ofMethod? {method : String} {value : Option String} {desc : MethodDescriptor}
    {a : AccessorName} (h : ofMethod? method value desc = some a) :
    ∃ capital rest counted name, Follows method a.namePrefix a.role capital rest ∧
      a.role.Suits desc ∧ BeforeMarker rest counted ∧ NamesMember a.role capital counted name ∧
      a.target = value.getD (String.ofList name) := by
  obtain ⟨parts, hparts, hsuits, rfl⟩ := ofMethod?_eq_some_iff.1 h
  obtain ⟨rest, hfollows, hcounted⟩ := parts?_eq_some_iff.1 hparts
  exact ⟨_, _, _, _, hfollows, hsuits, hcounted, namesMember_member parts, rfl⟩

/-! ## Appended markers -/

theorem partsWith?_append_marker (method : List Char) {s : List Char} (hs : '\n' ∉ s) {p : String}
    {role : AccessorRole} (hp : Convention p role) :
    partsWith? (method ++ (marker ++ s)) (p, role) = partsWith? method (p, role) := by
  refine Option.ext fun parts => ?_
  rw [partsWith?_eq_some_iff, partsWith?_eq_some_iff]
  constructor
  · rintro ⟨capital, rest, htext, hupper, hline, rfl⟩
    -- No naming prefix has a `_`, so the marker begins after the capital.
    have hmarker : '_' ∉ p.toList ++ [capital] := by
      have hcapital : '_' ≠ capital := by
        rintro rfl
        exact absurd hupper (by decide)
      have hfree : '_' ∉ p.toList := by cases hp <;> decide
      simp [hfree, hcapital]
    have htext' : p.toList ++ [capital] ++ rest = method ++ (marker ++ s) := by simp [htext]
    obtain ⟨rest', rfl, rfl⟩ : ∃ rest', method = p.toList ++ [capital] ++ rest' ∧
        rest = rest' ++ (marker ++ s) := by
      rcases List.append_eq_append_iff.1 htext' with h | ⟨_ | ⟨c, cs⟩, hmethod, hrest⟩
      · exact h
      · exact ⟨[], by simpa using hmethod.symm, by simpa using hrest.symm⟩
      · obtain rfl : '_' = c := (List.cons.inj hrest).1
        exact absurd (by simp [hmethod]) hmarker
    refine ⟨capital, rest', by simp, hupper, fun h => hline (List.mem_append_left _ h), ?_⟩
    rw [beforeMarker_append_marker]
  · rintro ⟨capital, rest, rfl, hupper, hline, rfl⟩
    refine ⟨capital, rest ++ (marker ++ s), by simp, hupper, ?_, ?_⟩
    · have hmarker : '\n' ∉ marker := by decide
      simp [hline, hs, hmarker]
    · rw [beforeMarker_append_marker]

theorem ofMethod?_append_marker (method : String) {s : String} (hs : '\n' ∉ s.toList)
    (value : Option String) (desc : MethodDescriptor) :
    ofMethod? (method ++ "_$md" ++ s) value desc =
      (ofMethod? method value desc).map fun a => { a with method := method ++ "_$md" ++ s } := by
  have htext : (method ++ "_$md" ++ s).toList = method.toList ++ (marker ++ s.toList) := by
    simp [marker]
  have hparts : parts? (method ++ "_$md" ++ s).toList = parts? method.toList := by
    rw [htext, parts?, parts?, ← List.head?_filterMap, ← List.head?_filterMap]
    refine congrArg List.head? (List.filterMap_congr fun (p, role) hmem => ?_)
    exact partsWith?_append_marker method.toList hs (mem_conventions_iff.1 hmem)
  unfold ofMethod?
  rw [hparts]
  cases parts? method.toList with
  | none => rfl
  | some parts =>
    simp only [Option.bind_eq_bind, Option.bind_some]
    split_ifs <;> rfl

/-! ## Capitalised member names -/

theorem not_isLowercase_of_isUpper {c : Char} (h : c.isUpper) : ¬ isLowercase c := by
  have hsmall : c.toNat < 0x61 := Nat.lt_of_le_of_lt (of_decide_eq_true h).2 (by decide)
  -- The lowercase characters are listed in order, from `a` on.
  have hrange : isLowercase c = false := if_pos hsmall
  simp [hrange]

theorem case_of_isAlpha {c : Char} (h : c.isAlpha) :
    c.toUpper.isUpper ∧ (c.toUpper = c ↔ c.isUpper) ∧ (c.toUpper.toLower = c ↔ c.isLower) := by
  have hascii : ∀ n < 128, (Char.ofNat n).isAlpha →
      (Char.ofNat n).toUpper.isUpper ∧
        ((Char.ofNat n).toUpper = Char.ofNat n ↔ (Char.ofNat n).isUpper) ∧
        ((Char.ofNat n).toUpper.toLower = Char.ofNat n ↔ (Char.ofNat n).isLower) := by
    decide +kernel
  have hlt : c.toNat < 128 := by
    rcases Bool.or_eq_true_iff.1 h with hupper | hlower
    · exact Nat.lt_of_le_of_lt (of_decide_eq_true hupper).2 (by decide)
    · exact Nat.lt_of_le_of_lt (of_decide_eq_true (Bool.and_eq_true_iff.1 hlower).2) (by decide)
  have hcase := hascii c.toNat hlt
  rw [Char.ofNat_toNat] at hcase
  exact hcase h

/-- A member name, capitalised behind a naming prefix that constructs nothing, is read back just if
its first letter is small and some other one is, or the name has no small letters. -/
theorem capitalised_member_recovered_iff {first : Char} {others : List Char}
    (hfirst : first.isAlpha) (hline : '\n' ∉ first :: others)
    (hmarker : ¬ marker <:+: first :: others) {p : String} {role : AccessorRole}
    (hp : Convention p role) (hrole : role ≠ .factory) {desc : MethodDescriptor}
    (hsuits : role.Suits desc) :
    ∃ a, ofMethod? (p ++ String.ofList (first.toUpper :: others)) none desc = some a ∧
      (a.target = String.ofList (first :: others) ↔
        (first.isLower ∧ ∃ c ∈ others, isLowercase c) ∨
        (first.isUpper ∧ ∀ c ∈ first :: others, ¬ isLowercase c)) := by
  obtain ⟨hupper, hcapital, hsmall⟩ := case_of_isAlpha hfirst
  have hfollows : Follows (p ++ String.ofList (first.toUpper :: others)) p role first.toUpper
      others :=
    ⟨by simp, hp, hupper, fun h => hline (List.mem_cons_of_mem _ h)⟩
  have hcounted : BeforeMarker others others :=
    .all fun h => hmarker (List.infix_cons_iff.2 (.inr h))
  have hparts : parts? (p ++ String.ofList (first.toUpper :: others)).toList =
      some ⟨p, role, first.toUpper, others⟩ := parts?_eq_some_iff.2 ⟨others, hfollows, hcounted⟩
  refine ⟨_, ofMethod?_eq_some_iff.2 ⟨_, hparts, hsuits, rfl⟩, ?_⟩
  have hmember := namesMember_member ⟨p, role, first.toUpper, others⟩
  generalize Parts.member ⟨p, role, first.toUpper, others⟩ = name at hmember ⊢
  rw [Option.getD_none, String.ofList_inj]
  cases hmember with
  | capitals _ hnone =>
    obtain ⟨-, hothers⟩ := List.forall_mem_cons.1 hnone
    simp only [List.cons.injEq, and_true, hcapital]
    constructor
    · intro h
      exact .inr ⟨h, List.forall_mem_cons.2 ⟨not_isLowercase_of_isUpper h, hothers⟩⟩
    · rintro (⟨-, c, hc, hlower⟩ | ⟨h, -⟩)
      · exact absurd hlower (hothers c hc)
      · exact h
  | small hsome =>
    -- The capital itself is not lowercase, so another character is.
    obtain ⟨c, hc, hlower⟩ : ∃ c ∈ others, isLowercase c := by
      obtain ⟨c, hc, hlower⟩ := hsome.resolve_left hrole
      rcases List.mem_cons.1 hc with rfl | hc
      · exact absurd hlower (not_isLowercase_of_isUpper hupper)
      · exact ⟨c, hc, hlower⟩
    simp only [List.cons.injEq, and_true, hsmall]
    constructor
    · intro h
      exact .inl ⟨h, c, hc, hlower⟩
    · rintro (⟨h, -⟩ | ⟨-, hnone⟩)
      · exact h
      · exact absurd hlower (hnone c (List.mem_cons_of_mem _ hc))

/-- A name whose only other small letter has an accent is read back, and a single small letter is
not. -/
theorem capitalised_member_recovered_iff_letters :
    let desc : MethodDescriptor := ⟨[], .value (.base .boolean)⟩
    (∃ a, ofMethod? "isFINé" none desc = some a ∧ a.target = "fINé") ∧
      ∃ a, ofMethod? "isX" none desc = some a ∧ a.target ≠ "x" := by
  intro desc
  have hsuits : AccessorRole.getter.Suits desc := ⟨rfl, by simp [desc]⟩
  constructor
  · have hname : ¬ marker <:+: ['f', 'I', 'N', 'é'] := by decide
    obtain ⟨a, ha, hiff⟩ := capitalised_member_recovered_iff (by decide) (by decide) hname .is
      (by decide) hsuits
    exact ⟨a, ha, hiff.2 (.inl ⟨by decide, 'é', by simp, by decide⟩)⟩
  · have hname : ¬ marker <:+: ['x'] := by decide
    obtain ⟨a, ha, hiff⟩ := capitalised_member_recovered_iff (by decide) (by decide) hname .is
      (by decide) hsuits
    have hnot : ¬ Char.isUpper 'x' := by decide
    exact ⟨a, ha, fun h => by simpa [hnot] using hiff.1 h⟩

end AccessorName

end RangeIndex.Mixin
