import RangeIndex.Mixin.Descriptor

/-!
# The grammar of descriptors

`IsFieldType` and `IsDescriptor` are the grammar of field types and method descriptors, by their
characters alone. `MethodDescriptor.parse?` accepts just the texts of the grammar, and it gives back
the texts of their parts (`parse?_eq_some_iff`).

A field type says itself where it ends, so reading one off the front of a text undoes writing it,
whatever follows (`FieldType.parse?_eq_some_iff`). That is why a text can be taken apart in one way
only. The parameters of a descriptor end at its first closing parenthesis, so none may have one in a
class name; the return type may.
-/

namespace RangeIndex.Mixin

/-- The texts that are field types. -/
inductive IsFieldType : List Char → Prop
  | base {c : Char} : c ∈ ['B', 'C', 'D', 'F', 'I', 'J', 'S', 'Z'] → IsFieldType [c]
  | object {name : List Char} : name ≠ [] → ';' ∉ name → IsFieldType ('L' :: (name ++ [';']))
  | array {element : List Char} : IsFieldType element → IsFieldType ('[' :: element)

/-- A text taken apart as a method descriptor. -/
structure IsDescriptor (text : String) (params : List String) (result : String) : Prop where
  text_eq : text = "(" ++ String.join params ++ ")" ++ result
  params_types : ∀ p ∈ params, IsFieldType p.toList ∧ ')' ∉ p.toList
  result_type : IsFieldType result.toList ∨ result = "V"

/-! ## The first separator -/

theorem until_append {c : Char} {before : List Char} (h : c ∉ before) (after : List Char) :
    (before ++ c :: after).takeWhile (· != c) = before ∧
      (before ++ c :: after).dropWhile (· != c) = c :: after := by
  have hbefore : ∀ a ∈ before, (a != c) = true := by
    intro a ha
    simpa using fun hac : a = c => h (hac ▸ ha)
  rw [List.takeWhile_append_of_pos hbefore, List.dropWhile_append_of_pos hbefore]
  simp

theorem append_of_dropWhile {c d : Char} {cs after : List Char}
    (h : cs.dropWhile (· != c) = d :: after) :
    cs = cs.takeWhile (· != c) ++ c :: after ∧ c ∉ cs.takeWhile (· != c) := by
  have hd : d = c := by
    have hhead := List.head?_dropWhile_not (· != c) cs
    simpa [h] using hhead
  refine ⟨?_, fun hc => ?_⟩
  · rw [← hd, ← h, hd, List.takeWhile_append_dropWhile]
  · have hall := List.all_eq_true.1 (List.all_takeWhile (p := (· != c)) (l := cs)) c hc
    simp at hall

/-! ## Field types -/

theorem BaseType.ofCode?_eq_some_iff {c : Char} {b : BaseType} :
    ofCode? c = some b ↔ c = b.code := by
  constructor
  · intro h
    unfold ofCode? at h
    split at h <;> cases h <;> rfl
  · rintro rfl
    cases b <;> rfl

theorem BaseType.mem_codes_iff {c : Char} :
    c ∈ ['B', 'C', 'D', 'F', 'I', 'J', 'S', 'Z'] ↔ ∃ b : BaseType, c = b.code := by
  constructor
  · intro h
    obtain ⟨b, hb⟩ : ∃ b, ofCode? c = some b := by
      simp only [List.mem_cons, List.not_mem_nil, or_false] at h
      rcases h with rfl | rfl | rfl | rfl | rfl | rfl | rfl | rfl <;> exact ⟨_, rfl⟩
    exact ⟨b, ofCode?_eq_some_iff.1 hb⟩
  · rintro ⟨b, rfl⟩
    cases b <;> decide

namespace FieldType

theorem isFieldType_object_iff {name : List Char} :
    IsFieldType (object name).render ↔ name ≠ [] ∧ ';' ∉ name := by
  constructor
  · intro h
    generalize htext : (object name).render = text at h
    cases h with
    | base hc => simp [render] at htext
    | object hne hname =>
      obtain rfl : name = _ := by simpa [render] using htext
      exact ⟨hne, hname⟩
    | array helement => simp [render] at htext
  · rintro ⟨hne, hname⟩
    exact .object hne hname

theorem isFieldType_array_iff {element : FieldType} :
    IsFieldType (array element).render ↔ IsFieldType element.render := by
  constructor
  · intro h
    generalize htext : (array element).render = text at h
    cases h with
    | base hc =>
      obtain ⟨rfl, -⟩ : '[' = _ ∧ element.render = [] := by simpa [render] using htext
      simp at hc
    | object hne hname => simp [render] at htext
    | array helement =>
      obtain rfl : element.render = _ := by simpa [render] using htext
      exact helement
  · exact .array

theorem exists_render {text : List Char} (h : IsFieldType text) :
    ∃ t : FieldType, t.render = text := by
  induction h with
  | base hc =>
    obtain ⟨b, rfl⟩ := BaseType.mem_codes_iff.1 hc
    exact ⟨.base b, rfl⟩
  | @object name hne hname => exact ⟨.object name, rfl⟩
  | array helement ih =>
    obtain ⟨t, rfl⟩ := ih
    exact ⟨.array t, rfl⟩

theorem exists_displays : ∀ {texts : List String}, (∀ text ∈ texts, IsFieldType text.toList) →
    ∃ ts : List FieldType, ts.map display = texts
  | [], _ => ⟨[], rfl⟩
  | text :: texts, h => by
    obtain ⟨htext, htexts⟩ := List.forall_mem_cons.1 h
    obtain ⟨t, ht⟩ := exists_render htext
    obtain ⟨ts, hts⟩ := exists_displays htexts
    exact ⟨t :: ts, by rw [List.map_cons, hts, display, ht, String.ofList_toList]⟩

theorem parse?_append {t : FieldType} (h : IsFieldType t.render) (rest : List Char) :
    parse? (t.render ++ rest) = some (t, rest) := by
  induction t with
  | base b => cases b <;> rfl
  | object name =>
    -- The name has no `;`, so the one that is written after it is the first.
    obtain ⟨hne, hname⟩ := isFieldType_object_iff.1 h
    obtain ⟨htake, hdrop⟩ := until_append hname rest
    have htext : (object name).render ++ rest = 'L' :: (name ++ ';' :: rest) := by simp [render]
    rw [htext, parse?, hdrop]
    simp [htake, hne]
  | array element ih =>
    rw [render, List.cons_append, parse?, ih (isFieldType_array_iff.1 h)]
    rfl

theorem render_of_parse? {cs rest : List Char} {t : FieldType} (h : parse? cs = some (t, rest)) :
    cs = t.render ++ rest ∧ IsFieldType t.render := by
  fun_induction parse? cs generalizing t rest with
  | case1 => cases h
  | case2 cs ih =>
    obtain ⟨⟨element, after⟩, helement, heq⟩ := Option.map_eq_some_iff.1 h
    cases heq
    obtain ⟨rfl, htype⟩ := ih helement
    exact ⟨rfl, .array htype⟩
  | case3 => cases h
  | case4 => cases h
  | case5 cs c tail hdrop name =>
    rename_i hname
    cases h
    obtain ⟨htext, hmem⟩ := append_of_dropWhile hdrop
    refine ⟨?_, .object (by simpa using hname) hmem⟩
    simp only [render, List.cons_append, List.append_assoc, List.nil_append]
    rw [← htext]
  | case6 c cs hbracket hobject =>
    obtain ⟨b, hb, heq⟩ := Option.map_eq_some_iff.1 h
    cases heq
    have hcode := BaseType.ofCode?_eq_some_iff.1 hb
    refine ⟨by rw [hcode]; rfl, .base ?_⟩
    exact BaseType.mem_codes_iff.2 ⟨b, rfl⟩

/-- Reading a field type off the front of a text is undoing its writing. -/
theorem parse?_eq_some_iff {cs rest : List Char} {t : FieldType} :
    parse? cs = some (t, rest) ↔ cs = t.render ++ rest ∧ IsFieldType t.render := by
  refine ⟨render_of_parse?, ?_⟩
  rintro ⟨rfl, htype⟩
  exact parse?_append htype rest

theorem toList_display (t : FieldType) : t.display.toList = t.render := String.toList_ofList

theorem render_ne_void (t : FieldType) : t.render ≠ ['V'] := by
  cases t with
  | base b => cases b <;> decide
  | object name => simp [render]
  | array element => simp [render]

theorem parseAll?_nil : parseAll? [] = some [] := by
  rw [parseAll?, if_pos List.isEmpty_nil]

theorem parseAll?_of_ne_nil {cs : List Char} (h : cs ≠ []) :
    parseAll? cs = (parse? cs).bind fun r => (parseAll? r.2).map (r.1 :: ·) := by
  rw [parseAll?, if_neg (by simpa using h)]
  split <;> rename_i hparse <;> rw [hparse] <;> rfl

theorem parseAll?_eq_nil_iff {cs : List Char} : parseAll? cs = some [] ↔ cs = [] := by
  by_cases h : cs = []
  · simp [h, parseAll?_nil]
  · simp [h, parseAll?_of_ne_nil h, Option.bind_eq_some_iff]

theorem parseAll?_eq_cons_iff {cs : List Char} {t : FieldType} {ts : List FieldType} :
    parseAll? cs = some (t :: ts) ↔
      ∃ rest, parse? cs = some (t, rest) ∧ parseAll? rest = some ts := by
  by_cases h : cs = []
  · simp [h, parseAll?_nil, parse?]
  · rw [parseAll?_of_ne_nil h, Option.bind_eq_some_iff]
    constructor
    · rintro ⟨⟨u, rest⟩, hparse, hall⟩
      obtain ⟨us, hus, heq⟩ := Option.map_eq_some_iff.1 hall
      cases heq
      exact ⟨rest, hparse, hus⟩
    · rintro ⟨rest, hparse, hall⟩
      exact ⟨(t, rest), hparse, by simp [hall]⟩

theorem parseAll?_eq_some_iff {cs : List Char} {ts : List FieldType} :
    parseAll? cs = some ts ↔ cs = ts.flatMap render ∧ ∀ t ∈ ts, IsFieldType t.render := by
  induction ts generalizing cs with
  | nil => simp [parseAll?_eq_nil_iff]
  | cons t ts ih =>
    simp only [parseAll?_eq_cons_iff, parse?_eq_some_iff, ih, List.flatMap_cons,
      List.forall_mem_cons]
    constructor
    · rintro ⟨rest, ⟨rfl, ht⟩, rfl, hts⟩
      exact ⟨rfl, ht, hts⟩
    · rintro ⟨rfl, ht, hts⟩
      exact ⟨_, ⟨rfl, ht⟩, rfl, hts⟩

end FieldType

/-! ## Method descriptors -/

theorem ReturnType.parse?_eq_some_iff {cs : List Char} {r : ReturnType} :
    parse? cs = some r ↔ cs = r.render ∧ (IsFieldType r.render ∨ r.render = ['V']) := by
  constructor
  · intro h
    unfold parse? at h
    split at h
    · cases h
      exact ⟨rfl, .inr rfl⟩
    · split at h
      · rename_i t hparse
        cases h
        obtain ⟨htext, htype⟩ := FieldType.parse?_eq_some_iff.1 hparse
        rw [List.append_nil] at htext
        exact ⟨htext, .inl htype⟩
      · cases h
  · rintro ⟨rfl, htype⟩
    cases r with
    | void => rfl
    | value t =>
      -- `V` is tried first, and no field type is written like it.
      have hvoid := t.render_ne_void
      have hparse := FieldType.parse?_append (htype.resolve_right hvoid) []
      rw [List.append_nil] at hparse
      simp only [render] at hparse ⊢
      unfold parse?
      split
      · contradiction
      · rw [hparse]

namespace MethodDescriptor

theorem parseChars?_eq_some_iff {cs : List Char} {m : MethodDescriptor} :
    parseChars? cs = some m ↔ cs = m.render ∧
      (∀ t ∈ m.params, IsFieldType t.render ∧ ')' ∉ t.render) ∧
      (IsFieldType m.result.render ∨ m.result.render = ['V']) := by
  constructor
  · intro h
    unfold parseChars? at h
    split at h
    · rename_i rest
      split at h
      · cases h
      · rename_i c after hdrop
        obtain ⟨params, hparams, h⟩ := Option.bind_eq_some_iff.1 h
        obtain ⟨result, hresult, h⟩ := Option.bind_eq_some_iff.1 h
        cases h
        obtain ⟨htext, hclose⟩ := append_of_dropWhile hdrop
        obtain ⟨hflat, htypes⟩ := FieldType.parseAll?_eq_some_iff.1 hparams
        obtain ⟨rfl, htype⟩ := ReturnType.parse?_eq_some_iff.1 hresult
        rw [hflat] at htext hclose
        refine ⟨by rw [htext]; rfl, fun t ht => ⟨htypes t ht, fun hmem => ?_⟩, htype⟩
        exact hclose (List.mem_flatMap.2 ⟨t, ht, hmem⟩)
    · cases h
  · rintro ⟨rfl, hparams, htype⟩
    have hclose : ')' ∉ m.params.flatMap FieldType.render := by
      intro hmem
      obtain ⟨t, ht, hmem⟩ := List.mem_flatMap.1 hmem
      exact (hparams t ht).2 hmem
    obtain ⟨htake, hdrop⟩ := until_append hclose m.result.render
    have hall : FieldType.parseAll? (m.params.flatMap FieldType.render) = some m.params :=
      FieldType.parseAll?_eq_some_iff.2 ⟨rfl, fun t ht => (hparams t ht).1⟩
    have hresult : ReturnType.parse? m.result.render = some m.result :=
      ReturnType.parse?_eq_some_iff.2 ⟨rfl, htype⟩
    rw [render, parseChars?, hdrop]
    simp [htake, hall, hresult]

theorem display_eq (m : MethodDescriptor) :
    m.display = "(" ++ String.join (m.params.map FieldType.display) ++ ")" ++ m.result.display := by
  rw [← String.toList_inj]
  simp [display, render, FieldType.display, ReturnType.display, String.toList_join,
    List.flatMap_map]

theorem parse?_eq_some_iff {text : String} {m : MethodDescriptor} :
    parse? text = some m ↔
      IsDescriptor text (m.params.map FieldType.display) m.result.display := by
  have htext : text.toList = m.render ↔ text = m.display := by
    rw [display, ← String.toList_inj, String.toList_ofList]
  have hresult : IsFieldType m.result.display.toList ∨ m.result.display = "V" ↔
      IsFieldType m.result.render ∨ m.result.render = ['V'] := by
    rw [ReturnType.display, ← String.toList_inj, String.toList_ofList]
    rfl
  rw [parse?, parseChars?_eq_some_iff, htext, display_eq, ← hresult]
  simp only [← FieldType.toList_display]
  constructor
  · rintro ⟨heq, hparams, htype⟩
    exact ⟨heq, List.forall_mem_map.2 hparams, htype⟩
  · rintro ⟨heq, hparams, htype⟩
    exact ⟨heq, List.forall_mem_map.1 hparams, htype⟩

theorem isDescriptor_iff {text : String} {params : List String} {result : String} :
    IsDescriptor text params result ↔
      ∃ m, parse? text = some m ∧ m.params.map FieldType.display = params ∧
        m.result.display = result := by
  constructor
  · intro h
    obtain ⟨ts, rfl⟩ := FieldType.exists_displays fun p hp => (h.params_types p hp).1
    obtain ⟨r, rfl⟩ : ∃ r : ReturnType, r.display = result := by
      rcases h.result_type with htype | rfl
      · obtain ⟨t, ht⟩ := FieldType.exists_render htype
        exact ⟨.value t, by rw [ReturnType.display, ReturnType.render, ht, String.ofList_toList]⟩
      · exact ⟨.void, rfl⟩
    exact ⟨⟨ts, r⟩, parse?_eq_some_iff.2 h, rfl, rfl⟩
  · rintro ⟨m, hparse, rfl, rfl⟩
    exact parse?_eq_some_iff.1 hparse

theorem display_of_parse? {text : String} {m : MethodDescriptor} (h : parse? text = some m) :
    m.display = text := by
  rw [display_eq, (parse?_eq_some_iff.1 h).text_eq]

/-- Parameters that can be read are read again with any return type. -/
theorem parse?_withVoidReturn {text : String} {m : MethodDescriptor} (h : parse? text = some m) :
    parse? m.withVoidReturn.display = some m.withVoidReturn := by
  refine parse?_eq_some_iff.2 ⟨m.withVoidReturn.display_eq, ?_, .inr rfl⟩
  exact (parse?_eq_some_iff.1 h).params_types

/-- A text is read as a method descriptor just if it is one: its parts are what is read, it has no
others, and it is what is displayed again. The same parameters with no return value are displayed as
a text that is read as these parameters with no return value. -/
theorem parse_decides_descriptors (text : String) :
    (∀ m, parse? text = some m ↔
      IsDescriptor text (m.params.map FieldType.display) m.result.display) ∧
    (∀ params result, IsDescriptor text params result ↔
      ∃ m, parse? text = some m ∧ m.params.map FieldType.display = params ∧
        m.result.display = result) ∧
    (∀ params result params' result', IsDescriptor text params result →
      IsDescriptor text params' result' → params = params' ∧ result = result') ∧
    ∀ m, parse? text = some m → m.display = text ∧
      parse? m.withVoidReturn.display = some m.withVoidReturn ∧
      m.withVoidReturn.params = m.params ∧ m.withVoidReturn.returnsVoid := by
  refine ⟨fun m => parse?_eq_some_iff, fun params result => isDescriptor_iff, ?_, ?_⟩
  · intro params result params' result' h h'
    obtain ⟨m, hm, rfl, rfl⟩ := isDescriptor_iff.1 h
    obtain ⟨m', hm', rfl, rfl⟩ := isDescriptor_iff.1 h'
    obtain rfl : m = m' := Option.some.inj (hm.symm.trans hm')
    exact ⟨rfl, rfl⟩
  · intro m hm
    exact ⟨display_of_parse? hm, parse?_withVoidReturn hm, rfl, rfl⟩

theorem parse_decides_descriptors_awkward :
    IsDescriptor "([La(b[;I)La)b;" ["[La(b[;", "I"] "La)b;" ∧
    ∃ m, parse? "([La(b[;I)La)b;" = some m ∧ m.params.map FieldType.display = ["[La(b[;", "I"] ∧
      m.result.display = "La)b;" ∧ m.withVoidReturn.display = "([La(b[;I)V" ∧
      parse? "([La(b[;I)V" = some m.withVoidReturn := by
  have hd : IsDescriptor "([La(b[;I)La)b;" ["[La(b[;", "I"] "La)b;" := by
    have hparam : IsFieldType ['[', 'L', 'a', '(', 'b', '[', ';'] :=
      .array (@IsFieldType.object ['a', '(', 'b', '['] (by simp) (by simp))
    have hresult : IsFieldType ['L', 'a', ')', 'b', ';'] :=
      @IsFieldType.object ['a', ')', 'b'] (by simp) (by simp)
    have hint : IsFieldType ['I'] := .base (by simp)
    exact ⟨by decide, by simp [hparam, hint], .inl (by simpa using hresult)⟩
  obtain ⟨-, hiff, -, hagain⟩ := parse_decides_descriptors "([La(b[;I)La)b;"
  obtain ⟨m, hm, hparams, hresult⟩ := (hiff _ _).1 hd
  have hvoid : m.withVoidReturn.display = "([La(b[;I)V" := by
    rw [display_eq]
    simp only [withVoidReturn, hparams]
    decide
  have hparse := (hagain m hm).2.1
  rw [hvoid] at hparse
  exact ⟨hd, m, hm, hparams, hresult, hvoid, hparse⟩

end MethodDescriptor

end RangeIndex.Mixin
