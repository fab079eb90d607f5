import RangeIndex.Field.Split

/-!
# The grammar of a line

`IsLine` is the grammar of lines, with the values of their fields: blanks, fields with blanks
between them, and possibly a comment, which may stand right after the last field. `Fails` is for
lines that have a bad quoted field behind well-formed ones, with the error that says what is wrong
with it.

Each part of a line takes its own characters away from `splitFrom` and adds its own values
(`splitFrom_opens`), so `split` gives the values and the errors of the grammar. It gives no others,
since each line is of one of the two kinds (`isLine_or_fails`).
-/

namespace RangeIndex.Field

open RangeIndex.Text (isBlank)

/-! ## Grammar -/

/-- The characters that can follow a backslash, each with the one that it stands for. -/
def escapes : List (Char × Char) :=
  [('"', '"'), ('\\', '\\'), ('n', '\n'), ('r', '\r'), ('t', '\t')]

/-- What can stand between quotes, with its value. -/
inductive QuotedText : List Char → List Char → Prop
  | nil : QuotedText [] []
  | plain {c : Char} {text value : List Char} :
      c ≠ '"' → c ≠ '\\' → QuotedText text value → QuotedText (c :: text) (c :: value)
  | escape {c d : Char} {text value : List Char} :
      (c, d) ∈ escapes → QuotedText text value → QuotedText ('\\' :: c :: text) (d :: value)

/-- A field with its value. -/
inductive IsField : List Char → String → Prop
  | bare {text : List Char} :
      text ≠ [] → (∀ c ∈ text, isBlank c = false ∧ c ≠ '#') → text.head? ≠ some '"' →
      IsField text (String.ofList text)
  | quoted {text value : List Char} :
      QuotedText text value → IsField ('"' :: (text ++ ['"'])) (String.ofList value)

def AllBlank (text : List Char) : Prop :=
  ∀ c ∈ text, isBlank c

/-- Fields with blanks after each, and their values. -/
inductive Fields : List Char → List String → Prop
  | nil : Fields [] []
  | cons {text gap rest : List Char} {value : String} {values : List String} :
      IsField text value → gap ≠ [] → AllBlank gap → Fields rest values →
      Fields (text ++ (gap ++ rest)) (value :: values)

/-- The start of a line up to where a field can start, and the values of the fields in it. -/
def Opens (start : List Char) (values : List String) : Prop :=
  ∃ lead fields, start = lead ++ fields ∧ AllBlank lead ∧ Fields fields values

/-- The end of a line: a comment or nothing. -/
def Ends (text : List Char) : Prop :=
  text = [] ∨ text.head? = some '#'

inductive IsLine : List Char → List String → Prop
  | blank {start comment : List Char} {values : List String} :
      Opens start values → Ends comment → IsLine (start ++ comment) values
  | field {start text comment : List Char} {value : String} {values : List String} :
      Opens start values → IsField text value → Ends comment →
      IsLine (start ++ (text ++ comment)) (values ++ [value])

/-- A text that starts with a quoted field which is not well formed, where `opening` is the column
of its quote, with the error. -/
inductive IsBadField (opening : Nat) : List Char → SplitError → Prop
  | unterminated {text value tail : List Char} :
      QuotedText text value → tail = [] ∨ tail = ['\\'] →
      IsBadField opening ('"' :: (text ++ tail)) (.unterminatedQuote opening)
  | invalidEscape {text value rest : List Char} {c : Char} :
      QuotedText text value → (∀ d, (c, d) ∉ escapes) →
      IsBadField opening ('"' :: (text ++ '\\' :: c :: rest)) (.invalidEscape c)
  | trailing {text value rest : List Char} {c : Char} :
      QuotedText text value → isBlank c = false → c ≠ '#' →
      IsBadField opening ('"' :: (text ++ '"' :: c :: rest))
        (.trailingAfterQuote (opening + (String.ofList ('"' :: (text ++ ['"']))).utf8ByteSize))

/-- A line of which the first bad field, behind well-formed ones, is bad in the way of the error. -/
def Fails (line : List Char) (e : SplitError) : Prop :=
  ∃ start bad values, line = start ++ bad ∧ Opens start values ∧
    IsBadField (String.ofList start).utf8ByteSize bad e

/-! ## Quoted text -/

theorem byteLength_append (as bs : List Char) :
    byteLength (as ++ bs) = byteLength as + byteLength bs := by
  induction as with
  | nil => simp [byteLength]
  | cons a as ih =>
    simp only [List.cons_append, byteLength, ih]
    omega

theorem scanQuoted_plain {opening column : Nat} {c : Char} (hq : c ≠ '"') (hb : c ≠ '\\')
    (rest : List Char) :
    scanQuoted opening column (c :: rest) =
      (scanQuoted opening (column + c.utf8Size) rest).map fun q =>
        { q with value := c :: q.value } := by
  rw [scanQuoted.eq_def]
  split <;> simp_all

theorem utf8ByteSize_ofList (cs : List Char) : (String.ofList cs).utf8ByteSize = byteLength cs := by
  induction cs with
  | nil => rfl
  | cons c cs ih =>
    rw [← List.singleton_append, String.ofList_append, String.utf8ByteSize_append, ih,
      ← String.singleton_eq_ofList, String.utf8ByteSize_singleton]
    rfl

theorem unescape?_eq_some_iff {c d : Char} : unescape? c = some d ↔ (c, d) ∈ escapes := by
  unfold unescape? escapes
  split <;> simp_all [eq_comm]

theorem unescape?_eq_none_iff {c : Char} : unescape? c = none ↔ ∀ d, (c, d) ∉ escapes := by
  simp only [Option.eq_none_iff_forall_ne_some, ne_eq, unescape?_eq_some_iff]

theorem scanQuoted_escaped {c d : Char} (h : (c, d) ∈ escapes) (opening column : Nat)
    (rest : List Char) :
    scanQuoted opening column ('\\' :: c :: rest) =
      (scanQuoted opening (column + 1 + c.utf8Size) rest).map fun q =>
        { q with value := d :: q.value } := by
  simp [scanQuoted, unescape?_eq_some_iff.2 h]

theorem scanQuoted_invalidEscape {c : Char} (h : ∀ d, (c, d) ∉ escapes) (opening column : Nat)
    (rest : List Char) :
    scanQuoted opening column ('\\' :: c :: rest) = .error (.invalidEscape c) := by
  simp [scanQuoted, unescape?_eq_none_iff.2 h]

theorem byteLength_escaped (c : Char) (text : List Char) :
    byteLength ('\\' :: c :: text) = 1 + c.utf8Size + byteLength text := by
  simp only [byteLength, show '\\'.utf8Size = 1 from rfl]
  omega

/-- Scanning goes through quoted text and then on from behind it. -/
theorem scanQuoted_quotedText {text value : List Char} (h : QuotedText text value)
    (opening column : Nat) (rest : List Char) :
    scanQuoted opening column (text ++ rest) =
      (scanQuoted opening (column + byteLength text) rest).map fun q =>
        { q with value := value ++ q.value } := by
  induction h generalizing column with
  | nil =>
    rw [List.nil_append, byteLength, Nat.add_zero]
    cases scanQuoted opening column rest <;> rfl
  | @plain c text value hq hb _ ih =>
    rw [List.cons_append, scanQuoted_plain hq hb, ih, byteLength, ← Nat.add_assoc]
    cases scanQuoted opening (column + c.utf8Size + byteLength text) rest <;> rfl
  | @escape c d text value hc _ ih =>
    rw [List.cons_append, List.cons_append, scanQuoted_escaped hc, ih, byteLength_escaped,
      ← Nat.add_assoc, ← Nat.add_assoc]
    cases scanQuoted opening (column + 1 + c.utf8Size + byteLength text) rest <;> rfl

theorem scanQuoted_closed {text value : List Char} (h : QuotedText text value)
    (opening column : Nat) (rest : List Char) :
    scanQuoted opening column (text ++ '"' :: rest) =
      .ok ⟨value, column + byteLength text + 1, rest⟩ := by
  rw [scanQuoted_quotedText h]
  simp [scanQuoted, Except.map]

theorem byteLength_quoted (text : List Char) :
    byteLength ('"' :: (text ++ ['"'])) = 1 + byteLength text + 1 := by
  simp only [byteLength, byteLength_append]
  rfl

/-! ## The first field of a line -/

theorem splitFrom_nil (column : Nat) : splitFrom column [] = .ok [] := by
  rw [splitFrom.eq_def]

theorem splitFrom_blank {column : Nat} {c : Char} (h : isBlank c) (rest : List Char) :
    splitFrom column (c :: rest) = splitFrom (column + c.utf8Size) rest := by
  rw [splitFrom.eq_def]
  exact if_pos h

theorem splitFrom_comment (column : Nat) (rest : List Char) :
    splitFrom column ('#' :: rest) = .ok [] := by
  rw [splitFrom.eq_def]
  rfl

theorem splitFrom_opening (column : Nat) (rest : List Char) :
    splitFrom column ('"' :: rest) =
      match scanQuoted column (column + 1) rest with
      | .error e => .error e
      | .ok q =>
        if separates q.rest then
          (splitFrom q.column q.rest).map (String.ofList q.value :: ·)
        else
          .error (.trailingAfterQuote q.column) := by
  rw [splitFrom.eq_def]
  simp only [show isBlank '"' = false from rfl, Bool.false_eq_true, ↓reduceIte, Char.reduceEq]
  split <;> rename_i h <;> simp only [h]

theorem splitFrom_bare {column : Nat} {c : Char} (h : isBare c) (hq : c ≠ '"')
    (rest : List Char) :
    splitFrom column (c :: rest) =
      (splitFrom (column + byteLength (c :: rest.takeWhile isBare)) (rest.dropWhile isBare)).map
        (String.ofList (c :: rest.takeWhile isBare) :: ·) := by
  obtain ⟨hb, hc⟩ : isBlank c = false ∧ c ≠ '#' := by simpa [isBare] using h
  rw [splitFrom.eq_def]
  simp only [hb, hc, hq, Bool.false_eq_true, ↓reduceIte]

/-- A line that can follow a closing quote does not go on with a bare field. -/
theorem separates_cases {rest : List Char} (h : separates rest) :
    rest = [] ∨ ∃ c cs, rest = c :: cs ∧ isBare c = false := by
  cases rest with
  | nil => exact .inl rfl
  | cons c cs =>
    refine .inr ⟨c, cs, rfl, ?_⟩
    simp only [separates, Bool.or_eq_true, beq_iff_eq] at h
    rcases h with h | rfl
    · simp [isBare, h]
    · rfl

theorem takeWhile_isBare_append {cs rest : List Char} (hcs : ∀ c ∈ cs, isBare c)
    (h : separates rest) : (cs ++ rest).takeWhile isBare = cs := by
  rw [List.takeWhile_append_of_pos hcs]
  rcases separates_cases h with rfl | ⟨c, ds, rfl, hc⟩
  · simp
  · simp [hc]

theorem dropWhile_isBare_append {cs rest : List Char} (hcs : ∀ c ∈ cs, isBare c)
    (h : separates rest) : (cs ++ rest).dropWhile isBare = rest := by
  rw [List.dropWhile_append_of_pos hcs]
  rcases separates_cases h with rfl | ⟨c, ds, rfl, hc⟩
  · rfl
  · simp [hc]

/-! ## From the grammar to the fields -/

theorem splitFrom_blanks {text : List Char} (h : AllBlank text) (column : Nat)
    (rest : List Char) :
    splitFrom column (text ++ rest) = splitFrom (column + byteLength text) rest := by
  induction text generalizing column with
  | nil => rfl
  | cons c text ih =>
    obtain ⟨hc, htext⟩ := List.forall_mem_cons.1 h
    rw [List.cons_append, splitFrom_blank hc, ih htext, byteLength, Nat.add_assoc]

theorem splitFrom_field {text : List Char} {value : String} (h : IsField text value)
    (column : Nat) {rest : List Char} (hrest : separates rest) :
    splitFrom column (text ++ rest) =
      (splitFrom (column + byteLength text) rest).map (value :: ·) := by
  cases h with
  | bare hne hall hquote =>
    obtain ⟨c, cs, rfl⟩ := List.exists_cons_of_ne_nil hne
    have hbare : ∀ a ∈ c :: cs, isBare a := fun a ha => by
      obtain ⟨hblank, hhash⟩ := hall a ha
      simp [isBare, hblank, hhash]
    obtain ⟨hc, hcs⟩ := List.forall_mem_cons.1 hbare
    have hq : c ≠ '"' := fun hq => hquote (by simp [hq])
    rw [List.cons_append, splitFrom_bare hc hq, takeWhile_isBare_append hcs hrest,
      dropWhile_isBare_append hcs hrest]
  | quoted htext =>
    rw [List.cons_append, List.append_assoc, List.singleton_append, splitFrom_opening,
      scanQuoted_closed htext, byteLength_quoted]
    simp only [hrest, ↓reduceIte, Nat.add_assoc]

theorem separates_gap {gap : List Char} (hne : gap ≠ []) (h : AllBlank gap) (rest : List Char) :
    separates (gap ++ rest) := by
  obtain ⟨c, cs, rfl⟩ := List.exists_cons_of_ne_nil hne
  simp [separates, h c (by simp)]

theorem splitFrom_fields {text : List Char} {values : List String} (h : Fields text values)
    (column : Nat) (rest : List Char) :
    splitFrom column (text ++ rest) =
      (splitFrom (column + byteLength text) rest).map (values ++ ·) := by
  induction h generalizing column with
  | nil =>
    rw [List.nil_append, byteLength, Nat.add_zero]
    cases splitFrom column rest <;> rfl
  | @cons text gap more value values hfield hne hgap _ ih =>
    rw [List.append_assoc, List.append_assoc, splitFrom_field hfield _ (separates_gap hne hgap _),
      splitFrom_blanks hgap, ih, byteLength_append, byteLength_append, ← Nat.add_assoc,
      ← Nat.add_assoc]
    cases splitFrom (column + byteLength text + byteLength gap + byteLength more) rest <;> rfl

/-- The fields before a place where a field can start are split off. -/
theorem splitFrom_opens {start : List Char} {values : List String} (h : Opens start values)
    (column : Nat) (rest : List Char) :
    splitFrom column (start ++ rest) =
      (splitFrom (column + byteLength start) rest).map (values ++ ·) := by
  obtain ⟨lead, fields, rfl, hlead, hfields⟩ := h
  rw [List.append_assoc, splitFrom_blanks hlead, splitFrom_fields hfields, byteLength_append,
    Nat.add_assoc]

theorem Ends.separates {text : List Char} (h : Ends text) : separates text := by
  rcases h with rfl | h
  · rfl
  · obtain ⟨cs, rfl⟩ := List.head?_eq_some_iff.1 h
    rfl

theorem splitFrom_ends {text : List Char} (h : Ends text) (column : Nat) :
    splitFrom column text = .ok [] := by
  rcases h with rfl | h
  · exact splitFrom_nil column
  · obtain ⟨cs, rfl⟩ := List.head?_eq_some_iff.1 h
    exact splitFrom_comment column cs

theorem splitFrom_isLine {line : List Char} {values : List String} (h : IsLine line values)
    (column : Nat) : splitFrom column line = .ok values := by
  cases h with
  | blank hstart hcomment =>
    rw [splitFrom_opens hstart, splitFrom_ends hcomment]
    simp [Except.map]
  | field hstart hfield hcomment =>
    rw [splitFrom_opens hstart, splitFrom_field hfield _ hcomment.separates,
      splitFrom_ends hcomment]
    rfl

theorem splitFrom_isBadField {column : Nat} {text : List Char} {e : SplitError}
    (h : IsBadField column text e) : splitFrom column text = .error e := by
  cases h with
  | unterminated htext htail =>
    rw [splitFrom_opening, scanQuoted_quotedText htext]
    rcases htail with rfl | rfl <;> simp [scanQuoted, Except.map]
  | invalidEscape htext hc =>
    rw [splitFrom_opening, scanQuoted_quotedText htext, scanQuoted_invalidEscape hc]
    rfl
  | trailing htext hblank hhash =>
    rw [splitFrom_opening, scanQuoted_closed htext, utf8ByteSize_ofList, byteLength_quoted]
    simp [separates, hblank, hhash, Nat.add_assoc]

/-! ## Every line is of one of the two kinds -/

/-- Quoted text goes on to the end of the text, to a quote or to a backslash that stands before no
character to escape. -/
theorem exists_quotedText : ∀ cs : List Char, ∃ text value tail,
    cs = text ++ tail ∧ QuotedText text value ∧
      ((tail = [] ∨ tail = ['\\']) ∨ (∃ rest, tail = '"' :: rest) ∨
        ∃ c rest, tail = '\\' :: c :: rest ∧ ∀ d, (c, d) ∉ escapes)
  | [] => ⟨[], [], [], rfl, .nil, .inl (.inl rfl)⟩
  | c :: cs => by
    by_cases hq : c = '"'
    · subst hq
      exact ⟨[], [], _, rfl, .nil, .inr (.inl ⟨cs, rfl⟩)⟩
    by_cases hb : c = '\\'
    · subst hb
      cases cs with
      | nil => exact ⟨[], [], _, rfl, .nil, .inl (.inr rfl)⟩
      | cons c rest =>
        by_cases hc : ∃ d, (c, d) ∈ escapes
        · obtain ⟨d, hd⟩ := hc
          obtain ⟨text, value, tail, rfl, htext, htail⟩ := exists_quotedText rest
          exact ⟨'\\' :: c :: text, d :: value, tail, rfl, .escape hd htext, htail⟩
        · exact ⟨[], [], _, rfl, .nil, .inr (.inr ⟨c, rest, rfl, not_exists.1 hc⟩)⟩
    · obtain ⟨text, value, tail, rfl, htext, htail⟩ := exists_quotedText cs
      exact ⟨c :: text, c :: value, tail, rfl, .plain hq hb htext, htail⟩

theorem ends_or_blank {rest : List Char} (h : separates rest) :
    Ends rest ∨ ∃ c cs, rest = c :: cs ∧ isBlank c := by
  cases rest with
  | nil => exact .inl (.inl rfl)
  | cons c cs =>
    simp only [separates, Bool.or_eq_true, beq_iff_eq] at h
    rcases h with hblank | rfl
    · exact .inr ⟨c, cs, rfl, hblank⟩
    · exact .inl (.inr rfl)

theorem separates_dropWhile (cs : List Char) : separates (cs.dropWhile isBare) := by
  induction cs with
  | nil => rfl
  | cons c cs ih =>
    by_cases hc : isBare c
    · rwa [List.dropWhile_cons_of_pos hc]
    · rw [List.dropWhile_cons_of_neg hc]
      simpa [isBare, separates, Decidable.or_iff_not_imp_left] using hc

/-- A text that starts with a quote starts with a quoted field that can end there, or with a bad
one. -/
theorem quoted_cases (cs : List Char) :
    (∃ text value rest, '"' :: cs = text ++ rest ∧ IsField text value ∧ separates rest) ∨
      ∀ opening, ∃ e, IsBadField opening ('"' :: cs) e := by
  obtain ⟨text, value, tail, rfl, htext, htail | ⟨rest, rfl⟩ | ⟨c, rest, rfl, hc⟩⟩ :=
    exists_quotedText cs
  · exact .inr fun opening => ⟨_, .unterminated htext htail⟩
  · by_cases hrest : separates rest
    · exact .inl ⟨'"' :: (text ++ ['"']), _, rest, by simp, .quoted htext, hrest⟩
    · cases rest with
      | nil => exact absurd rfl hrest
      | cons c rest =>
        obtain ⟨hblank, hhash⟩ : isBlank c = false ∧ c ≠ '#' := by simpa [separates] using hrest
        exact .inr fun opening => ⟨_, .trailing htext hblank hhash⟩
  · exact .inr fun opening => ⟨_, .invalidEscape htext hc⟩

/-- What stands where a field can start. -/
theorem start_cases (cs : List Char) :
    Ends cs ∨ (∃ c rest, cs = c :: rest ∧ isBlank c) ∨
      (∃ text value rest, cs = text ++ rest ∧ IsField text value ∧ separates rest) ∨
      ∀ opening, ∃ e, IsBadField opening cs e := by
  cases cs with
  | nil => exact .inl (.inl rfl)
  | cons c rest =>
    by_cases hblank : isBlank c
    · exact .inr (.inl ⟨c, rest, rfl, hblank⟩)
    by_cases hhash : c = '#'
    · exact .inl (.inr (by rw [hhash]; rfl))
    by_cases hq : c = '"'
    · subst hq
      exact .inr (.inr (quoted_cases rest))
    · have hbare : ∀ a ∈ c :: rest.takeWhile isBare, isBlank a = false ∧ a ≠ '#' := by
        intro a ha
        rcases List.mem_cons.1 ha with rfl | ha
        · exact ⟨by simpa using hblank, hhash⟩
        · simpa [isBare] using List.all_eq_true.1 List.all_takeWhile a ha
      refine .inr (.inr (.inl ⟨c :: rest.takeWhile isBare, _, rest.dropWhile isBare, ?_,
        .bare (by simp) hbare (by simpa using hq), separates_dropWhile rest⟩))
      rw [List.cons_append, List.takeWhile_append_dropWhile]

theorem Opens.nil : Opens [] [] :=
  ⟨[], [], rfl, by simp [AllBlank], .nil⟩

theorem Opens.blank {start : List Char} {values : List String} {c : Char} (hc : isBlank c)
    (h : Opens start values) : Opens (c :: start) values := by
  obtain ⟨lead, fields, rfl, hlead, hfields⟩ := h
  exact ⟨c :: lead, fields, rfl, List.forall_mem_cons.2 ⟨hc, hlead⟩, hfields⟩

/-- The blanks that a start begins with separate it from a field before it. -/
theorem Opens.field {text start : List Char} {value : String} {values : List String} {c : Char}
    (htext : IsField text value) (hc : isBlank c) (h : Opens start values) :
    Opens (text ++ c :: start) (value :: values) := by
  obtain ⟨lead, fields, rfl, hlead, hfields⟩ := h
  have hgap : AllBlank (c :: lead) := List.forall_mem_cons.2 ⟨hc, hlead⟩
  exact ⟨[], _, rfl, by simp [AllBlank], .cons htext (by simp) hgap hfields⟩

/-- A line is well formed up to a last field, to its end or comment, or to a bad field. -/
theorem exists_opens : ∀ line : List Char, ∃ start tail values,
    line = start ++ tail ∧ Opens start values ∧
      (Ends tail ∨
        (∃ text value comment, tail = text ++ comment ∧ IsField text value ∧ Ends comment) ∨
        ∀ opening, ∃ e, IsBadField opening tail e)
  | line => by
    rcases start_cases line with
      hends | ⟨c, rest, rfl, hc⟩ | ⟨text, value, rest, rfl, htext, hrest⟩ | hbad
    · exact ⟨[], line, [], rfl, .nil, .inl hends⟩
    · obtain ⟨start, tail, values, rfl, hstart, htail⟩ := exists_opens rest
      exact ⟨c :: start, tail, values, rfl, hstart.blank hc, htail⟩
    · rcases ends_or_blank hrest with hends | ⟨c, rest, rfl, hc⟩
      · exact ⟨[], _, [], rfl, .nil, .inr (.inl ⟨text, value, rest, rfl, htext, hends⟩)⟩
      · obtain ⟨start, tail, values, rfl, hstart, htail⟩ := exists_opens rest
        exact ⟨text ++ c :: start, tail, value :: values, by simp, .field htext hc hstart, htail⟩
    · exact ⟨[], line, [], rfl, .nil, .inr (.inr hbad)⟩
termination_by line => line.length

theorem isLine_or_fails (line : List Char) :
    (∃ values, IsLine line values) ∨ ∃ e, Fails line e := by
  obtain ⟨start, tail, values, rfl, hstart, htail⟩ := exists_opens line
  rcases htail with hends | ⟨text, value, comment, rfl, htext, hends⟩ | hbad
  · exact .inl ⟨_, .blank hstart hends⟩
  · exact .inl ⟨_, .field hstart htext hends⟩
  · obtain ⟨e, he⟩ := hbad (String.ofList start).utf8ByteSize
    exact .inr ⟨e, start, tail, values, rfl, hstart, he⟩

/-! ## Splitting decides the grammar -/

theorem split_of_isLine {line : String} {values : List String} (h : IsLine line.toList values) :
    split line = .ok values :=
  splitFrom_isLine h 0

theorem split_of_fails {line : String} {e : SplitError} (h : Fails line.toList e) :
    split line = .error e := by
  obtain ⟨start, bad, values, hline, hstart, hbad⟩ := h
  rw [utf8ByteSize_ofList] at hbad
  rw [split, hline, splitFrom_opens hstart, Nat.zero_add, splitFrom_isBadField hbad]
  rfl

/-- A line is split into the values of its fields iff it is in the grammar, and refused with the
error of its first bad field iff it has one. -/
theorem split_decides_grammar (line : String) :
    (∀ values, split line = .ok values ↔ IsLine line.toList values) ∧
      ∀ e, split line = .error e ↔ Fails line.toList e := by
  -- Each line is of one of the two kinds, and splitting is a function.
  constructor
  · refine fun values => ⟨fun h => ?_, split_of_isLine⟩
    rcases isLine_or_fails line.toList with ⟨values', hvalues⟩ | ⟨e, he⟩
    · rw [split_of_isLine hvalues] at h
      cases h
      exact hvalues
    · rw [split_of_fails he] at h
      cases h
  · refine fun e => ⟨fun h => ?_, split_of_fails⟩
    rcases isLine_or_fails line.toList with ⟨values, hvalues⟩ | ⟨e', he⟩
    · rw [split_of_isLine hvalues] at h
      cases h
    · rw [split_of_fails he] at h
      cases h
      exact he

end RangeIndex.Field
