import Mathlib.Data.List.Forall2
import Mathlib.Data.List.Induction
import Mathlib.Data.Nat.Digits.Defs
import RangeIndex.Proofs.RecordFields

/-!
# The shapes of records

The fields of a record are of three sorts: numbers, flags and any text. `shape` lists the sorts of
the fields for each kind of record, and a record can be read iff its fields are of these sorts, one
by one. Only a number has several spellings, so writing what was read gives the same fields back
with each number in its shortest one.

The three kinds of record are codecs of one form, and `Codec.Exact` says what holds of each
(`records_exact`).
-/

namespace RangeIndex

/-! ## Numerals -/

namespace Text

/-- One or more decimal digits, possibly after a plus sign. -/
def IsNumeral (field : String) : Prop :=
  ∃ digits : List Char, (field.toList = digits ∨ field.toList = '+' :: digits) ∧ digits ≠ [] ∧
    ∀ d ∈ digits, d.isDigit

def numeralValue (field : String) : Nat :=
  Nat.ofDigits 10 ((field.toList.filter Char.isDigit).reverse.map fun d => d.toNat - '0'.toNat)

theorem ofDigitChars_eq_ofDigits (ds : List Char) :
    Nat.ofDigitChars 10 ds 0 = Nat.ofDigits 10 (ds.reverse.map fun d => d.toNat - '0'.toNat) := by
  induction ds using List.reverseRecOn with
  | nil => rfl
  | append_singleton ds d ih =>
    rw [List.reverse_concat, List.map_cons, Nat.ofDigits_cons, ← ih]
    simp [Nat.ofDigitChars, Nat.add_comm]

theorem numeralValue_of_digits {field : String} {digits : List Char}
    (hfield : field.toList = digits ∨ field.toList = '+' :: digits)
    (hdigits : ∀ d ∈ digits, d.isDigit) :
    numeralValue field = Nat.ofDigitChars 10 digits 0 := by
  have hfilter : field.toList.filter Char.isDigit = digits := by
    have hself : digits.filter Char.isDigit = digits := List.filter_eq_self.2 hdigits
    rcases hfield with h | h <;> rw [h]
    · exact hself
    · rw [List.filter_cons_of_neg (by decide), hself]
  rw [numeralValue, hfilter, ofDigitChars_eq_ofDigits]

theorem numeralDigits_cases (cs : List Char) :
    cs = numeralDigits cs ∨ cs = '+' :: numeralDigits cs := by
  unfold numeralDigits
  split
  · exact .inr rfl
  · exact .inl rfl

theorem readNumeral?_eq_some_iff {field : String} {n : UInt32} :
    readNumeral? field = some n ↔ IsNumeral field ∧ numeralValue field = n.toNat := by
  constructor
  · intro h
    unfold readNumeral? at h
    simp only at h
    split at h
    · rename_i hdigits
      simp only [Bool.and_eq_true, Bool.not_eq_true', List.isEmpty_eq_false_iff, List.all_eq_true]
        at hdigits
      obtain ⟨hne, hall⟩ := hdigits
      have hfield := numeralDigits_cases field.toList
      split at h
      · rename_i hlt
        cases h
        refine ⟨⟨_, hfield, hne, hall⟩, ?_⟩
        rw [numeralValue_of_digits hfield hall, UInt32.toNat_ofNat_of_lt' hlt]
      · cases h
    · cases h
  · rintro ⟨⟨digits, hfield, hne, hall⟩, hvalue⟩
    have hdigits : numeralDigits field.toList = digits := by
      rcases hfield with h | h <;> rw [h]
      · exact numeralDigits_of_isDigit hall
      · rfl
    rw [numeralValue_of_digits hfield hall] at hvalue
    have hlt : n.toNat < UInt32.size := n.toNat_lt_size
    unfold readNumeral?
    simp only [hdigits, hvalue]
    rw [if_pos (by simpa [hne] using hall), if_pos hlt, UInt32.ofNat_toNat]

example : readNumeral? "+007" = some 7 := by decide

example : readNumeral? "4294967296" = none := by decide

theorem writeNumeral_eq (n : UInt32) : writeNumeral n = toString n.toNat := rfl

end Text

/-! ## Sorts of fields -/

inductive FieldSort where
  | number
  | flag
  | text

namespace FieldSort

/-- Whether a field is of a sort. -/
def Accepts : FieldSort → String → Prop
  | .number, field => Text.IsNumeral field ∧ Text.numeralValue field < 2 ^ 32
  | .flag, field => field = "true" ∨ field = "false"
  | .text, _ => True

/-- The field with a number in its shortest spelling. -/
def canonical : FieldSort → String → String
  | .number, field => toString (Text.numeralValue field)
  | .flag, field => field
  | .text, field => field

end FieldSort

namespace Record

theorem readNumber_eq_ok {field : String} {n : UInt32} (h : readNumber field = .ok n) :
    FieldSort.number.Accepts field ∧ FieldSort.number.canonical field = Text.writeNumeral n := by
  have hread : Text.readNumeral? field = some n := by
    unfold readNumber at h
    split at h <;> simp_all
  obtain ⟨hnumeral, hvalue⟩ := Text.readNumeral?_eq_some_iff.1 hread
  refine ⟨⟨hnumeral, ?_⟩, ?_⟩
  · rw [hvalue]
    exact n.toNat_lt_size
  · rw [FieldSort.canonical, hvalue, Text.writeNumeral_eq]

theorem exists_readNumber {field : String} (h : FieldSort.number.Accepts field) :
    ∃ n, readNumber field = .ok n := by
  obtain ⟨hnumeral, hlt⟩ := h
  refine ⟨UInt32.ofNat (Text.numeralValue field), ?_⟩
  have hread := Text.readNumeral?_eq_some_iff.2 ⟨hnumeral, (UInt32.toNat_ofNat_of_lt' hlt).symm⟩
  rw [readNumber, hread]

theorem exists_readSpan {start length : String} (hstart : FieldSort.number.Accepts start)
    (hlength : FieldSort.number.Accepts length) : ∃ s, readSpan start length = .ok s := by
  obtain ⟨n, hn⟩ := exists_readNumber hstart
  obtain ⟨m, hm⟩ := exists_readNumber hlength
  exact ⟨⟨n, m⟩, by rw [readSpan, hn, hm]; rfl⟩

theorem readFlag_eq_ok {field : String} {b : Bool} (h : readFlag field = .ok b) :
    FieldSort.flag.Accepts field ∧ writeFlag b = field := by
  unfold readFlag at h
  split at h
  · cases h
    exact ⟨.inl rfl, rfl⟩
  · cases h
    exact ⟨.inr rfl, rfl⟩
  · cases h

theorem exists_readFlag {field : String} (h : FieldSort.flag.Accepts field) :
    ∃ b, readFlag field = .ok b := by
  rcases h with rfl | rfl
  · exact ⟨true, rfl⟩
  · exact ⟨false, rfl⟩

end Record

/-! ## Fields that match a shape -/

/-- Fields with their sorts, and the same fields with numbers in their shortest spelling. -/
inductive Matches : List String → List FieldSort → List String → Prop
  | nil : Matches [] [] []
  | cons {sort : FieldSort} {sorts : List FieldSort} {field : String}
      {fields written : List String} : sort.Accepts field → Matches fields sorts written →
      Matches (field :: fields) (sort :: sorts) (sort.canonical field :: written)

namespace Matches

variable {sorts : List FieldSort} {fields written : List String}

theorem accepts (h : Matches fields sorts written) :
    List.Forall₂ FieldSort.Accepts sorts fields := by
  induction h with
  | nil => exact .nil
  | cons hfield _ ih => exact .cons hfield ih

theorem written_eq (h : Matches fields sorts written) :
    written = List.zipWith FieldSort.canonical sorts fields := by
  induction h with
  | nil => rfl
  | cons _ _ ih => rw [List.zipWith_cons_cons, ih]

theorem text (field : String) (h : Matches fields sorts written) :
    Matches (field :: fields) (.text :: sorts) (field :: written) :=
  .cons (show FieldSort.text.Accepts field from trivial) h

theorem texts : ∀ fields : List String, Matches fields (fields.map fun _ => .text) fields
  | [] => .nil
  | field :: fields => .text field (texts fields)

theorem number {field : String} {n : UInt32} (hn : Record.readNumber field = .ok n)
    (h : Matches fields sorts written) :
    Matches (field :: fields) (.number :: sorts) (Text.writeNumeral n :: written) := by
  obtain ⟨haccepts, hcanonical⟩ := Record.readNumber_eq_ok hn
  rw [← hcanonical]
  exact .cons haccepts h

theorem flag {field : String} {b : Bool} (hb : Record.readFlag field = .ok b)
    (h : Matches fields sorts written) :
    Matches (field :: fields) (.flag :: sorts) (Record.writeFlag b :: written) := by
  obtain ⟨haccepts, hcanonical⟩ := Record.readFlag_eq_ok hb
  rw [hcanonical]
  exact .cons haccepts h

theorem span {start length : String} {s : Span} (hs : Record.readSpan start length = .ok s)
    (h : Matches fields sorts written) :
    Matches (start :: length :: fields) (.number :: .number :: sorts)
      (Record.writeSpan s ++ written) := by
  obtain ⟨n, hn, hs⟩ := bind_eq_ok_iff.1 hs
  obtain ⟨m, hm, hs⟩ := bind_eq_ok_iff.1 hs
  cases hs
  exact number hn (number hm h)

end Matches

/-! ## The kinds of record -/

/-- The sorts of the fields that describe what an occurrence refers to. -/
def OccurrenceKind.payloadShape : OccurrenceKind → List FieldSort
  | .package => []
  | .type => [.flag, .text]
  | .typeLiteral | .field => [.text]
  | .fieldLiteral => [.text, .text]
  | .method | .methodLiteral => [.text, .text, .text]
  | .parameter => [.text, .text, .text, .number]
  | .localVariable => [.text, .text, .text, .number, .text]

def OccurrenceKind.shape (kind : OccurrenceKind) : List FieldSort :=
  .number :: .number :: .text :: kind.payloadShape

namespace Occurrence

theorem matches_of_ofFields {kind : OccurrenceKind} {fields : List String} {o : Occurrence}
    (h : ofFields kind fields = .ok o) : o.kind = kind ∧ Matches fields kind.shape o.write := by
  unfold ofFields at h
  split at h
  case h_10 => cases h
  all_goals obtain ⟨span, hspan, h⟩ := bind_eq_ok_iff.1 h
  case h_2 =>
    obtain ⟨flag, hflag, h⟩ := bind_eq_ok_iff.1 h
    cases h
    exact ⟨rfl, .span hspan (.text _ (.flag hflag (.text _ .nil)))⟩
  case h_8 =>
    obtain ⟨index, hindex, h⟩ := bind_eq_ok_iff.1 h
    cases h
    exact ⟨rfl, .span hspan (.text _ (.text _ (.text _ (.text _ (.number hindex .nil)))))⟩
  case h_9 =>
    obtain ⟨index, hindex, h⟩ := bind_eq_ok_iff.1 h
    cases h
    exact ⟨rfl, .span hspan (.text _ (.text _ (.text _ (.text _ (.number hindex (.text _ .nil))))))⟩
  -- The others have texts only after their span.
  all_goals
    cases h
    exact ⟨rfl, .span hspan (.texts _)⟩

theorem exists_ofFields {kind : OccurrenceKind} {fields : List String}
    (h : List.Forall₂ FieldSort.Accepts kind.shape fields) : ∃ o, ofFields kind fields = .ok o := by
  rcases h with _ | ⟨hstart, _ | ⟨hlength, _ | ⟨-, hpayload⟩⟩⟩
  obtain ⟨span, hspan⟩ := Record.exists_readSpan hstart hlength
  cases kind with
  | type =>
    rcases hpayload with _ | ⟨hflag, _ | ⟨-, _ | _⟩⟩
    obtain ⟨flag, hflag⟩ := Record.exists_readFlag hflag
    exact ⟨_, bind_eq_ok_iff.2 ⟨span, hspan, bind_eq_ok_iff.2 ⟨flag, hflag, rfl⟩⟩⟩
  | parameter =>
    rcases hpayload with _ | ⟨-, _ | ⟨-, _ | ⟨-, _ | ⟨hindex, _ | _⟩⟩⟩⟩
    obtain ⟨index, hindex⟩ := Record.exists_readNumber hindex
    exact ⟨_, bind_eq_ok_iff.2 ⟨span, hspan, bind_eq_ok_iff.2 ⟨index, hindex, rfl⟩⟩⟩
  | localVariable =>
    rcases hpayload with _ | ⟨-, _ | ⟨-, _ | ⟨-, _ | ⟨hindex, _ | ⟨-, _ | _⟩⟩⟩⟩⟩
    obtain ⟨index, hindex⟩ := Record.exists_readNumber hindex
    exact ⟨_, bind_eq_ok_iff.2 ⟨span, hspan, bind_eq_ok_iff.2 ⟨index, hindex, rfl⟩⟩⟩
  | _ =>
    rcases hpayload with _ | ⟨-, _ | ⟨-, _ | ⟨-, _ | _⟩⟩⟩
    exact ⟨_, bind_eq_ok_iff.2 ⟨span, hspan, rfl⟩⟩

theorem ofToken?_eq_some_iff {token : String} {kind : OccurrenceKind} :
    OccurrenceKind.ofToken? token = some kind ↔ kind.token = token := by
  constructor
  · intro h
    simpa using List.find?_some h
  · rintro rfl
    exact ofToken?_token kind

theorem read_eq_ok_iff {token : String} {fields : List String} {o : Occurrence} :
    read formatVersion token fields = .ok o ↔
      ∃ kind : OccurrenceKind, kind.token = token ∧ ofFields kind fields = .ok o := by
  simp only [read, Record.checkVersion_formatVersion, bind, Except.bind, ← ofToken?_eq_some_iff]
  cases OccurrenceKind.ofToken? token <;> simp [throw, throwThe, MonadExceptOf.throw]

end Occurrence

def DeclarationKind.shape (kind : DeclarationKind) : List FieldSort :=
  .number :: .number :: .text :: if kind = .method then [.text] else []

namespace Declaration

theorem matches_of_ofFields {kind : DeclarationKind} {fields : List String} {d : Declaration}
    (h : ofFields kind fields = .ok d) : d.kind = kind ∧ Matches fields kind.shape d.write := by
  unfold ofFields at h
  split at h
  · obtain ⟨span, hspan, h⟩ := bind_eq_ok_iff.1 h
    cases h
    exact ⟨rfl, .span hspan (.texts _)⟩
  · cases h
  · rename_i hm
    obtain ⟨span, hspan, h⟩ := bind_eq_ok_iff.1 h
    cases h
    rw [DeclarationKind.shape, write, if_neg hm, if_neg hm]
    exact ⟨rfl, .span hspan (.texts _)⟩
  · cases h

theorem exists_ofFields {kind : DeclarationKind} {fields : List String}
    (h : List.Forall₂ FieldSort.Accepts kind.shape fields) : ∃ d, ofFields kind fields = .ok d := by
  rcases h with _ | ⟨hstart, _ | ⟨hlength, _ | ⟨-, hdesc⟩⟩⟩
  obtain ⟨span, hspan⟩ := Record.exists_readSpan hstart hlength
  cases kind with
  | method =>
    rcases hdesc with _ | ⟨-, _ | _⟩
    exact ⟨_, bind_eq_ok_iff.2 ⟨span, hspan, rfl⟩⟩
  | _ =>
    rcases hdesc with _ | _
    exact ⟨_, bind_eq_ok_iff.2 ⟨span, hspan, rfl⟩⟩

theorem ofName?_eq_some_iff {name : String} {kind : DeclarationKind} :
    DeclarationKind.ofName? name = some kind ↔ kind.name = name := by
  constructor
  · intro h
    simpa using List.find?_some h
  · rintro rfl
    exact ofName?_name kind

theorem read_eq_ok_iff {name : String} {fields : List String} {d : Declaration} :
    read formatVersion name fields = .ok d ↔
      ∃ kind : DeclarationKind, kind.name = name ∧ ofFields kind fields = .ok d := by
  simp only [read, Record.checkVersion_formatVersion, bind, Except.bind, ← ofName?_eq_some_iff]
  cases DeclarationKind.ofName? name <;> simp [throw, throwThe, MonadExceptOf.throw]

end Declaration

namespace AccessorLink

def shape : List FieldSort :=
  List.replicate 7 .text

theorem read_eq_ok_iff {kind : String} {fields : List String} {l : AccessorLink} :
    read formatVersion kind fields = .ok l ↔ token = kind ∧ fields = l.write := by
  constructor
  · intro h
    simp only [read, Record.checkVersion_formatVersion, bind, Except.bind] at h
    split at h
    · cases h
    · rename_i hkind
      split at h
      · cases h
        exact ⟨(not_not.1 hkind).symm, rfl⟩
      · cases h
  · rintro ⟨rfl, rfl⟩
    exact read_write l

theorem matches_write (l : AccessorLink) : Matches l.write shape l.write :=
  .texts l.write

theorem exists_read {fields : List String} (h : List.Forall₂ FieldSort.Accepts shape fields) :
    ∃ l, read formatVersion token fields = .ok l := by
  rcases h with
    _ | ⟨-, _ | ⟨-, _ | ⟨-, _ | ⟨-, _ | ⟨-, _ | ⟨-, _ | ⟨-, _ | _⟩⟩⟩⟩⟩⟩⟩
  exact ⟨_, rfl⟩

end AccessorLink

/-! ## Codecs -/

/-- Records of several kinds, with how they are read from their token and fields and how their
fields are written. -/
structure Codec (κ α : Type) where
  token : κ → String
  shape : κ → List FieldSort
  kind : α → κ
  read : String → List String → Except RecordError α
  write : α → List String

/-- A codec reads what has a token and the shape of one of its kinds, and no more. What it reads is
of that kind and is written as it was, but for the spelling of numbers. What it writes for a value
that is `Whole` it reads again as that value. -/
structure Codec.Exact {κ α : Type} (c : Codec κ α) (Whole : α → Prop) : Prop where
  reads_iff (token : String) (fields : List String) :
    (∃ v, c.read token fields = .ok v) ↔
      ∃ k, c.token k = token ∧ List.Forall₂ FieldSort.Accepts (c.shape k) fields
  token_of_read {token : String} {fields : List String} {v : α} :
    c.read token fields = .ok v → c.token (c.kind v) = token
  write_of_read {token : String} {fields : List String} {v : α} :
    c.read token fields = .ok v →
      c.write v = List.zipWith FieldSort.canonical (c.shape (c.kind v)) fields
  read_write (v : α) : Whole v → c.read (c.token (c.kind v)) (c.write v) = .ok v

theorem Codec.exact_of_matches {κ α : Type} {c : Codec κ α} {Whole : α → Prop}
    {ofFields : κ → List String → Except RecordError α}
    (hread : ∀ {token fields v}, c.read token fields = .ok v ↔
      ∃ k, c.token k = token ∧ ofFields k fields = .ok v)
    (hmatches : ∀ {k fields v}, ofFields k fields = .ok v →
      c.kind v = k ∧ Matches fields (c.shape k) (c.write v))
    (hexists : ∀ {k fields}, List.Forall₂ FieldSort.Accepts (c.shape k) fields →
      ∃ v, ofFields k fields = .ok v)
    (hwrite : ∀ v, Whole v → ofFields (c.kind v) (c.write v) = .ok v) : c.Exact Whole where
  reads_iff token fields := by
    constructor
    · rintro ⟨v, h⟩
      obtain ⟨k, hk, h⟩ := hread.1 h
      exact ⟨k, hk, (hmatches h).2.accepts⟩
    · rintro ⟨k, hk, h⟩
      obtain ⟨v, hv⟩ := hexists h
      exact ⟨v, hread.2 ⟨k, hk, hv⟩⟩
  token_of_read h := by
    obtain ⟨k, hk, h⟩ := hread.1 h
    rw [(hmatches h).1, hk]
  write_of_read h := by
    obtain ⟨k, hk, h⟩ := hread.1 h
    obtain ⟨hkind, hmatches⟩ := hmatches h
    rw [hkind]
    exact hmatches.written_eq
  read_write v hv := hread.2 ⟨c.kind v, rfl, hwrite v hv⟩

def Occurrence.codec : Codec OccurrenceKind Occurrence where
  token := OccurrenceKind.token
  shape := OccurrenceKind.shape
  kind := kind
  read := read formatVersion
  write := write

theorem Occurrence.codec_exact : codec.Exact fun _ => True :=
  Codec.exact_of_matches read_eq_ok_iff matches_of_ofFields exists_ofFields
    fun o _ => ofFields_write o

/-- The token of a declaration is the name of its kind here, without `def` after it. -/
def Declaration.codec : Codec DeclarationKind Declaration where
  token := DeclarationKind.name
  shape := DeclarationKind.shape
  kind := kind
  read := read formatVersion
  write := write

theorem Declaration.codec_exact :
    codec.Exact fun d => d.desc.isSome ↔ d.kind = .method := by
  refine Codec.exact_of_matches read_eq_ok_iff matches_of_ofFields exists_ofFields fun d hd => ?_
  have hwrite := ofFields_write d
  rwa [normalize_eq_self_iff.2 hd] at hwrite

def AccessorLink.codec : Codec Unit AccessorLink where
  token _ := token
  shape _ := shape
  kind _ := ()
  read := read formatVersion
  write := write

theorem AccessorLink.codec_exact : codec.Exact fun _ => True where
  reads_iff kind fields := by
    constructor
    · rintro ⟨l, h⟩
      obtain ⟨hkind, rfl⟩ := read_eq_ok_iff.1 h
      exact ⟨(), hkind, (matches_write l).accepts⟩
    · rintro ⟨_, rfl, h⟩
      exact exists_read h
  token_of_read h := (read_eq_ok_iff.1 h).1
  write_of_read h := by
    obtain ⟨-, rfl⟩ := read_eq_ok_iff.1 h
    exact (matches_write _).written_eq
  read_write l _ := read_write l

/-- Occurrences, declarations and links are read and written exactly. A declaration has to have a
descriptor iff it is a method, to come back as it was. -/
theorem records_exact :
    Occurrence.codec.Exact (fun _ => True) ∧
      Declaration.codec.Exact (fun d => d.desc.isSome ↔ d.kind = .method) ∧
      AccessorLink.codec.Exact (fun _ => True) :=
  ⟨Occurrence.codec_exact, Declaration.codec_exact, AccessorLink.codec_exact⟩

end RangeIndex
