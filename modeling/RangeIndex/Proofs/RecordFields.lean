import RangeIndex.Index.Reader
import RangeIndex.Proofs.Outcomes

/-!
# Written records read back

Each kind of record reads what it writes: numbers and flags first, then the three kinds of record
from the fields after their token, and last `Entry.read` from the whole line. An occurrence and a
link come back as they were, a declaration comes back normalized (`Entry.read_declaration`), and
every declaration that was read is normalized already (`Declaration.normalize_of_read`).
-/

namespace RangeIndex

open RangeIndex.Text (readNumeral? writeNumeral)

/-! ## Numbers, flags and spans -/

namespace Text

theorem numeralDigits_of_isDigit {ds : List Char} (h : ∀ d ∈ ds, d.isDigit) :
    numeralDigits ds = ds := by
  unfold numeralDigits
  split
  · exact absurd (h '+' (by simp)) (by decide)
  · rfl

theorem readNumeral?_writeNumeral (n : UInt32) : readNumeral? (writeNumeral n) = some n := by
  have hdigits : ∀ d ∈ Nat.toDigits 10 n.toNat, d.isDigit :=
    fun d hd => Nat.isDigit_of_mem_toDigits (by decide) (by decide) hd
  have hne : Nat.toDigits 10 n.toNat ≠ [] := Nat.toDigits_ne_nil
  have hlt : n.toNat < UInt32.size := n.toNat_lt_size
  simp only [readNumeral?, writeNumeral, String.toList_ofList, numeralDigits_of_isDigit hdigits]
  rw [if_pos (by simpa [hne] using hdigits), Nat.ofDigitChars_ten_toDigits, if_pos hlt]
  simp

end Text

namespace Record

open RangeIndex.Text (readNumeral?_writeNumeral)

@[simp]
theorem readNumber_writeNumeral (n : UInt32) : readNumber (writeNumeral n) = .ok n := by
  simp [readNumber, readNumeral?_writeNumeral]

@[simp]
theorem readFlag_writeFlag (b : Bool) : readFlag (writeFlag b) = .ok b := by
  cases b <;> rfl

@[simp]
theorem readSpan_writeNumeral (s : Span) :
    readSpan (writeNumeral s.start) (writeNumeral s.length) = .ok s := by
  simp [readSpan, bind, Except.bind, pure, Except.pure]

@[simp]
theorem checkVersion_formatVersion : checkVersion formatVersion = .ok () := rfl

end Record

/-! ## The kinds of record -/

namespace Occurrence

@[simp]
theorem ofToken?_token (k : OccurrenceKind) : OccurrenceKind.ofToken? k.token = some k := by
  cases k <;> decide

theorem ofFields_write (o : Occurrence) : ofFields o.kind o.write = .ok o := by
  obtain ⟨span, text, referent⟩ := o
  rw [ofFields.eq_def]
  cases referent <;>
    simp [kind, Referent.kind, write, Record.writeSpan, Referent.payload, Referent.memberFields,
      bind, Except.bind, pure, Except.pure]

theorem read_write (o : Occurrence) : read formatVersion o.kind.token o.write = .ok o := by
  simp [read, bind, Except.bind, ofFields_write]

end Occurrence

namespace Declaration

@[simp]
theorem ofName?_name (k : DeclarationKind) : DeclarationKind.ofName? k.name = some k := by
  cases k <;> decide

theorem ofFields_write (d : Declaration) : ofFields d.kind d.write = .ok d.normalize := by
  obtain ⟨kind, span, name, desc⟩ := d
  rw [ofFields.eq_def]
  cases kind <;>
    simp [write, Record.writeSpan, normalize, bind, Except.bind, pure, Except.pure]

theorem read_write (d : Declaration) :
    read formatVersion d.kind.name d.write = .ok d.normalize := by
  simp [read, bind, Except.bind, ofFields_write]

theorem normalize_eq_self_iff {d : Declaration} :
    d.normalize = d ↔ (d.desc.isSome ↔ d.kind = .method) := by
  obtain ⟨kind, span, name, desc⟩ := d
  cases kind <;> cases desc <;> simp [normalize]

theorem normalize_of_ofFields {kind : DeclarationKind} {fields : List String} {d : Declaration}
    (h : ofFields kind fields = .ok d) : d.normalize = d := by
  unfold ofFields at h
  split at h
  · obtain ⟨span, -, h⟩ := bind_eq_ok_iff.1 h
    cases h
    rfl
  · cases h
  · rename_i hm
    obtain ⟨span, -, h⟩ := bind_eq_ok_iff.1 h
    cases h
    simp only [normalize]
    rw [if_neg hm]
  · cases h

/-- What was read has a descriptor exactly if it is a method. -/
theorem normalize_of_read {name : String} {fields : List String} {d : Declaration}
    (h : read formatVersion name fields = .ok d) : d.normalize = d := by
  simp only [read, Record.checkVersion_formatVersion, bind, Except.bind] at h
  split at h
  · exact normalize_of_ofFields h
  · cases h

end Declaration

theorem AccessorLink.read_write (l : AccessorLink) :
    read formatVersion token l.write = .ok l := by
  simp [read, write, bind, Except.bind, pure, Except.pure]

/-! ## Whole record lines -/

namespace Entry

theorem declarationName?_append (name : String) : declarationName? (name ++ "def") = some name := by
  unfold declarationName?
  have hsuffix : declarationSuffix.isSuffixOf (name ++ "def").toList := by
    simp [declarationSuffix]
  rw [if_pos hsuffix]
  simp [declarationSuffix]

theorem declarationName?_eq_some {head name : String} (h : declarationName? head = some name) :
    head = name ++ "def" := by
  unfold declarationName? at h
  split at h
  · rename_i hsuffix
    obtain ⟨pre, hpre⟩ := List.isSuffixOf_iff_suffix.1 hsuffix
    simp only [← hpre, Option.some.injEq] at h
    subst h
    rw [← String.toList_inj, ← hpre]
    simp [declarationSuffix]
  · cases h

theorem read_link (l : AccessorLink) :
    read "meta" (AccessorLink.token :: l.write) = .ok (.link l) := by
  simp [read, AccessorLink.read_write, Except.map]

theorem read_declaration (d : Declaration) :
    read d.kind.token d.write = .ok (.declaration d.normalize) := by
  have hmeta : d.kind.token ≠ "meta" := by cases d.kind <;> decide
  unfold read
  rw [if_neg hmeta]
  simp [DeclarationKind.token, declarationName?_append, Declaration.read_write, Except.map]

theorem read_occurrence (o : Occurrence) :
    read o.kind.token o.write = .ok (.occurrence o) := by
  have hmeta : o.kind.token ≠ "meta" := by cases o.kind <;> decide
  have hdef : declarationName? o.kind.token = none := by cases o.kind <;> decide
  unfold read
  rw [if_neg hmeta]
  simp [hdef, Occurrence.read_write, Except.map]

end Entry

end RangeIndex
