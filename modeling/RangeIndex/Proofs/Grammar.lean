import Mathlib.Data.List.Forall2
import RangeIndex.Proofs.IndexFiles
import RangeIndex.Proofs.ReaderSteps
import RangeIndex.Proofs.RecordFields

/-!
# The grammar of an index

An index is written as blocks one after the other: a `start` line, record lines, an `end` line. The
grammar is about the lines that are not blank (`fieldLines`), so blank lines and comments stand
anywhere. `IsIndex` relates such lines to the blocks they are made of, and each block holds what its
records say.

`parse_succeeds_iff_isIndex` is the main statement: reading succeeds on the texts of the grammar and
on no other, and gives the index of the blocks, with one event for each block whose file an earlier
block names. The invariant behind it is `Completes`: what the lines that are left have to be, for
the reader in a given state to end well.
-/

namespace RangeIndex

namespace Entry

/-- The occurrence that a record holds, if it holds one. -/
def occurrence? : Entry → Option Occurrence
  | .occurrence o => some o
  | _ => none

/-- The declaration that a record holds, if it holds one. -/
def declaration? : Entry → Option Declaration
  | .declaration d => some d
  | _ => none

/-- The link that a record holds, if it holds one. -/
def link? : Entry → Option AccessorLink
  | .link l => some l
  | _ => none

end Entry

/-- The index of a file with the given records, those of each kind in their order. -/
def FileIndex.ofEntries (filename hash : String) (entries : List Entry) : FileIndex where
  filename := filename
  hash := hash
  occurrences := entries.filterMap Entry.occurrence?
  declarations := entries.filterMap Entry.declaration?
  links := entries.filterMap Entry.link?

theorem FileIndex.foldl_push (f : FileIndex) (entries : List Entry) :
    entries.foldl push f =
      ⟨f.filename, f.hash, f.occurrences ++ entries.filterMap Entry.occurrence?,
        f.declarations ++ entries.filterMap Entry.declaration?,
        f.links ++ entries.filterMap Entry.link?⟩ := by
  induction entries generalizing f with
  | nil => simp
  | cons e entries ih =>
    rw [List.foldl_cons, ih]
    cases e <;>
      simp [push, List.filterMap_cons, Entry.occurrence?, Entry.declaration?, Entry.link?]

theorem FileIndex.ofEntries_eq_foldl (filename hash : String) (entries : List Entry) :
    ofEntries filename hash entries = entries.foldl push ⟨filename, hash, [], [], []⟩ := by
  simp [foldl_push, ofEntries]

namespace Grammar

/-! ## Lines, records and blocks -/

/-- A line that is not blank: its number, counted from one, and its fields. -/
structure FieldLine where
  number : Nat
  fields : List String

/-- The lines with fields among those that follow the first `n` lines. -/
def fieldLines (n : Nat) : List String → List FieldLine
  | [] => []
  | raw :: raws =>
    match Field.split raw with
    | .ok (head :: fields) => ⟨n + 1, head :: fields⟩ :: fieldLines (n + 1) raws
    | _ => fieldLines (n + 1) raws

/-- Every line can be split into fields. -/
def Splittable (raws : List String) : Prop :=
  ∀ raw ∈ raws, ∃ fields, Field.split raw = .ok fields

/-- What the fields after `head` say: a link after `meta` and its own token, a declaration after
the name of its kind with `def` behind it, an occurrence after any other token. -/
inductive Decodes : String → List String → Entry → Prop
  | link {kind : String} {fields : List String} {l : AccessorLink} :
      AccessorLink.read formatVersion kind fields = .ok l →
      Decodes "meta" (kind :: fields) (.link l)
  | declaration {name : String} {fields : List String} {d : Declaration} :
      Declaration.read formatVersion name fields = .ok d →
      Decodes (name ++ "def") fields (.declaration d)
  | occurrence {head : String} {fields : List String} {o : Occurrence} :
      head ≠ "meta" → (∀ name, head ≠ name ++ "def") →
      Occurrence.read formatVersion head fields = .ok o → Decodes head fields (.occurrence o)

/-- The fields of a record line, and what they say. -/
inductive IsRecord : List String → Entry → Prop
  | intro {head : String} {fields : List String} {entry : Entry} :
      head ≠ "start" → head ≠ "end" → Decodes head fields entry → IsRecord (head :: fields) entry

/-- A block in a text: the file that its records make up, and the number of its last line. -/
structure WrittenBlock where
  file : FileIndex
  last : Nat

/-- The lines of a block. -/
inductive IsBlock : List FieldLine → WrittenBlock → Prop
  | intro {first last : Nat} {version filename hash : String} {body : List FieldLine}
      {entries : List Entry} :
      Text.readNumeral? version = some 1 →
      List.Forall₂ (fun line entry => IsRecord line.fields entry) body entries →
      IsBlock (⟨first, ["start", version, filename, hash]⟩ :: (body ++ [⟨last, ["end"]⟩]))
        ⟨.ofEntries filename hash entries, last⟩

/-- The lines of blocks, one block after the other. -/
inductive IsIndex : List FieldLine → List WrittenBlock → Prop
  | nil : IsIndex [] []
  | cons {lines rest : List FieldLine} {block : WrittenBlock} {blocks : List WrittenBlock} :
      IsBlock lines block → IsIndex rest blocks → IsIndex (lines ++ rest) (block :: blocks)

/-- The events for the blocks whose file an earlier block names, where `earlier` are the names
before the first of `blocks`. -/
def duplicates (earlier : List String) : List WrittenBlock → List IndexEvent
  | [] => []
  | block :: blocks =>
    (if block.file.filename ∈ earlier then [.duplicateBlock block.file.filename block.last]
      else []) ++ duplicates (block.file.filename :: earlier) blocks

theorem duplicates_congr :
    ∀ {blocks : List WrittenBlock} {as bs : List String}, (∀ name, name ∈ as ↔ name ∈ bs) →
      duplicates as blocks = duplicates bs blocks
  | [], _, _, _ => rfl
  | block :: blocks, as, bs, h => by
    have htail : ∀ name, name ∈ block.file.filename :: as ↔ name ∈ block.file.filename :: bs := by
      simp [h]
    rw [duplicates, duplicates, duplicates_congr htail]
    simp only [h]

theorem duplicates_eq_nil :
    ∀ {blocks : List WrittenBlock} {earlier : List String},
      (blocks.map fun b => b.file.filename).Nodup →
      (∀ b ∈ blocks, b.file.filename ∉ earlier) → duplicates earlier blocks = []
  | [], _, _, _ => rfl
  | block :: blocks, earlier, hnodup, hnew => by
    rw [List.map_cons, List.nodup_cons] at hnodup
    have hlater : ∀ b ∈ blocks, b.file.filename ∉ block.file.filename :: earlier := by
      intro b hb hmem
      rcases List.mem_cons.1 hmem with heq | hmem
      · exact hnodup.1 (heq ▸ List.mem_map_of_mem hb)
      · exact hnew b (List.mem_cons_of_mem block hb) hmem
    rw [duplicates, if_neg (hnew block (by simp)), duplicates_eq_nil hnodup.2 hlater]
    rfl

/-! ## Records -/

theorem read_eq_ok_iff {head : String} {fields : List String} {entry : Entry} :
    Entry.read head fields = .ok entry ↔ Decodes head fields entry := by
  constructor
  · intro h
    unfold Entry.read at h
    split at h
    · rename_i hmeta
      subst hmeta
      split at h
      · cases h
      · obtain ⟨l, hl, rfl⟩ := map_eq_ok_iff.1 h
        exact .link hl
    · rename_i hmeta
      split at h
      · rename_i name hname
        obtain ⟨d, hd, rfl⟩ := map_eq_ok_iff.1 h
        rw [Entry.declarationName?_eq_some hname]
        exact .declaration hd
      · rename_i hname
        obtain ⟨o, ho, rfl⟩ := map_eq_ok_iff.1 h
        refine .occurrence hmeta (fun name hn => ?_) ho
        rw [hn, Entry.declarationName?_append] at hname
        cases hname
  · intro h
    cases h with
    | link hl => simp [Entry.read, hl, Except.map]
    | @declaration name _ _ hd =>
      -- The two words end in different letters.
      have hmeta : name ++ "def" ≠ "meta" := by
        intro he
        have hlast := congrArg (fun s => s.toList.getLast?) he
        simp at hlast
      simp [Entry.read, hmeta, Entry.declarationName?_append, hd, Except.map]
    | occurrence hmeta hdef ho =>
      have hname : Entry.declarationName? head = none := by
        rcases hn : Entry.declarationName? head with _ | name
        · rfl
        · exact absurd (Entry.declarationName?_eq_some hn) (hdef name)
      simp [Entry.read, hmeta, hname, ho, Except.map]

theorem isRecord_iff {head : String} {fields : List String} {entry : Entry} :
    IsRecord (head :: fields) entry ↔
      head ≠ "start" ∧ head ≠ "end" ∧ Entry.read head fields = .ok entry := by
  rw [read_eq_ok_iff]
  constructor
  · rintro ⟨hs, he, hd⟩
    exact ⟨hs, he, hd⟩
  · rintro ⟨hs, he, hd⟩
    exact .intro hs he hd

theorem exists_isRecord_of_mem {body : List FieldLine} {entries : List Entry} {entry : Entry}
    (h : List.Forall₂ (fun line entry => IsRecord line.fields entry) body entries)
    (hmem : entry ∈ entries) : ∃ fields, IsRecord fields entry := by
  induction h with
  | nil => cases hmem
  | cons hrecord _ ih =>
    rcases List.mem_cons.1 hmem with rfl | hmem
    · exact ⟨_, hrecord⟩
    · exact ih hmem

/-- The declarations of a block are normalized. -/
theorem normalize_of_isIndex {lines : List FieldLine} {blocks : List WrittenBlock}
    (h : IsIndex lines blocks) :
    ∀ block ∈ blocks, ∀ d ∈ block.file.declarations, d.normalize = d := by
  induction h with
  | nil => simp
  | cons hblock _ ih =>
    refine List.forall_mem_cons.2 ⟨?_, ih⟩
    obtain ⟨-, hbody⟩ := hblock
    intro d hd
    obtain ⟨entry, hentry, hd⟩ := List.mem_filterMap.1 hd
    obtain ⟨_, -, -, hdecodes⟩ := exists_isRecord_of_mem hbody hentry
    cases hdecodes with
    | link _ => cases hd
    | declaration hread =>
      cases hd
      exact Declaration.normalize_of_read hread
    | occurrence _ _ _ => cases hd

/-! ## What is left of an index -/

/-- The lines and blocks that are left between blocks, or inside the block of a file whose records
so far are in `file`. -/
inductive Rest : Option FileIndex → List FieldLine → List WrittenBlock → Prop
  | between {lines : List FieldLine} {blocks : List WrittenBlock} :
      IsIndex lines blocks → Rest none lines blocks
  | inside {file : FileIndex} {body rest : List FieldLine} {entries : List Entry} {last : Nat}
      {blocks : List WrittenBlock} :
      List.Forall₂ (fun line entry => IsRecord line.fields entry) body entries →
      IsIndex rest blocks →
      Rest (some file) (body ++ ⟨last, ["end"]⟩ :: rest)
        (⟨entries.foldl FileIndex.push file, last⟩ :: blocks)

theorem isIndex_cons_iff {line : FieldLine} {lines : List FieldLine}
    {blocks : List WrittenBlock} :
    IsIndex (line :: lines) blocks ↔
      ∃ version filename hash, line.fields = ["start", version, filename, hash] ∧
        Text.readNumeral? version = some 1 ∧
        Rest (some ⟨filename, hash, [], [], []⟩) lines blocks := by
  constructor
  · intro h
    generalize hl : line :: lines = ls at h
    cases h with
    | nil => cases hl
    | cons hblock hrest =>
      obtain ⟨hv, hbody⟩ := hblock
      rw [List.cons_append, List.append_assoc] at hl
      obtain ⟨rfl, rfl⟩ := List.cons.inj hl
      refine ⟨_, _, _, rfl, hv, ?_⟩
      rw [FileIndex.ofEntries_eq_foldl]
      exact .inside hbody hrest
  · rintro ⟨version, filename, hash, hline, hv, hrest⟩
    obtain ⟨number, fields⟩ := line
    simp only at hline
    subst hline
    generalize hf : some (⟨filename, hash, [], [], []⟩ : FileIndex) = file at hrest
    cases hrest with
    | between _ => cases hf
    | @inside file body rest entries last blocks hbody hindex =>
      cases hf
      rw [← FileIndex.ofEntries_eq_foldl]
      have hblock := @IsBlock.intro number last version filename hash body entries hv hbody
      simpa using IsIndex.cons hblock hindex

theorem rest_none_iff {lines : List FieldLine} {blocks : List WrittenBlock} :
    Rest none lines blocks ↔ IsIndex lines blocks := by
  constructor
  · rintro ⟨h⟩
    exact h
  · exact .between

theorem rest_some_cons_iff {file : FileIndex} {line : FieldLine} {lines : List FieldLine}
    {blocks : List WrittenBlock} :
    Rest (some file) (line :: lines) blocks ↔
      (line.fields = ["end"] ∧
        ∃ later, blocks = ⟨file, line.number⟩ :: later ∧ Rest none lines later) ∨
      ∃ entry, IsRecord line.fields entry ∧ Rest (some (file.push entry)) lines blocks := by
  constructor
  · intro h
    generalize hl : line :: lines = ls at h
    generalize hf : some file = f at h
    cases h with
    | between _ => cases hf
    | inside hbody hindex =>
      cases hf
      cases hbody with
      | nil =>
        obtain ⟨rfl, rfl⟩ := List.cons.inj hl
        exact .inl ⟨rfl, _, rfl, .between hindex⟩
      | cons hrecord hbody =>
        obtain ⟨rfl, rfl⟩ := List.cons.inj hl
        exact .inr ⟨_, hrecord, .inside hbody hindex⟩
  · rintro (⟨hend, later, rfl, ⟨hindex⟩⟩ | ⟨entry, hrecord, hrest⟩)
    · obtain ⟨number, fields⟩ := line
      simp only at hend
      subst hend
      exact @Rest.inside file [] lines [] number later .nil hindex
    · generalize hf : some (file.push entry) = f at hrest
      cases hrest with
      | between _ => cases hf
      | inside hbody hindex =>
        cases hf
        exact .inside (.cons hrecord hbody) hindex

theorem rest_nil_iff {file : Option FileIndex} {blocks : List WrittenBlock} :
    Rest file [] blocks ↔ file = none ∧ blocks = [] := by
  constructor
  · intro h
    generalize hl : ([] : List FieldLine) = ls at h
    cases h with
    | between hindex =>
      cases hindex with
      | nil => exact ⟨rfl, rfl⟩
      | cons hblock _ =>
        obtain ⟨_, _⟩ := hblock
        cases hl
    | inside _ _ => simp at hl
  · rintro ⟨rfl, rfl⟩
    exact .between .nil

/-! ## Reading -/

/-- The lines `raws` lead the reader to the end of an index, which is `index` then, with `events`
reported. -/
def Completes (r : Reader) (raws : List String) (index : Index) (events : List IndexEvent) : Prop :=
  Splittable raws ∧ ∃ blocks, Rest (r.block.map Block.file) (fieldLines r.line raws) blocks ∧
    index = (blocks.map WrittenBlock.file).foldl Index.add r.index ∧
    events = r.events ++ duplicates r.index.keys blocks

/-- Filing a block reports it if its name is there already, and later blocks are compared with its
name too. -/
theorem duplicates_add (index : Index) (file : FileIndex) (last : Nat)
    (blocks : List WrittenBlock) :
    duplicates index.keys (⟨file, last⟩ :: blocks) =
      (if index.contains file.filename then [.duplicateBlock file.filename last] else []) ++
        duplicates (index.add file).keys blocks := by
  have hkeys : ∀ name, name ∈ file.filename :: index.keys ↔ name ∈ (index.add file).keys := by
    intro name
    rw [Index.add, OrderedMap.mem_keys_insert, List.mem_cons, or_comm]
  rw [duplicates, duplicates_congr hkeys]
  simp only [OrderedMap.contains_iff_mem_keys]

theorem completes_nil_iff {r : Reader} {index : Index} {events : List IndexEvent} :
    Completes r [] index events ↔ r.block = none ∧ index = r.index ∧ events = r.events := by
  constructor
  · rintro ⟨-, blocks, hrest, hindex, hevents⟩
    obtain ⟨hb, rfl⟩ := rest_nil_iff.1 hrest
    exact ⟨Option.map_eq_none_iff.1 hb, hindex, by simpa [duplicates] using hevents⟩
  · rintro ⟨hb, rfl, rfl⟩
    refine ⟨by simp [Splittable], [], ?_, rfl, by simp [duplicates]⟩
    exact rest_nil_iff.2 ⟨by rw [hb]; rfl, rfl⟩

theorem Completes.of_step {r s : Reader} {raw : String} {raws : List String} {index : Index}
    {events : List IndexEvent} (hs : r.step raw = .ok s) (h : Completes s raws index events) :
    Completes r (raw :: raws) index events := by
  obtain ⟨fields, hf, hstep⟩ := Reader.step_eq_ok_iff.1 hs
  obtain ⟨hsplit, blocks, hrest, hindex, hevents⟩ := h
  refine ⟨List.forall_mem_cons.2 ⟨⟨fields, hf⟩, hsplit⟩, ?_⟩
  cases hstep with
  | blank =>
    refine ⟨blocks, ?_, hindex, hevents⟩
    simpa only [fieldLines, hf] using hrest
  | start hb hv =>
    refine ⟨blocks, ?_, hindex, hevents⟩
    simp only [fieldLines, hf, hb, Option.map_none]
    exact rest_none_iff.2 (isIndex_cons_iff.2 ⟨_, _, _, rfl, hv, hrest⟩)
  | record hstart hend hb hread =>
    refine ⟨blocks, ?_, hindex, hevents⟩
    simp only [fieldLines, hf, hb, Option.map_some]
    exact rest_some_cons_iff.2 (.inr ⟨_, isRecord_iff.2 ⟨hstart, hend, hread⟩, hrest⟩)
  | @finish block hb =>
    refine ⟨⟨block.file, r.line + 1⟩ :: blocks, ?_, hindex, ?_⟩
    · simp only [fieldLines, hf, hb, Option.map_some]
      exact rest_some_cons_iff.2 (.inl ⟨rfl, blocks, rfl, hrest⟩)
    · rw [hevents, duplicates_add, List.append_assoc]

theorem Completes.exists_step {r : Reader} {raw : String} {raws : List String} {index : Index}
    {events : List IndexEvent} (h : Completes r (raw :: raws) index events) :
    ∃ s, r.step raw = .ok s ∧ Completes s raws index events := by
  obtain ⟨hsplit, blocks, hrest, hindex, hevents⟩ := h
  obtain ⟨⟨fields, hf⟩, hraws⟩ := List.forall_mem_cons.1 hsplit
  suffices hstep : ∃ s, Reader.Step r fields s ∧ Completes s raws index events by
    obtain ⟨s, hstep, hs⟩ := hstep
    exact ⟨s, Reader.step_eq_ok_iff.2 ⟨fields, hf, hstep⟩, hs⟩
  rcases fields with _ | ⟨head, fields⟩
  · simp only [fieldLines, hf] at hrest
    exact ⟨_, .blank, hraws, blocks, hrest, hindex, hevents⟩
  · simp only [fieldLines, hf] at hrest
    -- What the rest begins with depends on whether a block is open.
    rcases hb : r.block with _ | block
    · rw [hb, Option.map_none, rest_none_iff, isIndex_cons_iff] at hrest
      obtain ⟨version, filename, hash, hfields, hv, hrest⟩ := hrest
      rw [show head :: fields = _ from hfields]
      exact ⟨_, .start hb hv, hraws, blocks, hrest, hindex, hevents⟩
    · rw [hb, Option.map_some, rest_some_cons_iff] at hrest
      rcases hrest with ⟨hfields, later, rfl, hrest⟩ | ⟨entry, hrecord, hrest⟩
      · rw [show head :: fields = _ from hfields]
        refine ⟨_, .finish hb, hraws, later, hrest, hindex, ?_⟩
        rw [hevents, duplicates_add, List.append_assoc]
      · obtain ⟨hstart, hend, hread⟩ := isRecord_iff.1 hrecord
        exact ⟨_, .record hstart hend hb hread, hraws, blocks, hrest, hindex, hevents⟩

/-- The reader ends well on the lines that complete an index, and on no other. -/
theorem after_iff_completes {index : Index} {events : List IndexEvent} :
    ∀ {raws : List String} {r : Reader},
      (∃ r', r.after raws = .ok r' ∧ r'.block = none ∧ index = r'.index ∧ events = r'.events) ↔
        Completes r raws index events
  | [], r => by
    rw [completes_nil_iff]
    constructor
    · rintro ⟨r', hr, h⟩
      cases hr
      exact h
    · intro h
      exact ⟨r, rfl, h⟩
  | raw :: raws, r => by
    constructor
    · rintro ⟨r', hr, h⟩
      obtain ⟨s, hs, hr⟩ := Reader.after_cons_eq_ok.1 hr
      exact .of_step hs (after_iff_completes.1 ⟨r', hr, h⟩)
    · intro h
      obtain ⟨s, hs, h⟩ := h.exists_step
      obtain ⟨r', hr, h⟩ := after_iff_completes.2 h
      exact ⟨r', Reader.after_cons_eq_ok.2 ⟨s, hs, hr⟩, h⟩

theorem run_eq_ok_iff {r : Reader} {raws : List String} {index : Index}
    {events : List IndexEvent} :
    r.run raws = ⟨events, .ok index⟩ ↔ Completes r raws index events := by
  rw [← after_iff_completes]
  constructor
  · intro h
    rcases ha : r.after raws with e | r'
    · have hout := Reader.outcome_run_of_error ha
      rw [h] at hout
      cases hout
    · rw [Reader.run_of_after ha] at h
      simp only [Reading.mk.injEq, Reader.finish] at h
      obtain ⟨hevents, hfinish⟩ := h
      split at hfinish
      · cases hfinish
      · rename_i hb
        cases hfinish
        exact ⟨r', rfl, hb, rfl, hevents.symm⟩
  · rintro ⟨r', hr, hb, rfl, rfl⟩
    rw [Reader.run_of_after hr, Reader.finish, hb]

theorem parse_eq_ok_iff {text : String} {index : Index} {events : List IndexEvent} :
    Index.parse text = ⟨events, .ok index⟩ ↔
      Splittable (Text.lines text) ∧
        ∃ blocks, IsIndex (fieldLines 0 (Text.lines text)) blocks ∧
          index = Index.ofFiles (blocks.map WrittenBlock.file) ∧ events = duplicates [] blocks := by
  rw [Index.parse, run_eq_ok_iff]
  refine and_congr_right fun _ => exists_congr fun blocks => ?_
  refine and_congr rest_none_iff (and_congr_right fun _ => ?_)
  simp [Reader.new, OrderedMap.keys, OrderedMap.empty]

theorem outcome_eq_ok_iff {text : String} {index : Index} :
    (Index.parse text).outcome = .ok index ↔
      Splittable (Text.lines text) ∧
        ∃ blocks, IsIndex (fieldLines 0 (Text.lines text)) blocks ∧
          index = Index.ofFiles (blocks.map WrittenBlock.file) := by
  constructor
  · intro h
    have hparse : Index.parse text = ⟨(Index.parse text).events, .ok index⟩ := by rw [← h]
    obtain ⟨hsplit, blocks, hblocks, hindex, -⟩ := parse_eq_ok_iff.1 hparse
    exact ⟨hsplit, blocks, hblocks, hindex⟩
  · rintro ⟨hsplit, blocks, hblocks, hindex⟩
    exact congrArg Reading.outcome (parse_eq_ok_iff.2 ⟨hsplit, blocks, hblocks, hindex, rfl⟩)

/-- A text reads as an index exactly if each of its lines can be split and the lines that are not
blank are blocks. The index is that of the blocks, and each block whose file an earlier one names is
reported with its last line. -/
theorem parse_succeeds_iff_isIndex (text : String) :
    ((∃ index, (Index.parse text).outcome = .ok index) ↔
      Splittable (Text.lines text) ∧ ∃ blocks, IsIndex (fieldLines 0 (Text.lines text)) blocks) ∧
    ∀ index events, Index.parse text = ⟨events, .ok index⟩ ↔
      Splittable (Text.lines text) ∧
        ∃ blocks, IsIndex (fieldLines 0 (Text.lines text)) blocks ∧
          index.Collects (blocks.map WrittenBlock.file) ∧ events = duplicates [] blocks := by
  refine ⟨⟨?_, ?_⟩, fun index events => ?_⟩
  · rintro ⟨index, h⟩
    obtain ⟨hsplit, blocks, hblocks, -⟩ := outcome_eq_ok_iff.1 h
    exact ⟨hsplit, blocks, hblocks⟩
  · rintro ⟨hsplit, blocks, hblocks⟩
    exact ⟨_, outcome_eq_ok_iff.2 ⟨hsplit, blocks, hblocks, rfl⟩⟩
  · simp only [Index.collects_iff]
    exact parse_eq_ok_iff

end Grammar

end RangeIndex
