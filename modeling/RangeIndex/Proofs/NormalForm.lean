import RangeIndex.Command.Format
import RangeIndex.Proofs.RoundTrip
import RangeIndex.Proofs.StableSort

/-!
# The normal form of an index

`reformat` reads an index and writes it in normal form. The draft of a file always takes its own
index over, so a file in normal form holds all its records (`isNormalOf_normalize`), and to put it
into normal form again changes nothing (`normalize_normalize`). The files of a normal form have
increasing names, so the written text has one block for each and reads back as the same files
(`parse_text`). Both together give the main statement, `reformat_is_normal_form`.
-/

namespace RangeIndex.Command.Format

open Grammar

/-- Reads an index and writes it in normal form. -/
def reformat (style : Style) (input : String) : Except ReadError String :=
  (Index.parse input).outcome.map (text style)

/-! ## One file -/

/-- `g` holds what `f` holds, with occurrences and declarations stably sorted by start. -/
structure IsNormalOf (f g : FileIndex) : Prop where
  filename : g.filename = f.filename
  hash : g.hash = f.hash
  links : g.links = f.links
  occurrences : IsStableSort (fun o : Occurrence => o.span.start) f.occurrences g.occurrences
  declarations : IsStableSort (fun d : Declaration => d.span.start) f.declarations g.declarations

theorem normalize_eq (f : FileIndex) :
    normalize f =
      { f with
        occurrences := f.occurrences.mergeSort fun a b => a.span.start ≤ b.span.start
        declarations := f.declarations.mergeSort fun a b => a.span.start ≤ b.span.start } := by
  -- The draft has the name and the hash of the file itself, so the file is current for it.
  have haccepts : (Draft.new f.filename f.hash).accepts f := by
    simp [Draft.accepts, Draft.new, FileIndex.isCurrent]
  rw [normalize, draft, Draft.loadCache, if_pos haccepts]
  rfl

theorem isNormalOf_normalize (f : FileIndex) : IsNormalOf f (normalize f) := by
  rw [normalize_eq]
  exact ⟨rfl, rfl, rfl, isStableSort_mergeSort (fun o : Occurrence => o.span.start) _,
    isStableSort_mergeSort (fun d : Declaration => d.span.start) _⟩

theorem normalize_normalize (f : FileIndex) : normalize (normalize f) = normalize f := by
  have h := isNormalOf_normalize f
  rw [normalize_eq (normalize f)]
  rw [mergeSort_key_of_pairwise (fun o : Occurrence => o.span.start) h.occurrences.sorted,
    mergeSort_key_of_pairwise (fun d : Declaration => d.span.start) h.declarations.sorted]

/-! ## The files of an index -/

theorem normalForm_perm (index : Index) :
    (normalForm index).Perm (index.values.map normalize) :=
  List.mergeSort_perm _ _

theorem filenames_normalForm_perm (files : List FileIndex) :
    ((normalForm (Index.ofFiles files)).map FileIndex.filename).Perm
      (Index.ofFiles files).keys := by
  refine ((normalForm_perm _).map _).trans (List.Perm.of_eq ?_)
  rw [List.map_map, ← Index.filenames_values_ofFiles]
  exact List.map_congr_left fun f _ => (isNormalOf_normalize f).filename

theorem nodup_filenames_normalForm (files : List FileIndex) :
    ((normalForm (Index.ofFiles files)).map FileIndex.filename).Nodup :=
  (filenames_normalForm_perm files).nodup_iff.2 (Index.ofFiles files).nodup

theorem filenames_normalForm_lt (files : List FileIndex) :
    ((normalForm (Index.ofFiles files)).map FileIndex.filename).Pairwise (· < ·) := by
  have hsorted := pairwise_mergeSort_key FileIndex.filename
    ((Index.ofFiles files).values.map normalize)
  have hne := List.pairwise_map.1 (nodup_filenames_normalForm files)
  rw [List.pairwise_map]
  exact hsorted.imp₂ (fun _ _ hle hne => Std.lt_of_le_of_ne hle hne) hne

/-- The normal form of an index in normal form is that index. -/
theorem normalForm_ofFiles_normalForm (files : List FileIndex) :
    normalForm (Index.ofFiles (normalForm (Index.ofFiles files))) =
      normalForm (Index.ofFiles files) := by
  have hsame : (normalForm (Index.ofFiles files)).map normalize =
      normalForm (Index.ofFiles files) := by
    refine (List.map_congr_left fun f hf => ?_).trans (List.map_id _)
    obtain ⟨g, -, rfl⟩ := List.mem_map.1 ((normalForm_perm _).mem_iff.1 hf)
    exact normalize_normalize g
  rw [normalForm, Index.values_ofFiles_of_nodup (nodup_filenames_normalForm files), hsame]
  exact mergeSort_key_of_pairwise FileIndex.filename (pairwise_mergeSort_key FileIndex.filename _)

theorem exists_of_mem_normalForm {files : List FileIndex} {f : FileIndex}
    (h : f ∈ normalForm (Index.ofFiles files)) :
    ∃ g ∈ files, (Index.ofFiles files).get? f.filename = some g ∧ f = normalize g := by
  obtain ⟨g, hg, rfl⟩ := List.mem_map.1 ((normalForm_perm _).mem_iff.1 h)
  obtain ⟨e, he, rfl⟩ := List.mem_map.1 hg
  obtain ⟨hname, hmem⟩ := Index.filename_of_mem_ofFiles he
  refine ⟨e.2, hmem, ?_, rfl⟩
  rw [(isNormalOf_normalize e.2).filename, ← hname]
  exact OrderedMap.get?_of_mem he

/-- The written normal form has one block for each file and reads as these files. -/
theorem parse_text {files : List FileIndex}
    (h : ∀ f ∈ files, ∀ d ∈ f.declarations, d.normalize = d) (style : Style) :
    Index.parse (text style (Index.ofFiles files)) =
      ⟨[], .ok (Index.ofFiles (normalForm (Index.ofFiles files)))⟩ := by
  obtain ⟨blocks, hblocks, hparse⟩ := parse_writeAll_eq style (normalForm (Index.ofFiles files))
  have hsame : (normalForm (Index.ofFiles files)).map FileIndex.recorded =
      normalForm (Index.ofFiles files) := by
    refine FileIndex.map_recorded_eq_self fun f hf d hd => ?_
    obtain ⟨g, hg, -, rfl⟩ := exists_of_mem_normalForm hf
    exact h g hg d ((isNormalOf_normalize g).declarations.perm.mem_iff.1 hd)
  have hnodup : (blocks.map fun b => b.file.filename).Nodup := by
    have hnames := nodup_filenames_normalForm files
    rw [← hsame, ← hblocks, List.map_map] at hnames
    exact hnames
  rw [text, hparse, hsame, duplicates_eq_nil hnodup (by simp)]

/-! ## Reformatting -/

/-- What an input that is read is made of: blocks with normalized declarations, whose files make up
its index. -/
theorem exists_blocks_of_outcome {input : String} {index : Index}
    (h : (Index.parse input).outcome = .ok index) :
    ∃ blocks, IsIndex (fieldLines 0 (Text.lines input)) blocks ∧
      index = Index.ofFiles (blocks.map WrittenBlock.file) ∧
      ∀ f ∈ blocks.map WrittenBlock.file, ∀ d ∈ f.declarations, d.normalize = d := by
  obtain ⟨-, blocks, hblocks, hindex⟩ := outcome_eq_ok_iff.1 h
  refine ⟨blocks, hblocks, hindex, fun f hf => ?_⟩
  obtain ⟨block, hblock, rfl⟩ := List.mem_map.1 hf
  exact normalize_of_isIndex hblocks block hblock

theorem reformat_eq {input : String} {index : Index}
    (h : (Index.parse input).outcome = .ok index) (style : Style) :
    reformat style input = .ok (text style index) := by
  rw [reformat, h]
  rfl

/-- Reformatting is a normal form: after a first pass in any style a further pass gives what it
would have given at once. What it writes reads back without repeated names, the names increase, they
are the names of the input's blocks, and each file holds the records of the last block of its name,
stably sorted by start. -/
theorem reformat_is_normal_form {input : String} {index : Index}
    (h : (Index.parse input).outcome = .ok index) (a b : Style) :
    (∃ out, reformat b input = .ok out ∧ reformat a out = reformat a input) ∧
    ∃ out result blocks, reformat a input = .ok out ∧ Index.parse out = ⟨[], .ok result⟩ ∧
      IsIndex (fieldLines 0 (Text.lines input)) blocks ∧
      result.keys.Pairwise (· < ·) ∧
      (∀ name, name ∈ result.keys ↔ ∃ block ∈ blocks, block.file.filename = name) ∧
      ∀ name file, result.get? name = some file →
        ∃ last, ((blocks.map WrittenBlock.file).filter fun f => f.filename = name).getLast? =
          some last ∧ IsNormalOf last file := by
  obtain ⟨blocks, hblocks, rfl, hdecls⟩ := exists_blocks_of_outcome h
  have hkeys : (Index.ofFiles (normalForm (Index.ofFiles (blocks.map WrittenBlock.file)))).keys =
      (normalForm (Index.ofFiles (blocks.map WrittenBlock.file))).map FileIndex.filename := by
    rw [← Index.filenames_values_ofFiles,
      Index.values_ofFiles_of_nodup (nodup_filenames_normalForm _)]
  constructor
  · refine ⟨_, reformat_eq h b, ?_⟩
    have hread := congrArg Reading.outcome (parse_text hdecls b)
    rw [reformat_eq h a, reformat_eq hread a, text, normalForm_ofFiles_normalForm]
    rfl
  · refine ⟨_, _, blocks, reformat_eq h a, parse_text hdecls a, hblocks, ?_, fun name => ?_, ?_⟩
    · rw [hkeys]
      exact filenames_normalForm_lt _
    · rw [hkeys, (filenames_normalForm_perm _).mem_iff, Index.keys_ofFiles, List.mem_eraseDups]
      simp
    · intro name file hfile
      rw [Index.get?_ofFiles] at hfile
      have hmem := List.mem_filter.1 (List.mem_of_getLast? hfile)
      obtain ⟨last, -, hlast, rfl⟩ := exists_of_mem_normalForm hmem.1
      rw [of_decide_eq_true hmem.2, Index.get?_ofFiles] at hlast
      exact ⟨last, hlast, isNormalOf_normalize last⟩

/-- An input with a repeated name, files out of order and records that start at the same place. -/
def repeatedInput : String :=
  "start 1 b old\nend\nstart 1 a h\nend\nstart +01 b new # again\n" ++
    "package 3 1 q\n package 3 2 p\nclassdef 5 1 C\npackage 0 1 \"\"\nend\n"

theorem reformat_is_normal_form_repeatedInput :
    (Index.parse repeatedInput).outcome =
        .ok (Index.ofFiles
          [⟨"b", "new", [⟨⟨3, 1⟩, "q", .package⟩, ⟨⟨3, 2⟩, "p", .package⟩, ⟨⟨0, 1⟩, "", .package⟩],
              [⟨.type, ⟨5, 1⟩, "C", none⟩], []⟩,
            ⟨"a", "h", [], [], []⟩]) ∧
      (∃ out, reformat .compact repeatedInput = .ok out ∧
        reformat .pretty out = reformat .pretty repeatedInput) ∧
      ∃ out result, reformat .pretty repeatedInput = .ok out ∧
        Index.parse out = ⟨[], .ok result⟩ ∧ result.keys.Pairwise (· < ·) := by
  have h : (Index.parse repeatedInput).outcome =
      .ok (Index.ofFiles
        [⟨"b", "new", [⟨⟨3, 1⟩, "q", .package⟩, ⟨⟨3, 2⟩, "p", .package⟩, ⟨⟨0, 1⟩, "", .package⟩],
            [⟨.type, ⟨5, 1⟩, "C", none⟩], []⟩,
          ⟨"a", "h", [], [], []⟩]) := by decide +kernel
  obtain ⟨hpass, out, result, _, hout, hresult, -, hkeys, -⟩ :=
    reformat_is_normal_form h .pretty .compact
  exact ⟨h, hpass, out, result, hout, hresult, hkeys⟩

end RangeIndex.Command.Format
