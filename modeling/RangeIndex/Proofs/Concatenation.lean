import RangeIndex.Proofs.IndexFiles
import RangeIndex.Proofs.LineText
import RangeIndex.Proofs.ReaderSteps

/-!
# Indexes written one after the other

A text that reads as an index, with another text behind it, reads as the two indexes merged: the
files of the second go into the first, one after the other. If the second text is no index, the
error is its own, with the lines counted from the start of the first text.

The second text may name a file twice, and its own index keeps only the later one, while the reader
of the whole text meets both. That this makes no difference is `OrderedMap.merge_insert`. `Resumes`
compares a reader that has the first text behind it with one that has not, and both go on alike
(`Resumes.step`, `Resumes.step_error`).
-/

namespace RangeIndex

namespace OrderedMap

variable {κ β : Type} [DecidableEq κ]

/-- The map `m` with the entries of `n` put into it, one after the other. -/
def merge (m n : OrderedMap κ β) : OrderedMap κ β :=
  n.entries.foldl (fun m e => m.insert e.1 e.2) m

theorem keys_foldl_insert :
    ∀ {es : List (κ × β)} (m : OrderedMap κ β), (es.map Prod.fst).Nodup →
      (es.foldl (fun m e => m.insert e.1 e.2) m).keys =
        m.keys ++ (es.map Prod.fst).filter (· ∉ m.keys)
  | [], m, _ => by simp
  | e :: es, m, h => by
    obtain ⟨he, hes⟩ := List.nodup_cons.1 h
    rw [List.foldl_cons, keys_foldl_insert _ hes, keys_insert, List.map_cons]
    split
    · rename_i hmem
      simp [hmem]
    · rename_i hmem
      have hfilter : (es.map Prod.fst).filter (· ∉ m.keys ++ [e.1]) =
          (es.map Prod.fst).filter (· ∉ m.keys) := by
        refine List.filter_congr fun k hk => ?_
        have hne : k ≠ e.1 := fun heq => he (heq ▸ hk)
        simp [hne]
      rw [hfilter, List.filter_cons_of_pos (by simpa using hmem), List.append_assoc]
      rfl

theorem get?_foldl_insert (k : κ) :
    ∀ {es : List (κ × β)} (m : OrderedMap κ β), (es.map Prod.fst).Nodup →
      (es.foldl (fun m e => m.insert e.1 e.2) m).get? k = (es.lookup k).or (m.get? k)
  | [], m, _ => rfl
  | e :: es, m, h => by
    obtain ⟨he, hes⟩ := List.nodup_cons.1 h
    rw [List.foldl_cons, get?_foldl_insert k _ hes, get?_insert, List.lookup_cons]
    by_cases hk : k = e.1
    · have hnone : es.lookup k = none := by
        refine List.lookup_eq_none_iff.2 fun p hp => ?_
        exact bne_iff_ne.2 fun heq => he (hk ▸ heq ▸ List.mem_map_of_mem hp)
      rw [hnone, if_pos hk, beq_iff_eq.2 hk]
      rfl
    · have hbeq : (k == e.1) = false := by simpa using hk
      simp [hk, hbeq]

/-- The keys of `m` keep their places, and those that only `n` has follow in its order. -/
theorem keys_merge (m n : OrderedMap κ β) :
    (m.merge n).keys = m.keys ++ n.keys.filter (· ∉ m.keys) :=
  keys_foldl_insert m n.nodup

/-- What `n` has under a key takes the place of what `m` has there. -/
theorem get?_merge (m n : OrderedMap κ β) (k : κ) :
    (m.merge n).get? k = (n.get? k).or (m.get? k) :=
  get?_foldl_insert k m n.nodup

theorem merge_empty (m : OrderedMap κ β) : m.merge empty = m := rfl

/-- An insertion before merging is one after it. -/
theorem merge_insert (m n : OrderedMap κ β) (k : κ) (v : β) :
    m.merge (n.insert k v) = (m.merge n).insert k v := by
  refine eq_of_keys_of_get? ?_ fun k' => ?_
  · simp only [keys_merge, keys_insert, List.mem_append, List.mem_filter]
    by_cases hn : k ∈ n.keys <;> by_cases hm : k ∈ m.keys <;> simp [hn, hm]
  · simp only [get?_merge, get?_insert]
    split <;> rfl

end OrderedMap

/-! ## Lines counted from an earlier line -/

/-- The error with the line where a block starts counted from `k` lines earlier. -/
def BlockError.shift (k : Nat) : BlockError → BlockError
  | .missingEnd start => .missingEnd (start + k)
  | .strayEnd => .strayEnd
  | .outsideBlock => .outsideBlock

/-- The error with its lines counted from `k` lines earlier. -/
def ReadError.shift (k : Nat) : ReadError → ReadError
  | .malformedLine line text cause => .malformedLine (line + k) text cause
  | .malformedBlock line cause => .malformedBlock (line + k) (cause.shift k)
  | .unreadable cause => .unreadable cause

/-- The block with its lines counted from `k` lines earlier. -/
def Block.shift (k : Nat) (b : Block) : Block :=
  { b with line := b.line + k }

namespace Reader

/-- The reader `s` is where `r` is, with the lines and the index of `base` behind it. -/
structure Resumes (base r s : Reader) : Prop where
  line : s.line = r.line + base.line
  index : s.index = base.index.merge r.index
  block : s.block = r.block.map (Block.shift base.line)

namespace Resumes

variable {base r s : Reader}

theorem block_none (h : Resumes base r s) (hb : r.block = none) : s.block = none := by
  rw [h.block, hb]
  rfl

theorem block_some (h : Resumes base r s) {block : Block} (hb : r.block = some block) :
    s.block = some (block.shift base.line) := by
  rw [h.block, hb]
  rfl

/-- Outside of a block a reader resumes from the start. -/
theorem of_new (hb : base.block = none) : Resumes base Reader.new base where
  line := (Nat.zero_add base.line).symm
  index := (OrderedMap.merge_empty base.index).symm
  block := hb

theorem next_line (h : Resumes base r s) : s.line + 1 = r.line + 1 + base.line := by
  rw [h.line]
  omega

/-- A line that fits one reader fits the other. -/
theorem step (h : Resumes base r s) {raw : String} {r' : Reader} (hr : r.step raw = .ok r') :
    ∃ s', s.step raw = .ok s' ∧ Resumes base r' s' := by
  obtain ⟨fields, hf, hstep⟩ := step_eq_ok_iff.1 hr
  suffices hs : ∃ s', Step s fields s' ∧ Resumes base r' s' by
    obtain ⟨s', hs, hresumes⟩ := hs
    exact ⟨s', step_eq_ok_iff.2 ⟨fields, hf, hs⟩, hresumes⟩
  cases hstep with
  | blank => exact ⟨_, .blank, h.next_line, h.index, h.block⟩
  | start hb hv =>
    refine ⟨_, .start (h.block_none hb) hv, h.next_line, h.index, ?_⟩
    simp [Block.shift, h.next_line]
  | record hstart hend hb hread =>
    exact ⟨_, .record hstart hend (h.block_some hb) hread, h.next_line, h.index, rfl⟩
  | finish hb =>
    refine ⟨_, .finish (h.block_some hb), h.next_line, ?_, rfl⟩
    simp only [Index.add, Block.shift, h.index, OrderedMap.merge_insert]

theorem start_error (h : Resumes base r s) {line : Nat} {raw : String} {fields : List String}
    {e : ReadError} (he : r.start line raw fields = .error e) :
    s.start (line + base.line) raw fields = .error (e.shift base.line) := by
  unfold Reader.start at he
  split at he
  · rename_i block hb
    cases he
    simp [Reader.start, h.block_some hb, ReadError.shift, BlockError.shift, Block.shift]
  · rename_i hb
    split at he
    · rename_i cause hc
      cases he
      have hc' : Block.start (line + base.line) fields = .error cause := by
        unfold Block.start at hc ⊢
        split at hc
        · simpa only [bind_eq_error_iff, pure, Except.pure, reduceCtorEq, and_false, exists_false,
            or_false] using hc
        · exact hc
      simp [Reader.start, h.block_none hb, hc', ReadError.shift]
    · cases he

theorem finishBlock_error (h : Resumes base r s) {line : Nat} {raw : String}
    {fields : List String} {e : ReadError} (he : r.finishBlock line raw fields = .error e) :
    s.finishBlock (line + base.line) raw fields = .error (e.shift base.line) := by
  unfold finishBlock at he
  split at he
  · rename_i hb
    cases he
    simp [finishBlock, h.block_none hb, ReadError.shift, BlockError.shift]
  · rename_i block hb
    split at he
    · cases he
    · rename_i hf
      cases he
      simp [finishBlock, h.block_some hb, hf, ReadError.shift]

theorem push_error (h : Resumes base r s) {line : Nat} {raw head : String}
    {fields : List String} {e : ReadError} (he : r.push line raw head fields = .error e) :
    s.push (line + base.line) raw head fields = .error (e.shift base.line) := by
  unfold push at he
  split at he
  · rename_i hb
    cases he
    simp [push, h.block_none hb, ReadError.shift, BlockError.shift]
  · rename_i block hb
    split at he
    · rename_i cause hc
      cases he
      simp [push, h.block_some hb, hc, ReadError.shift]
    · cases he

/-- A line that does not fit one reader does not fit the other, for the same reason. -/
theorem step_error (h : Resumes base r s) {raw : String} {e : ReadError}
    (he : r.step raw = .error e) : s.step raw = .error (e.shift base.line) := by
  unfold Reader.step at he ⊢
  simp only [h.next_line] at he ⊢
  split at he
  · cases he
    rfl
  · cases he
  · split_ifs at he ⊢
    · exact h.start_error he
    · exact h.finishBlock_error he
    · exact h.push_error he

theorem after :
    ∀ {raws : List String} {r s r' : Reader}, Resumes base r s → r.after raws = .ok r' →
      ∃ s', s.after raws = .ok s' ∧ Resumes base r' s'
  | [], r, s, r', h, hr => by
    cases hr
    exact ⟨s, rfl, h⟩
  | raw :: raws, r, s, r', h, hr => by
    obtain ⟨t, ht, hr⟩ := after_cons_eq_ok.1 hr
    obtain ⟨u, hu, htu⟩ := h.step ht
    obtain ⟨s', hs, h'⟩ := after htu hr
    exact ⟨s', after_cons_eq_ok.2 ⟨u, hu, hs⟩, h'⟩

theorem after_error (h : Resumes base r s) {raws : List String} {e : ReadError}
    (he : r.after raws = .error e) : s.after raws = .error (e.shift base.line) := by
  obtain ⟨before, raw, rest, t, rfl, hbefore, ht⟩ := after_eq_error he
  obtain ⟨u, hu, htu⟩ := h.after hbefore
  rw [List.append_cons]
  refine after_append_of_error ?_ rest
  rw [after_concat hu, htu.step_error ht]

theorem finish (h : Resumes base r s) {index : Index} (hr : r.finish = .ok index) :
    s.finish = .ok (base.index.merge index) := by
  unfold Reader.finish at hr
  split at hr
  · cases hr
  · rename_i hb
    cases hr
    simp [Reader.finish, h.block_none hb, h.index]

theorem finish_error (h : Resumes base r s) {e : ReadError} (he : r.finish = .error e) :
    s.finish = .error (e.shift base.line) := by
  unfold Reader.finish at he
  split at he
  · rename_i block hb
    cases he
    simp [Reader.finish, h.block_some hb, ReadError.shift, BlockError.shift, Block.shift]
  · cases he

/-- What the reader makes of a text that stands behind what `base` has read. -/
theorem outcome_run (h : Resumes base r s) (raws : List String) :
    (∀ index, (r.run raws).outcome = .ok index →
      (s.run raws).outcome = .ok (base.index.merge index)) ∧
    ∀ e, (r.run raws).outcome = .error e → (s.run raws).outcome = .error (e.shift base.line) := by
  simp only [Reader.outcome_run]
  constructor
  · intro index hr
    obtain ⟨r', hr', hfinish⟩ := bind_eq_ok_iff.1 hr
    obtain ⟨s', hs', h'⟩ := h.after hr'
    exact bind_eq_ok_iff.2 ⟨s', hs', h'.finish hfinish⟩
  · intro e he
    rcases bind_eq_error_iff.1 he with he | ⟨r', hr', hfinish⟩
    · exact bind_eq_error_iff.2 (.inl (h.after_error he))
    · obtain ⟨s', hs', h'⟩ := h.after hr'
      exact bind_eq_error_iff.2 (.inr ⟨s', hs', h'.finish_error hfinish⟩)

end Resumes

/-- A text that reads as an index leaves the reader outside of a block. -/
theorem exists_after_of_outcome {raws : List String} {index : Index}
    (h : (Reader.new.run raws).outcome = .ok index) :
    ∃ r, Reader.new.after raws = .ok r ∧ r.block = none ∧ r.index = index ∧
      r.line = raws.length := by
  rw [Reader.outcome_run] at h
  obtain ⟨r, hr, hfinish⟩ := bind_eq_ok_iff.1 h
  unfold Reader.finish at hfinish
  split at hfinish
  · cases hfinish
  · rename_i hb
    cases hfinish
    exact ⟨r, hr, hb, rfl, by simpa [Reader.new] using line_of_after hr⟩

theorem run_append {r s : Reader} {as : List String} (h : r.after as = .ok s) (bs : List String) :
    (r.run (as ++ bs)).outcome = (s.run bs).outcome := by
  simp only [Reader.outcome_run, Reader.after, List.foldlM_append] at h ⊢
  rw [h]
  rfl

end Reader

/-- An index with a text behind it: another index is merged into it, and an error is that of the
text alone, its lines counted from the start of the whole. -/
theorem parse_append_merges {a : String} {m : Index} (ha : Text.isClosed a.toList)
    (hm : (Index.parse a).outcome = .ok m) (b : String) :
    (∀ n, (Index.parse b).outcome = .ok n →
      (Index.parse (a ++ b)).outcome = .ok (m.merge n) ∧
        (m.merge n).keys = m.keys ++ n.keys.filter (· ∉ m.keys) ∧
        ∀ name, (m.merge n).get? name = (n.get? name).or (m.get? name)) ∧
    ∀ e, (Index.parse b).outcome = .error e →
      (Index.parse (a ++ b)).outcome = .error (e.shift (Text.lines a).length) := by
  obtain ⟨base, hbase, hblock, rfl, hline⟩ := Reader.exists_after_of_outcome hm
  have hrun := (Reader.Resumes.of_new hblock).outcome_run (Text.lines b)
  have hwhole : (Index.parse (a ++ b)).outcome = (base.run (Text.lines b)).outcome := by
    rw [Index.parse, Text.lines_append ha, Reader.run_append hbase]
  rw [hwhole, ← hline]
  refine ⟨fun n hn => ⟨hrun.1 n hn, ?_, ?_⟩, hrun.2⟩
  · exact OrderedMap.keys_merge base.index n
  · exact OrderedMap.get?_merge base.index n

/-- A second text that names one file twice, and one that opens a block inside another. -/
theorem parse_append_merges_repeatedFile :
    let a := "start 1 x h\nend\n# files\nstart 1 y h\nend\n"
    let b := "start 1 z h\nend\nstart 1 y g\nend\nstart 1 z k\nend"
    let x : FileIndex := ⟨"x", "h", [], [], []⟩
    let y (hash : String) : FileIndex := ⟨"y", hash, [], [], []⟩
    let z : FileIndex := ⟨"z", "k", [], [], []⟩
    Text.isClosed a.toList ∧ (Index.parse a).outcome = .ok (.ofFiles [x, y "h"]) ∧
      (Index.parse b).outcome = .ok (.ofFiles [z, y "g"]) ∧
      (Index.parse (a ++ b)).outcome = .ok (.ofFiles [x, y "g", z]) ∧
      (Index.parse (a ++ "start 1 z h\nstart 1 x h\n")).outcome =
        .error (.malformedBlock 7 (.missingEnd 6)) := by
  intro a b x y z
  have ha : Text.isClosed a.toList := by decide +kernel
  have hm : (Index.parse a).outcome = .ok (.ofFiles [x, y "h"]) := by decide +kernel
  have hn : (Index.parse b).outcome = .ok (.ofFiles [z, y "g"]) := by decide +kernel
  have hnested : (Index.parse "start 1 z h\nstart 1 x h\n").outcome =
      .error (.malformedBlock 2 (.missingEnd 1)) := by decide +kernel
  have hmerge : (Index.ofFiles [x, y "h"]).merge (Index.ofFiles [z, y "g"]) =
      Index.ofFiles [x, y "g", z] := by decide +kernel
  have hlines : (Text.lines a).length = 5 := by decide +kernel
  refine ⟨ha, hm, hn, ?_, ?_⟩
  · rw [((parse_append_merges ha hm b).1 _ hn).1, hmerge]
  · rw [(parse_append_merges ha hm _).2 _ hnested, hlines]
    rfl

end RangeIndex
