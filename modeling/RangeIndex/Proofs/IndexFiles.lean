import Mathlib.Data.List.Induction
import RangeIndex.Index.File

/-!
# An index as the files added to it

`Index.ofFiles` adds files one after the other. The index it gives has each name once, where the
name was met first (`Index.keys_ofFiles`), and under it the last file of that name
(`Index.get?_ofFiles`), and it is the only index of that kind (`Index.collects_iff`). Files of
distinct names all stay, in their order (`Index.entries_ofFiles_of_nodup`).
-/

namespace RangeIndex

namespace OrderedMap

variable {κ β : Type} [DecidableEq κ]

theorem put_of_not_mem {k : κ} (v : β) {es : List (κ × β)} (h : k ∉ es.map Prod.fst) :
    put k v es = es ++ [(k, v)] := by
  induction es with
  | nil => rfl
  | cons e es ih =>
    simp only [List.map_cons, List.mem_cons, not_or] at h
    rw [put, if_neg fun he => h.1 he.symm, ih h.2, List.cons_append]

theorem contains_iff_mem_keys (m : OrderedMap κ β) (k : κ) : m.contains k ↔ k ∈ m.keys := by
  simp only [contains, get?, List.lookup_isSome_iff, keys, List.mem_map, beq_iff_eq]
  exact ⟨fun ⟨e, he, hk⟩ => ⟨e, he, hk.symm⟩, fun ⟨e, he, hk⟩ => ⟨e, he, hk.symm⟩⟩

theorem mem_keys_insert (m : OrderedMap κ β) (k k' : κ) (v : β) :
    k' ∈ (m.insert k v).keys ↔ k' ∈ m.keys ∨ k' = k := by
  rw [keys_insert]
  split
  · rename_i hk
    exact ⟨.inl, fun h => h.elim id fun h => h ▸ hk⟩
  · simp

theorem mem_put {k : κ} {v : β} {es : List (κ × β)} {e : κ × β} (h : e ∈ put k v es) :
    e = (k, v) ∨ e ∈ es := by
  induction es with
  | nil => exact .inl (by simpa [put] using h)
  | cons a es ih =>
    rw [put] at h
    split at h
    · rcases List.mem_cons.1 h with rfl | h
      · exact .inl rfl
      · exact .inr (List.mem_cons_of_mem a h)
    · rcases List.mem_cons.1 h with rfl | h
      · exact .inr (by simp)
      · exact (ih h).imp_right (List.mem_cons_of_mem a)

theorem get?_of_mem {m : OrderedMap κ β} {e : κ × β} (h : e ∈ m.entries) :
    m.get? e.1 = some e.2 := by
  obtain ⟨before, after, hentries⟩ := List.append_of_mem h
  refine List.lookup_eq_some_iff.2 ⟨before, after, hentries, fun p hp => ?_⟩
  have hnodup := m.nodup
  rw [hentries, List.map_append, List.nodup_append] at hnodup
  have hne := hnodup.2.2 p.1 (List.mem_map_of_mem hp) e.1 (by simp)
  exact bne_iff_ne.2 hne.symm

theorem get?_eq_some_iff {m : OrderedMap κ β} {k : κ} {v : β} :
    m.get? k = some v ↔ (k, v) ∈ m.entries := by
  constructor
  · intro h
    obtain ⟨before, after, hentries, -⟩ := List.lookup_eq_some_iff.1 h
    simp [hentries]
  · exact fun h => get?_of_mem h

/-- A map is its keys in order and what stands under each. -/
theorem eq_of_keys_of_get? {m n : OrderedMap κ β} (hkeys : m.keys = n.keys)
    (hget : ∀ k, m.get? k = n.get? k) : m = n := by
  -- The keys with what stands under each are the entries again, since no key is there twice.
  have hlist (m : OrderedMap κ β) :
      m.entries.map (fun e => (e.1, some e.2)) = m.keys.map fun k => (k, m.get? k) := by
    rw [keys, List.map_map]
    exact List.map_congr_left fun e he => by simp [get?_of_mem he]
  have hentries : m.entries = n.entries := by
    refine (List.map_inj_right (f := fun e : κ × β => (e.1, some e.2)) ?_).1 ?_
    · rintro ⟨a, b⟩ ⟨c, d⟩ h
      simpa using h
    · rw [hlist m, hlist n, hkeys]
      exact List.map_congr_left fun k _ => by rw [hget]
  cases m
  cases n
  simpa using hentries

end OrderedMap

namespace Index

/-- The index of files that are added one after the other. -/
def ofFiles (files : List FileIndex) : Index :=
  files.foldl add OrderedMap.empty

theorem ofFiles_concat (files : List FileIndex) (f : FileIndex) :
    ofFiles (files ++ [f]) = (ofFiles files).add f := by
  simp [ofFiles]

/-- Each name once, in the order in which the names are met first. -/
theorem keys_ofFiles (files : List FileIndex) :
    (ofFiles files).keys = (files.map FileIndex.filename).eraseDups := by
  induction files using List.reverseRecOn with
  | nil => rfl
  | append_singleton files f ih =>
    rw [ofFiles_concat, add, OrderedMap.keys_insert, ih, List.map_append, List.eraseDups_append]
    simp only [List.mem_eraseDups, List.map_cons, List.map_nil]
    generalize files.map FileIndex.filename = names
    by_cases h : f.filename ∈ names
    · simp [h, List.removeAll]
    · simp [h, List.removeAll, List.eraseDups_cons]

/-- Under a name stands the last file of that name. -/
theorem get?_ofFiles (files : List FileIndex) (name : String) :
    (ofFiles files).get? name = (files.filter fun f => f.filename = name).getLast? := by
  induction files using List.reverseRecOn with
  | nil => rfl
  | append_singleton files f ih =>
    rw [ofFiles_concat, add, OrderedMap.get?_insert, ih, List.filter_append]
    by_cases h : name = f.filename
    · simp [h]
    · simp [h, Ne.symm h]

/-- An index holds the last file of each name, the names in the order of their first files. -/
structure Collects (index : Index) (files : List FileIndex) : Prop where
  keys : index.keys = (files.map FileIndex.filename).eraseDups
  get? : ∀ name, index.get? name = (files.filter fun f => f.filename = name).getLast?

theorem collects_iff {index : Index} {files : List FileIndex} :
    index.Collects files ↔ index = ofFiles files := by
  constructor
  · intro h
    refine OrderedMap.eq_of_keys_of_get? ?_ fun name => ?_
    · rw [h.keys, keys_ofFiles]
    · rw [h.get?, get?_ofFiles]
  · rintro rfl
    exact ⟨keys_ofFiles files, get?_ofFiles files⟩

theorem filename_of_mem_ofFiles {files : List FileIndex} {e : String × FileIndex}
    (h : e ∈ (ofFiles files).entries) : e.1 = e.2.filename ∧ e.2 ∈ files := by
  induction files using List.reverseRecOn with
  | nil => cases h
  | append_singleton files f ih =>
    rw [ofFiles_concat] at h
    rcases OrderedMap.mem_put h with rfl | h
    · exact ⟨rfl, by simp⟩
    · obtain ⟨hname, hmem⟩ := ih h
      exact ⟨hname, List.mem_append_left _ hmem⟩

theorem filenames_values_ofFiles (files : List FileIndex) :
    (ofFiles files).values.map FileIndex.filename = (ofFiles files).keys := by
  simp only [OrderedMap.values, OrderedMap.keys, List.map_map]
  exact List.map_congr_left fun e he => (filename_of_mem_ofFiles he).1.symm

theorem entries_ofFiles_of_nodup {files : List FileIndex}
    (h : (files.map FileIndex.filename).Nodup) :
    (ofFiles files).entries = files.map fun f => (f.filename, f) := by
  induction files using List.reverseRecOn with
  | nil => rfl
  | append_singleton files f ih =>
    simp only [List.map_append, List.map_cons, List.map_nil] at h ⊢
    obtain ⟨hfiles, -, hf⟩ := List.nodup_append.1 h
    have hnot : f.filename ∉ (ofFiles files).entries.map Prod.fst := by
      rw [ih hfiles, List.map_map]
      exact fun hmem => hf _ hmem _ (by simp) rfl
    rw [ofFiles_concat]
    show OrderedMap.put f.filename f (ofFiles files).entries = _
    rw [OrderedMap.put_of_not_mem f hnot, ih hfiles]

theorem values_ofFiles_of_nodup {files : List FileIndex}
    (h : (files.map FileIndex.filename).Nodup) : (ofFiles files).values = files := by
  rw [OrderedMap.values, entries_ofFiles_of_nodup h, List.map_map]
  exact List.map_id files

end Index

end RangeIndex
