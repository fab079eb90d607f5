/-!
# Maps in insertion order

A finite map that remembers the order in which its keys were first inserted. Inserting under a key
that is present keeps the key's place and replaces its value.

`get?_insert` says what an insertion does to a look-up, `keys_insert` what it does to the order.
-/

namespace RangeIndex

/-- A map from keys to values, each key once, in the order of first insertion. -/
structure OrderedMap (κ β : Type) where
  entries : List (κ × β)
  nodup : (entries.map Prod.fst).Nodup
deriving DecidableEq

namespace OrderedMap

variable {κ β : Type} [DecidableEq κ]

instance : Inhabited (OrderedMap κ β) := ⟨⟨[], .nil⟩⟩

/-- The map without keys. -/
def empty : OrderedMap κ β := ⟨[], .nil⟩

/-- The keys in order. -/
def keys (m : OrderedMap κ β) : List κ :=
  m.entries.map Prod.fst

/-- The values in the order of their keys. -/
def values (m : OrderedMap κ β) : List β :=
  m.entries.map Prod.snd

/-- The number of keys. -/
def size (m : OrderedMap κ β) : Nat :=
  m.entries.length

/-- The value under a key. -/
def get? (m : OrderedMap κ β) (k : κ) : Option β :=
  m.entries.lookup k

/-- Whether a key is present. -/
def contains (m : OrderedMap κ β) (k : κ) : Bool :=
  (m.get? k).isSome

/-- Puts a value under a key of a list of entries: in place if the key is there, else at the
end. -/
def put (k : κ) (v : β) : List (κ × β) → List (κ × β)
  | [] => [(k, v)]
  | e :: rest => if e.1 = k then (k, v) :: rest else e :: put k v rest

theorem keys_put (k : κ) (v : β) (es : List (κ × β)) :
    (put k v es).map Prod.fst =
      if k ∈ es.map Prod.fst then es.map Prod.fst else es.map Prod.fst ++ [k] := by
  induction es with
  | nil => simp [put]
  | cons e rest ih =>
    by_cases h : e.1 = k
    · simp [put, h]
    · have h' : k ≠ e.1 := fun he => h he.symm
      simp only [put, h, if_false, List.map_cons, ih, List.mem_cons, h', false_or]
      split <;> simp

theorem nodup_put (k : κ) (v : β) {es : List (κ × β)} (h : (es.map Prod.fst).Nodup) :
    ((put k v es).map Prod.fst).Nodup := by
  rw [keys_put]
  split
  · exact h
  · next hk => exact List.nodup_append.2 ⟨h, by simp, by rintro a ha b hb rfl; simp_all⟩

theorem lookup_put (k k' : κ) (v : β) (es : List (κ × β)) :
    (put k v es).lookup k' = if k' = k then some v else es.lookup k' := by
  have beq_false {a b : κ} (h : a ≠ b) : (a == b) = false := by simpa using h
  induction es with
  | nil => by_cases h : k' = k <;> simp [put, List.lookup_cons, h, beq_false]
  | cons e rest ih =>
    obtain ⟨a, b⟩ := e
    by_cases h : a = k
    · by_cases h' : k' = k <;> simp [put, List.lookup_cons, h, h', beq_false]
    · by_cases h' : k' = a
      · subst h'; simp [put, h]
      · simp [put, List.lookup_cons, h, beq_false h', ih]

/-- Puts a value under a key. -/
def insert (m : OrderedMap κ β) (k : κ) (v : β) : OrderedMap κ β :=
  ⟨put k v m.entries, nodup_put k v m.nodup⟩

@[simp]
theorem get?_empty (k : κ) : (empty : OrderedMap κ β).get? k = none := rfl

theorem get?_insert (m : OrderedMap κ β) (k k' : κ) (v : β) :
    (m.insert k v).get? k' = if k' = k then some v else m.get? k' :=
  lookup_put k k' v m.entries

theorem keys_insert (m : OrderedMap κ β) (k : κ) (v : β) :
    (m.insert k v).keys = if k ∈ m.keys then m.keys else m.keys ++ [k] :=
  keys_put k v m.entries

end OrderedMap

end RangeIndex
