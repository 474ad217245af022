/-!
# Dictionaries

A dictionary assigns values to finitely many keys and remembers the order in which the keys came.
Inserting a key anew keeps its place and replaces its value. The entries are what a dictionary
shows to the outside, so its order is part of it.
-/

namespace SwiftStubs

variable {α β : Type}

/-- Replaces the value of a key where the key stands, or else adds the key at the end. -/
def insertEntry [DecidableEq α] (k : α) (v : β) : List (α × β) → List (α × β)
  | [] => [(k, v)]
  | (l, w) :: rest => if k = l then (k, v) :: rest else (l, w) :: insertEntry k v rest

/-- Inserting a present key keeps the keys, and a new one comes last. -/
theorem keys_insertEntry [DecidableEq α] (k : α) (v : β) (es : List (α × β)) :
  (insertEntry k v es).map Prod.fst
    = if k ∈ es.map Prod.fst then es.map Prod.fst else es.map Prod.fst ++ [k]
  := by
  induction es with
  | nil => simp [insertEntry]
  | cons e es ih =>
      obtain ⟨l, w⟩ := e
      by_cases h : k = l
      · simp [insertEntry, h]
      · simp only [insertEntry, h, if_false, List.map_cons, List.mem_cons, false_or, ih]
        split <;> rfl

theorem nodup_keys_insertEntry [DecidableEq α] (k : α) (v : β) {es : List (α × β)}
    (h : (es.map Prod.fst).Nodup) :
  ((insertEntry k v es).map Prod.fst).Nodup
  := by
  rw [keys_insertEntry]
  split
  · exact h
  · next hk =>
      apply List.nodup_append.mpr
      refine ⟨h, by simp, ?_⟩
      rintro a ha b hb rfl
      rw [List.mem_singleton.mp hb] at ha
      exact hk ha

/-- Values for finitely many keys, in the order in which the keys came. -/
structure Dictionary (α β : Type) where
  entries : List (α × β)
  nodup_keys : (entries.map Prod.fst).Nodup

namespace Dictionary

/-- The dictionary without keys. -/
def empty : Dictionary α β where
  entries := []
  nodup_keys := List.nodup_nil

instance : EmptyCollection (Dictionary α β) := ⟨empty⟩

instance : Inhabited (Dictionary α β) := ⟨empty⟩

/-- The values, in the order of their keys. -/
def values (d : Dictionary α β) : List β :=
  d.entries.map Prod.snd

variable [DecidableEq α]

/-- The value of a key. -/
def get? (d : Dictionary α β) (k : α) : Option β :=
  d.entries.lookup k

/-- Whether a key has a value. -/
def contains (d : Dictionary α β) (k : α) : Bool :=
  (d.get? k).isSome

/-- Assigns a value to a key. -/
def insert (d : Dictionary α β) (k : α) (v : β) : Dictionary α β where
  entries := insertEntry k v d.entries
  nodup_keys := nodup_keys_insertEntry k v d.nodup_keys

/-- Inserts pairs one after the other. -/
def insertMany (d : Dictionary α β) (es : List (α × β)) : Dictionary α β :=
  es.foldl (fun d e => d.insert e.1 e.2) d

/-- The dictionary of some pairs. Of two pairs with one key the later gives the value. -/
def ofList (es : List (α × β)) : Dictionary α β :=
  empty.insertMany es

@[simp]
theorem get?_empty (k : α) :
  (empty : Dictionary α β).get? k = none
  := rfl

/-- Inserting changes the value of the inserted key alone. -/
@[simp]
theorem get?_insert (d : Dictionary α β) (k l : α) (v : β) :
  (d.insert k v).get? l = if l = k then some v else d.get? l
  := by
  obtain ⟨es, hes⟩ := d
  simp only [insert, get?]
  clear hes
  induction es with
  | nil =>
      by_cases h : l = k
      · simp [insertEntry, h]
      · have hlk : (l == k) = false := by simpa using h
        simp [insertEntry, List.lookup_cons, h, hlk]
  | cons e es ih =>
      obtain ⟨m, w⟩ := e
      by_cases hlm : l = m
      · subst hlm
        by_cases hk : k = l
        · simp [insertEntry, hk]
        · simp [insertEntry, hk, Ne.symm hk]
      · have hlm' : (l == m) = false := by simpa using hlm
        by_cases hk : k = m
        · subst hk
          simp [insertEntry, List.lookup_cons, hlm, hlm']
        · simp [insertEntry, hk, List.lookup_cons, hlm', ih]

end Dictionary

end SwiftStubs
