import SwiftStubs.Wire.Varint

/-!
# Items on the wire

A message is a sequence of items. An item has the number of a field and a value: a number, bytes of
a fixed or of a stated length, or a mark that a group starts or ends. Groups are not used by the
messages read here, so they are passed over, but they have to be nested properly. Fields are
counted from one, which is not checked inside of groups.
-/

namespace SwiftStubs.Wire

/-- What an item holds. -/
inductive Value where
  | number (n : Nat)
  | bytes (bs : List UInt8)
  /-- Four or eight bytes, which no field read here holds. -/
  | fixed
  | groupStart
  | groupEnd
deriving Repr, DecidableEq

/-- A field and its value. -/
structure Item where
  id : Nat
  value : Value
deriving Repr, DecidableEq

/-- Splits off the first bytes, if there are as many. -/
def splitBytes (n : Nat) (bs : List UInt8) : Option (List UInt8 × List UInt8) :=
  if n ≤ bs.length then some (bs.take n, bs.drop n) else none

/-- Reads bytes of a stated length. -/
def readBytes (bs : List UInt8) : Option (List UInt8 × List UInt8) := do
  let (n, rest) ← readNumber 5 bs
  if n < 0x80000000 then splitBytes n rest else none

/-- Reads a value of the given wire type. -/
def readValue (wireType : Nat) (bs : List UInt8) : Option (Value × List UInt8) :=
  match wireType with
  | 0 => (readNumber 10 bs).map (fun (n, rest) => (.number (n % 0x10000000000000000), rest))
  | 1 => (splitBytes 8 bs).map (fun (_, rest) => (.fixed, rest))
  | 2 => (readBytes bs).map (fun (b, rest) => (.bytes b, rest))
  | 3 => some (.groupStart, bs)
  | 4 => some (.groupEnd, bs)
  | 5 => (splitBytes 4 bs).map (fun (_, rest) => (.fixed, rest))
  | _ => none

/-- Reads an item. Its first number holds the field and the wire type. -/
def readItem (bs : List UInt8) : Option (Item × List UInt8) :=
  match readNumber 5 bs with
  | none => none
  | some (tag, rest) =>
    if 0x100000000 ≤ tag then none
    else (readValue (tag % 8) rest).map (fun (v, rest) => (⟨tag / 8, v⟩, rest))

theorem length_splitBytes {n : Nat} {bs b rest : List UInt8}
    (h : splitBytes n bs = some (b, rest)) :
  rest.length ≤ bs.length
  := by
  unfold splitBytes at h
  split at h
  · obtain ⟨-, rfl⟩ := Prod.mk.inj (Option.some.inj h)
    simp
  · simp at h

theorem length_readBytes {bs b rest : List UInt8} (h : readBytes bs = some (b, rest)) :
  rest.length ≤ bs.length
  := by
  simp only [readBytes, Option.bind_eq_bind, Option.bind_eq_some_iff] at h
  obtain ⟨⟨n, more⟩, hn, h⟩ := h
  split at h
  · exact Nat.le_trans (length_splitBytes h) (Nat.le_of_lt (length_readNumber hn))
  · simp at h

theorem length_readValue {wireType : Nat} {v : Value} {bs rest : List UInt8}
    (h : readValue wireType bs = some (v, rest)) :
  rest.length ≤ bs.length
  := by
  unfold readValue at h
  split at h
  · obtain ⟨⟨n, more⟩, hn, he⟩ := Option.map_eq_some_iff.mp h
    obtain ⟨-, rfl⟩ := Prod.mk.inj he
    exact Nat.le_of_lt (length_readNumber hn)
  · obtain ⟨⟨b, more⟩, hb, he⟩ := Option.map_eq_some_iff.mp h
    obtain ⟨-, rfl⟩ := Prod.mk.inj he
    exact length_splitBytes hb
  · obtain ⟨⟨b, more⟩, hb, he⟩ := Option.map_eq_some_iff.mp h
    obtain ⟨-, rfl⟩ := Prod.mk.inj he
    exact length_readBytes hb
  · simp_all
  · simp_all
  · obtain ⟨⟨b, more⟩, hb, he⟩ := Option.map_eq_some_iff.mp h
    obtain ⟨-, rfl⟩ := Prod.mk.inj he
    exact length_splitBytes hb
  · simp at h

/-- An item takes up at least one byte. -/
theorem length_readItem {i : Item} {bs rest : List UInt8} (h : readItem bs = some (i, rest)) :
  rest.length < bs.length
  := by
  unfold readItem at h
  split at h
  · simp at h
  · next tag more hn =>
      split at h
      · simp at h
      · obtain ⟨⟨v, behind⟩, hv, he⟩ := Option.map_eq_some_iff.mp h
        obtain ⟨-, rfl⟩ := Prod.mk.inj he
        exact Nat.lt_of_le_of_lt (length_readValue hv) (length_readNumber hn)

/-- Reads items up to the end. -/
def readItems (bs : List UInt8) : Option (List Item) :=
  if bs.isEmpty then some []
  else
    match _found : readItem bs with
    | none => none
    | some (i, rest) => (readItems rest).map (i :: ·)
termination_by bs.length
decreasing_by exact length_readItem _found

/-- Leaves out the groups of a sequence of items, of which the fields of the opened ones are given,
the innermost first. There is none if a group ends that was not opened, or stays open, or is too
deep, or if a field outside of groups has the number zero. -/
def withoutGroups (depth : Nat) : List Nat → List Item → Option (List Item)
  | [], [] => some []
  | _ :: _, [] => none
  | opened, ⟨id, .groupStart⟩ :: is =>
    if opened.length < depth ∧ (opened ≠ [] ∨ id ≠ 0) then withoutGroups depth (id :: opened) is
    else none
  | [], ⟨_, .groupEnd⟩ :: _ => none
  | o :: opened, ⟨id, .groupEnd⟩ :: is =>
    if o = id then withoutGroups depth opened is else none
  | [], i :: is => if i.id = 0 then none else (withoutGroups depth [] is).map (i :: ·)
  | o :: opened, _ :: is => withoutGroups depth (o :: opened) is

end SwiftStubs.Wire
