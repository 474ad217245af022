/-!
# Numbers on the wire

A number is written in groups of seven bits, the low ones first, one group a byte. The highest bit
of a byte says that another one follows.
-/

namespace SwiftStubs.Wire

/-- Reads a number of at most `limit` bytes, and gives what follows it. -/
def readNumber : Nat → List UInt8 → Option (Nat × List UInt8)
  | 0, _ => none
  | _ + 1, [] => none
  | limit + 1, b :: bs =>
    if b.toNat < 128 then some (b.toNat, bs)
    else (readNumber limit bs).map (fun (n, rest) => (b.toNat - 128 + 128 * n, rest))

/-- Writes a number. -/
def writeNumber (n : Nat) : List UInt8 :=
  if n < 128 then [n.toUInt8] else (n % 128 + 128).toUInt8 :: writeNumber (n / 128)

/-- A number takes up at least one byte. -/
theorem length_readNumber {limit n : Nat} {bs rest : List UInt8}
    (h : readNumber limit bs = some (n, rest)) :
  rest.length < bs.length
  := by
  induction limit generalizing n bs with
  | zero => simp [readNumber] at h
  | succ limit ih =>
      cases bs with
      | nil => simp [readNumber] at h
      | cons b bs =>
          simp only [readNumber] at h
          split at h
          · obtain ⟨-, rfl⟩ := Prod.mk.inj (Option.some.inj h)
            exact Nat.lt_succ_self _
          · obtain ⟨⟨m, more⟩, hm, he⟩ := Option.map_eq_some_iff.mp h
            obtain ⟨-, rfl⟩ := Prod.mk.inj he
            exact Nat.lt_succ_of_lt (ih hm)

/-- Reads numbers up to the end. -/
def readNumbers (bs : List UInt8) : Option (List Nat) :=
  if bs.isEmpty then some []
  else
    match _found : readNumber 10 bs with
    | none => none
    | some (n, rest) => (readNumbers rest).map (n % 0x10000000000000000 :: ·)
termination_by bs.length
decreasing_by exact length_readNumber _found

end SwiftStubs.Wire
