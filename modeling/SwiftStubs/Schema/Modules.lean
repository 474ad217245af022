import SwiftStubs.Failure
import SwiftStubs.ModuleMap
import SwiftStubs.Schema.Basic

/-!
# Needed modules

A generated file uses types of the files that the schema file imports, of those that these files
make public to whoever imports them, and so on. The modules that define these types are needed,
except the module that the generated file belongs to.
-/

namespace SwiftStubs.Schema

/-- The entry of a list at an index. Negative indexes count from the end. -/
def entryAt {α : Type} (xs : List α) (i : Int) : Option α :=
  let j := if i < 0 then i + xs.length else i
  if j < 0 then none else xs[j.toNat]?

/-- The names of the files that a file imports publicly. -/
def File.publicNames (f : File) : Except Breakdown (List RawText) :=
  f.publicImports.mapM (fun i =>
    match entryAt f.imports i with
    | none => .error .importIndex
    | some name => .ok name)

/-- The entries with another key. -/
def without {β : Type} (k : RawText) (es : List (RawText × β)) : List (RawText × β) :=
  es.filter (fun e => e.1 != k)

/-- Taking out a key that is there leaves fewer entries. -/
theorem length_without_lt {β : Type} {k : RawText} {v : β} {es : List (RawText × β)}
    (h : es.lookup k = some v) :
  (without k es).length < es.length
  := by
  obtain ⟨xs, ys, rfl, -⟩ := List.lookup_eq_some_iff.mp h
  apply List.length_filter_lt_length_iff_exists.mpr
  exact ⟨(k, v), by simp, by simp⟩

/-- The names of the files that are seen from some names on. With the name of a known file come the
names that it imports publicly. A known file is followed once, since it is taken out of the known
files then. -/
def reach (known : List (RawText × File)) (pending : List RawText) :
    Except Breakdown (List RawText) :=
  match pending with
  | [] => .ok []
  | name :: pending =>
    match _found : known.lookup name with
    | none => do
      let names ← reach known pending
      .ok (name :: names)
    | some f => do
      let next ← f.publicNames
      let names ← reach (without name known) (next ++ pending)
      .ok (name :: names)
termination_by (known.length, pending.length)
decreasing_by
  · apply Prod.Lex.right
    simp
  · apply Prod.Lex.left
    exact length_without_lt _found

/-- The module that defines the types of the file with a name. A module map knows readable names
alone. -/
def moduleOf (modules : ModuleMap) (name : RawText) : Option String :=
  name.text?.bind modules.get?

/-- The modules that a file needs, in order and each once. -/
def neededModules (modules : ModuleMap) (known : Dictionary RawText File) (f : File) :
    Except Breakdown (List String) := do
  let names ← reach known.entries f.imports
  let found := (names.filterMap (moduleOf modules)).filter
    (fun m => some m != moduleOf modules f.name)
  .ok (found.mergeSort (fun a b => decide (a ≤ b))).eraseDups

end SwiftStubs.Schema
