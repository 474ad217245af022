import SwiftStubs.Proofs.FileOrder
import SwiftStubs.Proofs.Lines

/-!
# The names of messages

A message is found in a file by its path, the names of the messages around it from the outside to
the inside and its own. Its full name is the package of the file and its path, and its Swift name
the prefix of the file and its path, both joined with dots. A symbol table goes down the messages
with the names of where it is; if no name is empty this comes to full names and Swift names
(`File.symbols_eq`), and if full names are distinct the table resolves just these.
-/

namespace SwiftStubs.Schema

/-! ### Paths -/

mutual

/-- The paths of a message and of those inside it. -/
def Message.paths : Message → List (List String)
  | .mk name nested => [name] :: (pathsOf nested).map (name :: ·)

/-- The paths of some messages and of those inside them. -/
def pathsOf : List Message → List (List String)
  | [] => []
  | m :: ms => m.paths ++ pathsOf ms

end

namespace File

/-- The paths of the messages of a file. -/
def paths (f : File) : List (List String) :=
  pathsOf f.messages

/-- The full name of the message with a path, without a dot in front. -/
def fullName (f : File) (path : List String) : String :=
  String.intercalate "." ((if f.package.shown.isEmpty then [] else [f.package.shown]) ++ path)

/-- The Swift name of the message with a path. -/
def swiftName (f : File) (path : List String) : String :=
  f.typePrefix ++ String.intercalate "." path

end File

theorem Message.paths_ne_nil (m : Message) :
  ∀ p ∈ m.paths, p ≠ []
  := by
  obtain ⟨name, nested⟩ := m
  simp [paths]

theorem pathsOf_ne_nil (ms : List Message) :
  ∀ p ∈ pathsOf ms, p ≠ []
  := by
  induction ms with
  | nil => simp [pathsOf]
  | cons m ms ih =>
      rw [pathsOf, List.forall_mem_append]
      exact ⟨m.paths_ne_nil, ih⟩

/-! ### Symbols by path -/

/-- The symbol of the message with a path below a message, or on top of a file if the Swift name of
what is above is empty. -/
def symbolAt (typePrefix scope swiftScope : String) (path : List String) : String × String :=
  (scope ++ "." ++ String.intercalate "." path,
    (if swiftScope.isEmpty then typePrefix else swiftScope ++ ".") ++ String.intercalate "." path)

/-- A message with a name is passed on the way to what is inside it. -/
theorem symbolAt_cons (typePrefix scope swiftScope : String) {name : String} (hname : name ≠ "")
    {path : List String} (hpath : path ≠ []) :
  symbolAt typePrefix scope swiftScope (name :: path)
    = symbolAt typePrefix (scope ++ "." ++ name)
      (if swiftScope.isEmpty then typePrefix ++ name else swiftScope ++ "." ++ name) path
  := by
  have hswift : ∀ above : String, (above ++ name).isEmpty = false := by
    intro above
    simp [hname]
  rw [symbolAt, symbolAt, String.intercalate_cons_of_ne_nil hpath]
  cases swiftScope.isEmpty with
  | true => simp [hswift, String.append_assoc]
  | false => simp [String.append_assoc]

mutual

theorem Message.symbols_eq (typePrefix : String) :
    ∀ (m : Message) (scope swiftScope : String), (∀ p ∈ m.paths, "" ∉ p) →
      m.symbols typePrefix scope swiftScope
        = m.paths.map (symbolAt typePrefix scope swiftScope)
  | .mk name nested, scope, swiftScope, h => by
      obtain ⟨htop, hinner⟩ := List.forall_mem_cons.mp h
      have hname : name ≠ "" := by
        rintro rfl
        exact htop (List.mem_singleton_self _)
      have hnested : ∀ p ∈ pathsOf nested, "" ∉ p := by
        intro p hp hempty
        exact hinner _ (List.mem_map_of_mem hp) (List.mem_cons_of_mem _ hempty)
      rw [Message.symbols, Message.paths, List.map_cons, List.map_map,
        symbolsOf_eq typePrefix nested _ _ hnested]
      congr 1
      · rw [symbolAt, String.intercalate_singleton]
        split <;> rfl
      · apply List.map_congr_left
        intro p hp
        exact (symbolAt_cons typePrefix scope swiftScope hname (pathsOf_ne_nil nested p hp)).symm

theorem symbolsOf_eq (typePrefix : String) :
    ∀ (ms : List Message) (scope swiftScope : String), (∀ p ∈ pathsOf ms, "" ∉ p) →
      symbolsOf typePrefix scope swiftScope ms
        = (pathsOf ms).map (symbolAt typePrefix scope swiftScope)
  | [], _, _, _ => rfl
  | m :: ms, scope, swiftScope, h => by
      obtain ⟨hm, hms⟩ := List.forall_mem_append.mp h
      rw [symbolsOf, pathsOf, List.map_append, m.symbols_eq typePrefix scope swiftScope hm,
        symbolsOf_eq typePrefix ms scope swiftScope hms]

end

namespace File

/-- The scope of a file and a dot, in front of a path, make a full name with a dot in front. -/
theorem scope_append_eq (f : File) {path : List String} (hpath : path ≠ []) :
  f.scope ++ "." ++ String.intercalate "." path = "." ++ f.fullName path
  := by
  unfold scope fullName
  split
  · rfl
  · rw [List.singleton_append, String.intercalate_cons_of_ne_nil hpath]
    simp only [String.append_assoc]

/-- The symbols of a file are the full names and the Swift names of its messages. -/
theorem symbols_eq (f : File) (h : ∀ p ∈ f.paths, "" ∉ p) :
  f.symbols = f.paths.map (fun p => ("." ++ f.fullName p, f.swiftName p))
  := by
  rw [symbols, symbolsOf_eq _ _ _ _ h]
  apply List.map_congr_left
  intro p hp
  rw [symbolAt, f.scope_append_eq (pathsOf_ne_nil f.messages p hp)]
  rfl

end File

/-- Paths of names without dots are told apart by what they are joined to. -/
theorem intercalate_dot_injective {p q : List String} (hp : p ≠ []) (hq : q ≠ [])
    (hpdots : ∀ n ∈ p, '.' ∉ n.toList) (hqdots : ∀ n ∈ q, '.' ∉ n.toList)
    (h : String.intercalate "." p = String.intercalate "." q) :
  p = q
  := by
  have hjoint : ".".toList = ['.'] := rfl
  apply List.map_injective_iff.mpr (fun _ _ => String.toList_injective)
  rw [← Text.splitOn_intercalate hjoint hp hpdots, ← Text.splitOn_intercalate hjoint hq hqdots, h]

/-- Messages whose names have no dots have distinct Swift names if they have distinct paths. -/
theorem File.nodup_map_swiftName (f : File) (hpaths : f.paths.Nodup)
    (hdots : ∀ p ∈ f.paths, ∀ n ∈ p, '.' ∉ n.toList) :
  (f.paths.map f.swiftName).Nodup
  := by
  have hne := pathsOf_ne_nil f.messages
  apply hpaths.map_on
  intro p hp q hq h
  have hjoined := (String.append_right_inj f.typePrefix).mp h
  apply intercalate_dot_injective (hne p hp) (hne q hq) (hdots p hp) (hdots q hq) hjoined

namespace SymbolTable

/-! ### Resolving -/

/-- A dot in front is not put there twice. -/
theorem withDot_dot (name : String) :
  withDot ("." ++ name) = "." ++ name
  := by
  rw [withDot, if_pos]
  simp

/-- The full names of the messages of some files. -/
def declared (files : List File) : List String :=
  files.flatMap (fun f => f.paths.map f.fullName)

section Declared

variable {files : List File} (hnames : ∀ f ∈ files, ∀ p ∈ f.paths, "" ∉ p)

include hnames

theorem mem_symbols_iff (full swift : String) :
  (full, swift) ∈ files.flatMap File.symbols
    ↔ ∃ f ∈ files, ∃ p ∈ f.paths, full = "." ++ f.fullName p ∧ swift = f.swiftName p
  := by
  rw [List.mem_flatMap]
  constructor
  · rintro ⟨f, hf, hfull⟩
    rw [f.symbols_eq (hnames f hf), List.mem_map] at hfull
    obtain ⟨p, hp, heq⟩ := hfull
    obtain ⟨rfl, rfl⟩ := Prod.mk.inj heq
    exact ⟨f, hf, p, hp, rfl, rfl⟩
  · rintro ⟨f, hf, p, hp, rfl, rfl⟩
    refine ⟨f, hf, ?_⟩
    rw [f.symbols_eq (hnames f hf)]
    exact List.mem_map_of_mem hp

theorem map_fst_symbols :
  (files.flatMap File.symbols).map Prod.fst = (declared files).map ("." ++ ·)
  := by
  rw [declared, List.map_flatMap, List.map_flatMap]
  apply List.flatMap_congr
  intro f hf
  rw [f.symbols_eq (hnames f hf), List.map_map, List.map_map]
  rfl

/-- If full names are distinct, a table has the Swift names of the messages and nothing else. -/
theorem get?_eq_some_iff (hdistinct : (declared files).Nodup) (full swift : String) :
  Dictionary.get? (ofFiles files) full = some swift
    ↔ ∃ f ∈ files, ∃ p ∈ f.paths, full = "." ++ f.fullName p ∧ swift = f.swiftName p
  := by
  have hkeys : ((files.flatMap File.symbols).map Prod.fst).Nodup := by
    rw [map_fst_symbols hnames]
    apply hdistinct.map
    intro m n h
    exact (String.append_right_inj ".").mp h
  rw [ofFiles, Dictionary.get?_ofList_eq_some_iff, mem_symbols_iff hnames]
  intro v w hv hw
  exact (Prod.mk.inj (List.inj_on_of_nodup_map hkeys hv hw rfl)).2

/-- A name that is no full name of a message, with or without a dot in front, is not resolved. -/
theorem resolve_of_undeclared (hdistinct : (declared files).Nodup) {name : String}
    (h : ∀ f ∈ files, ∀ p ∈ f.paths, name ≠ "." ++ f.fullName p
      ∧ (name = f.fullName p → name.toList.head? = some '.')) :
  resolve (ofFiles files) name = .error (.unknownMessage (withDot name))
  := by
  have hget : Dictionary.get? (ofFiles files) (withDot name) = none := by
    rw [Option.eq_none_iff_forall_ne_some]
    intro swift hswift
    obtain ⟨f, hf, p, hp, hfull, -⟩ := (get?_eq_some_iff hnames hdistinct _ _).mp hswift
    obtain ⟨hdotted, hplain⟩ := h f hf p hp
    rw [withDot] at hfull
    split at hfull
    · exact hdotted hfull
    · next hdot =>
        apply hdot
        apply hplain
        exact (String.append_right_inj ".").mp hfull
  rw [resolve, hget]

end Declared

/-- If no message has an empty name and full names are distinct, then the full names of messages are
resolved to their Swift names, with a dot in front and also without one if they do not start with a
dot themselves, and no other name is resolved. If the names of messages have no dots, the messages
of a file have distinct Swift names. -/
theorem resolves_declared_messages {files : List File}
    (hnames : ∀ f ∈ files, ∀ p ∈ f.paths, "" ∉ p) (hdistinct : (declared files).Nodup) :
  (∀ f ∈ files, ∀ p ∈ f.paths,
      resolve (ofFiles files) ("." ++ f.fullName p) = .ok (f.swiftName p)
        ∧ ((f.fullName p).toList.head? ≠ some '.' →
          resolve (ofFiles files) (f.fullName p) = .ok (f.swiftName p)))
    ∧ (∀ name, (∀ f ∈ files, ∀ p ∈ f.paths, name ≠ "." ++ f.fullName p
          ∧ (name = f.fullName p → name.toList.head? = some '.')) →
        resolve (ofFiles files) name = .error (.unknownMessage (withDot name)))
    ∧ ∀ f ∈ files, (∀ p ∈ f.paths, ∀ n ∈ p, '.' ∉ n.toList) → (f.paths.map f.swiftName).Nodup
  := by
  refine ⟨?_, ?_, ?_⟩
  · intro f hf p hp
    have hget := (get?_eq_some_iff hnames hdistinct _ _).mpr ⟨f, hf, p, hp, rfl, rfl⟩
    constructor
    · rw [resolve, withDot_dot, hget]
    · intro hdot
      rw [resolve, withDot, if_neg hdot, hget]
  · intro name hother
    apply resolve_of_undeclared hnames hdistinct hother
  · intro f hf hdots
    apply f.nodup_map_swiftName _ hdots
    exact ((List.nodup_flatMap.mp hdistinct).1 f hf).of_map

/-- A file with messages inside messages, one of them with the name of a message on top. -/
def treeFile : File where
  name := "tree.proto"
  package := "garden.tree"
  messages := [.mk "Branch" [.mk "Leaf" [.mk "Vein" []], .mk "Branch" []], .mk "Leaf" []]

/-- A file without a package and with a prefix of its own. -/
def stoneFile : File where
  name := "stone.proto"
  messages := [.mk "Leaf" []]
  swiftPrefix := some "Stone"

theorem treeFile_resolves_declared :
  (∀ f ∈ [treeFile, stoneFile], ∀ p ∈ f.paths, "" ∉ p)
    ∧ (declared [treeFile, stoneFile]).Nodup
    ∧ resolve (ofFiles [treeFile, stoneFile]) ".garden.tree.Branch.Leaf.Vein"
      = .ok "Garden_Tree_Branch.Leaf.Vein"
    ∧ resolve (ofFiles [treeFile, stoneFile]) "Leaf" = .ok "StoneLeaf"
    ∧ resolve (ofFiles [treeFile, stoneFile]) "tree.Leaf" = .error (.unknownMessage ".tree.Leaf")
    ∧ (treeFile.paths.map treeFile.swiftName).Nodup
  := by
  have hnames : ∀ f ∈ [treeFile, stoneFile], ∀ p ∈ f.paths, "" ∉ p := by decide
  have hdistinct : (declared [treeFile, stoneFile]).Nodup := by decide
  obtain ⟨hdeclared, hother, hswift⟩ := resolves_declared_messages hnames hdistinct
  refine ⟨hnames, hdistinct, ?_, ?_, ?_, ?_⟩
  · exact (hdeclared treeFile (by simp) ["Branch", "Leaf", "Vein"] (by decide)).1
  · exact (hdeclared stoneFile (by simp) ["Leaf"] (by decide)).2 (by decide)
  · exact hother "tree.Leaf" (by decide)
  · exact hswift treeFile (by simp) (by decide)

/-- A file with a package that starts with a dot. -/
def dottedFile : File where
  name := "a.proto"
  package := ".a"
  messages := [.mk "M" []]

/-- A full name that starts with a dot itself is taken for one with a dot in front. -/
theorem dottedFile_unresolved :
  (∀ p ∈ dottedFile.paths, "" ∉ p) ∧ (declared [dottedFile]).Nodup ∧ ["M"] ∈ dottedFile.paths
    ∧ dottedFile.fullName ["M"] = ".a.M" ∧ dottedFile.swiftName ["M"] = "_A_M"
    ∧ resolve (ofFiles [dottedFile]) ".a.M" = .error (.unknownMessage ".a.M")
  := by
  refine ⟨?_, ?_, ?_, ?_, ?_, ?_⟩
  · decide
  · decide
  · decide
  · decide
  · decide
  · rfl

end SymbolTable

end SwiftStubs.Schema
