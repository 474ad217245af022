import SwiftStubs.Proofs.CamelCase
import SwiftStubs.Proofs.WireNames

/-!
# Namespaces and prefixes

The prefix of a file is made of the components of its package, each in upper camel case and with an
underscore behind it. The namespace of its services is the prefix without the underscores at its
end. Upper camel case leaves no underscore, so if every component has a letter or a digit, exactly
one underscore is cut off, and the others are the boundaries of the components: the types of the
services and the types of the messages of a file have one prefix in front, and the components can be
told from it.
-/

namespace SwiftStubs

/-! ### Components in upper camel case -/

theorem underscore_notMem_upperCamel (x : String) :
  '_' ∉ (upperCamel x).toList
  := by
  intro h
  cases isAlphanum_of_mem_upperCamel '_' h

/-- Something is left of an identifier with a letter or a digit. -/
theorem upperCamel_ne_empty {x : String} (h : x.toList.any Char.isAlphanum) :
  upperCamel x ≠ ""
  := by
  intro hempty
  obtain ⟨c, hc, hkept⟩ := List.any_eq_true.mp h
  have hnil : upperCamelChars x.toList = [] := by
    rw [← String.toList_ofList (l := upperCamelChars x.toList), ← upperCamel, hempty]
    rfl
  have hletters := map_toLower_upperCamelChars x.toList
  rw [hnil, List.map_nil, eq_comm, List.map_eq_nil_iff, List.filter_eq_nil_iff] at hletters
  exact hletters c hc hkept

/-! ### Underscores at the end -/

namespace Text

/-- Joined texts end with the last one of them. -/
theorem exists_intercalate_eq_append (joint : String) (ts : List String) (t : String) :
  ∃ front, String.intercalate joint (ts ++ [t]) = front ++ t
  := by
  cases hts : ts with
  | nil =>
      use ""
      rw [List.nil_append, String.intercalate_singleton, String.empty_append]
  | cons u us =>
      rw [← hts]
      use String.intercalate joint ts ++ joint
      rw [String.intercalate_append_of_ne_nil (by simp [hts]) (by simp),
        String.intercalate_singleton]

/-- Of joined texts with an underscore behind them, this underscore alone is cut off if no text is
empty or holds one. -/
theorem dropLastWhile_intercalate {ts : List String} (hts : ts ≠ [])
    (h : ∀ t ∈ ts, t ≠ "" ∧ '_' ∉ t.toList) :
  dropLastWhile (· == '_') (String.intercalate "_" ts ++ "_").toList
    = (String.intercalate "_" ts).toList
  := by
  obtain ⟨us, t, rfl⟩ := (List.eq_nil_or_concat' ts).resolve_left hts
  obtain ⟨front, hfront⟩ := exists_intercalate_eq_append "_" us t
  obtain ⟨hempty, hnone⟩ := h t (by simp)
  have ht : t.toList ≠ [] := by
    rwa [ne_eq, String.toList_eq_nil_iff]
  have hlast : t.toList.getLast ht ≠ '_' := by
    intro heq
    apply hnone
    rw [← heq]
    apply List.getLast_mem
  rw [hfront, String.toList_append]
  apply (List.rdropWhile_concat_pos _ _ '_' rfl).trans
  rw [List.rdropWhile_eq_self_iff]
  intro hne
  simpa [String.toList_append, List.getLast_append_of_ne_nil _ ht] using hlast

end Text

namespace Schema

/-! ### Files without a prefix of their own -/

namespace File

/-- The components of the package of a file. -/
def packageParts (f : File) : List String :=
  Text.pieces '.' f.package.shown

theorem map_upperCamel_ne_nil (f : File) :
  f.packageParts.map upperCamel ≠ []
  := by
  simp [packageParts, Text.pieces, List.splitOn_ne_nil]

section Package

variable {f : File} (hown : f.swiftPrefix = none)
  (hparts : ∀ part ∈ f.packageParts, part.toList.any Char.isAlphanum)

include hparts

/-- The empty package has one component, in which there is nothing. -/
theorem isEmpty_package :
  f.package.shown.isEmpty = false
  := by
  rw [← Bool.not_eq_true, String.isEmpty_iff]
  intro hempty
  rw [packageParts, hempty] at hparts
  cases hparts "" (by decide)

theorem forall_mem_map_upperCamel :
  ∀ t ∈ f.packageParts.map upperCamel, t ≠ "" ∧ '_' ∉ t.toList
  := by
  rw [List.forall_mem_map]
  intro part hpart
  exact ⟨upperCamel_ne_empty (hparts part hpart), underscore_notMem_upperCamel part⟩

include hown

theorem typePrefix_eq :
  f.typePrefix = String.intercalate "_" (f.packageParts.map upperCamel) ++ "_"
  := by
  simp only [typePrefix, hown, isEmpty_package hparts, packageParts, Bool.false_eq_true, if_false]

theorem upper_namespaceName :
  f.namespaceName.upper = String.intercalate "_" (f.packageParts.map upperCamel)
  := by
  have hparts' := forall_mem_map_upperCamel hparts
  rw [namespaceName, typePrefix_eq hown hparts,
    Text.dropLastWhile_intercalate (map_upperCamel_ne_nil f) hparts', String.ofList_toList]

/-- The underscores of the namespace are the boundaries of the components. -/
theorem pieces_namespaceName :
  Text.pieces '_' f.namespaceName.upper = f.packageParts.map upperCamel
  := by
  have hcut : f.namespaceName.upper.toList.splitOn '_'
      = (f.packageParts.map upperCamel).map String.toList := by
    rw [upper_namespaceName hown hparts]
    apply Text.splitOn_intercalate rfl (map_upperCamel_ne_nil f)
    intro t ht
    exact (forall_mem_map_upperCamel hparts t ht).2
  rw [Text.pieces, hcut, List.map_map]
  simp

theorem isEmpty_namespaceName :
  f.namespaceName.upper.isEmpty = false
  := by
  rw [← Bool.not_eq_true, String.isEmpty_iff]
  intro hempty
  have hmem : "" ∈ f.packageParts.map upperCamel := by
    rw [← pieces_namespaceName hown hparts, hempty]
    decide
  exact (forall_mem_map_upperCamel hparts "" hmem).1 rfl

end Package

end File

/-! ### Types of messages -/

mutual

/-- The Swift names below a message have the prefix in front, if what they are below has it. -/
theorem Message.exists_symbols_eq_append (typePrefix : String) :
    ∀ (m : Message) (scope swiftScope : String),
      (swiftScope = "" ∨ ∃ rest, swiftScope = typePrefix ++ rest) →
      ∀ e ∈ m.symbols typePrefix scope swiftScope, ∃ rest, e.2 = typePrefix ++ rest
  | .mk name nested, scope, swiftScope, h => by
      have hswift : ∃ rest, (if swiftScope.isEmpty then typePrefix ++ name
          else swiftScope ++ "." ++ name) = typePrefix ++ rest := by
        obtain rfl | ⟨rest, rfl⟩ := h
        · exact ⟨name, rfl⟩
        · split
          · exact ⟨name, rfl⟩
          · use rest ++ "." ++ name
            simp only [String.append_assoc]
      rw [Message.symbols, List.forall_mem_cons]
      exact ⟨hswift, exists_symbolsOf_eq_append typePrefix nested _ _ (.inr hswift)⟩

theorem exists_symbolsOf_eq_append (typePrefix : String) :
    ∀ (ms : List Message) (scope swiftScope : String),
      (swiftScope = "" ∨ ∃ rest, swiftScope = typePrefix ++ rest) →
      ∀ e ∈ symbolsOf typePrefix scope swiftScope ms, ∃ rest, e.2 = typePrefix ++ rest
  | [], _, _, _ => by simp [symbolsOf]
  | m :: ms, scope, swiftScope, h => by
      rw [symbolsOf, List.forall_mem_append]
      exact ⟨m.exists_symbols_eq_append typePrefix scope swiftScope h,
        exists_symbolsOf_eq_append typePrefix ms scope swiftScope h⟩

end

/-! ### Types of services -/

/-- The services of a request are in the namespace of the file. -/
theorem ns_of_request {modules : ModuleMap} {files : List File} {f : File} {r : Request}
    (h : request modules files f = .ok r) :
  ∀ s ∈ r.services, s.ns = f.namespaceName
  := by
  simp only [request, bind_eq_ok_iff] at h
  obtain ⟨_, -, _, -, _, -, services, hservices, _, -, ⟨⟩⟩ := h
  intro s hs
  obtain ⟨⟨_, _⟩, -, hservice⟩ := (mem_of_mapM_eq_ok hservices s).mp hs
  exact (names_of_service hservice).2.1

/-- If a file has no prefix of its own and each component of its package has a letter or a digit (so
that there is a package), then its prefix is the namespace of its services and an underscore, and
the namespace cut at underscores gives the components of the package in upper camel case. So the
types of its messages and those of its services all have the namespace and an underscore in
front. -/
theorem File.types_behind_namespace {f : File} (hown : f.swiftPrefix = none)
    (hparts : ∀ part ∈ f.packageParts, part.toList.any Char.isAlphanum) :
  f.typePrefix = f.namespaceName.upper ++ "_"
    ∧ Text.pieces '_' f.namespaceName.upper = f.packageParts.map upperCamel
    ∧ (∀ e ∈ f.symbols, ∃ rest, e.2 = f.namespaceName.upper ++ "_" ++ rest)
    ∧ ∀ (modules : ModuleMap) (files : List File) (r : Request),
      request modules files f = .ok r →
      ∀ s ∈ r.services, s.typeName = f.namespaceName.upper ++ "_" ++ s.name.upper
  := by
  have hshared : f.typePrefix = f.namespaceName.upper ++ "_" := by
    rw [upper_namespaceName hown hparts, typePrefix_eq hown hparts]
  refine ⟨hshared, pieces_namespaceName hown hparts, ?_, ?_⟩
  · rw [← hshared]
    apply exists_symbolsOf_eq_append _ _ _ _ (.inl rfl)
  · intro modules files r hr s hs
    rw [SwiftStubs.Service.typeName, ns_of_request hr s hs, if_neg]
    rw [isEmpty_namespaceName hown hparts]
    exact Bool.false_ne_true

/-- A file with underscores everywhere in its package. -/
def depotFile : File where
  name := "depot.proto"
  package := "big_shop._api__v1.store_"
  messages := [.mk "Crate" [.mk "Lid" []]]
  services := [
    { name := "depot_api"
      methods := [
        { name := "Put"
          inputType := ".big_shop._api__v1.store_.Crate"
          outputType := ".big_shop._api__v1.store_.Crate.Lid" }] }]

/-- The request of this file. -/
def depotRequest : Request where
  fileName := "depot.proto"
  leadingTrivia := banner "depot.proto"
  dependencies := [{ moduleName := protobufModule }]
  services := [
    { name := Name.ofIdentifier "depot_api"
      ns := depotFile.namespaceName
      methods := [
        { name := Name.ofIdentifier "Put"
          inputType := "BigShop_ApiV1_Store_Crate"
          outputType := "BigShop_ApiV1_Store_Crate.Lid" }] }]

theorem request_depotFile :
  request Configuration.standard.moduleMap [depotFile] depotFile = .ok depotRequest
  := by
  have hneeded : neededModules Configuration.standard.moduleMap (byName [depotFile]) depotFile
      = .ok [] := by
    apply neededModules_alone rfl
  rw [request, knownFiles_eq rfl, hneeded]
  rfl

theorem depotFile_types_behind_namespace :
  depotFile.swiftPrefix = none
    ∧ (∀ part ∈ depotFile.packageParts, part.toList.any Char.isAlphanum)
    ∧ depotFile.typePrefix = "BigShop_ApiV1_Store" ++ "_"
    ∧ Text.pieces '_' "BigShop_ApiV1_Store" = ["BigShop", "ApiV1", "Store"]
    ∧ (∀ e ∈ depotFile.symbols, ∃ rest, e.2 = "BigShop_ApiV1_Store" ++ "_" ++ rest)
    ∧ request Configuration.standard.moduleMap [depotFile] depotFile = .ok depotRequest
    ∧ ∀ s ∈ depotRequest.services, s.typeName = "BigShop_ApiV1_Store" ++ "_" ++ s.name.upper
  := by
  have hparts : ∀ part ∈ depotFile.packageParts, part.toList.any Char.isAlphanum := by decide
  obtain ⟨hshared, hpieces, hmessages, hservices⟩ :=
    File.types_behind_namespace (f := depotFile) rfl hparts
  exact ⟨rfl, hparts, hshared, hpieces, hmessages, request_depotFile,
    hservices _ _ _ request_depotFile⟩

end Schema

end SwiftStubs
