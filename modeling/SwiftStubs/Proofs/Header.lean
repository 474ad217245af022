import SwiftStubs.Proofs.Lines
import SwiftStubs.Proofs.Parsing
import SwiftStubs.Proofs.SourceText

/-!
# The header of generated files

The comments on top of a schema file are taken over line by line, with two slashes in front, and
written above a banner. A comment is taken apart at line feeds alone, whereas what is written ends a
line at every kind of line break. So what stands in a comment behind another kind of break is
written without slashes (`strayLines`). All other lines of a header are comments.
-/

namespace SwiftStubs

/-- A line without code: it is empty or starts with two slashes. -/
def IsComment (l : String) : Prop :=
  l = "" ∨ "//".toList <+: l.toList

instance (l : String) : Decidable (IsComment l) :=
  inferInstanceAs (Decidable (l = "" ∨ "//".toList <+: l.toList))

/-! ### Lines behind slashes -/

namespace Text

/-- All rows but the last are cut one by one, the last as it stands. -/
theorem lines_intercalate (rows : List String) (last : String) :
  lines (String.intercalate "\n" (rows ++ [last]))
    = rows.flatMap (fun row => lines (row ++ "\n")) ++ lines last
  := by
  simp only [lines, String.toList_intercalate, List.map_append, List.map_singleton]
  rw [show "\n".toList = ['\n'] from rfl, cutsRows_lineChars.concat]
  simp [List.flatMap_map, List.map_flatMap]

/-- Slashes in front of a row stand in front of its first line. -/
theorem lines_slashes (row : String) :
  ∃ first, lines ("//" ++ row ++ "\n") = ("//" ++ first) :: (lines (row ++ "\n")).tail
  := by
  have hslash : isLineBreak '/' = false := rfl
  have hchars : ("//" ++ row ++ "\n").toList = '/' :: '/' :: (row ++ "\n").toList := by
    simp
  rw [lines, lines, hchars, lineChars_cons_of_unbroken hslash, lineChars_cons_of_unbroken hslash]
  cases hrow : lineChars (row ++ "\n").toList with
  | nil =>
      exfalso
      apply lineChars_ne_nil _ hrow
      simp
  | cons first more =>
      use String.ofList first
      rw [show "//" = String.ofList ['/', '/'] from rfl, ← String.ofList_append]
      rfl

/-- The line feed at the end of a row opens no line that is not empty. -/
theorem mem_tail_lines_newline {row l : String} (h : l ∈ (lines (row ++ "\n")).tail) :
  l = "" ∨ l ∈ (lines row).tail
  := by
  have hchars : (row ++ "\n").toList = row.toList ++ ['\n'] := by
    simp
  rw [lines, hchars] at h
  obtain heq | heq := lineChars_newline_eq row.toList
  · rw [heq] at h
    exact .inr h
  · rw [heq, List.map_append, ← lines] at h
    cases hlines : lines row with
    | nil => simp [hlines] at h
    | cons first more =>
        rw [hlines] at h
        simpa [or_comm] using h

/-- Behind the first line of a row, the line feed at its end changes nothing. -/
theorem tail_lines_subset (row : String) :
  (lines row).tail ⊆ (lines (row ++ "\n")).tail
  := by
  have hchars : (row ++ "\n").toList = row.toList ++ ['\n'] := by
    simp
  intro l hl
  rw [lines, hchars]
  obtain heq | heq := lineChars_newline_eq row.toList
  · rw [heq]
    exact hl
  · rw [heq, List.map_append, ← lines]
    cases hlines : lines row with
    | nil => simp [hlines] at hl
    | cons first more =>
        rw [hlines] at hl
        apply List.mem_append_left
        exact hl

theorem tail_lines_of_unbroken {row : String} (h : Unbroken row.toList) :
  (lines row).tail = []
  := by
  have hrow := lineChars_of_unbroken h
  have hlength : (lineChars row.toList).length ≤ 1 := by
    obtain heq | heq := lineChars_newline_eq row.toList
    · rw [← heq, hrow]
      simp
    · have hcount := congrArg List.length (heq.symm.trans hrow)
      simp at hcount
      simp [hcount]
  rw [← List.length_eq_zero_iff, List.length_tail, lines, List.length_map]
  omega

/-- A row with slashes in front is a comment, but for what stands behind a line break in it. -/
theorem isComment_or_mem_tail {row l : String} (h : l ∈ lines ("//" ++ row ++ "\n")) :
  IsComment l ∨ l ∈ (lines row).tail
  := by
  obtain ⟨first, hlines⟩ := lines_slashes row
  rw [hlines, List.mem_cons] at h
  obtain rfl | h := h
  · left
    right
    rw [String.toList_append]
    apply List.prefix_append
  · obtain rfl | h := mem_tail_lines_newline h
    · exact .inl (.inl rfl)
    · exact .inr h

/-- A row that breaks no line is a line. -/
theorem lines_of_unbroken {row : String} (h : Unbroken row.toList) :
  lines (row ++ "\n") = [row]
  := by
  have hchars : (row ++ "\n").toList = row.toList ++ ['\n'] := by
    simp
  rw [lines, hchars, lineChars_of_unbroken h]
  simp

theorem isComment_of_unbroken {row l : String} (h : Unbroken row.toList)
    (hl : l ∈ lines ("//" ++ row ++ "\n")) :
  IsComment l
  := by
  obtain hl | hl := isComment_or_mem_tail hl
  · exact hl
  · rw [tail_lines_of_unbroken h] at hl
    cases hl

end Text

namespace Schema

open Text

/-! ### The rows of a header -/

/-- The rows that a comment on top of a file puts into the header. -/
def commentRows (s : String) : List String :=
  (commentLines s).map ("//" ++ ·) ++ [""]

/-- The lines that begin inside of a line of a comment, behind a break that is no line feed. -/
def strayLines (s : String) : List String :=
  (commentLines s).flatMap (fun row => (lines row).tail)

theorem commentLines_ne_nil (s : String) :
  commentLines s ≠ []
  := by
  rw [commentLines, pieces, Ne, List.map_eq_nil_iff]
  apply List.splitOn_ne_nil

theorem intercalate_ne_empty {text : String} (h : text ≠ "") (separator : String)
    (texts : List String) :
  String.intercalate separator (text :: texts) ≠ ""
  := by
  cases texts with
  | nil => simpa using h
  | cons next texts =>
      rw [String.intercalate_cons_cons]
      simp [h]

theorem slashed_ne_empty (s : String) :
  slashed s ≠ ""
  := by
  rw [slashed]
  cases hlines : commentLines s with
  | nil => exact absurd hlines (commentLines_ne_nil s)
  | cons row rows =>
      apply intercalate_ne_empty
      simp

/-- With empty lines between them, comments above a text are rows above it. -/
theorem intercalate_slashed (texts : List String) (below : String) :
  String.intercalate "\n\n" (texts.map slashed ++ [below])
    = String.intercalate "\n" (texts.flatMap commentRows ++ [below])
  := by
  induction texts with
  | nil => rfl
  | cons s texts ih =>
      have hrows : (commentLines s).map ("//" ++ ·) ≠ [] := by
        simpa using commentLines_ne_nil s
      rw [List.map_cons, List.cons_append, String.intercalate_cons_of_ne_nil (by simp), ih,
        List.flatMap_cons, commentRows, List.append_assoc, List.append_assoc,
        String.intercalate_append_of_ne_nil hrows (by simp), List.singleton_append,
        String.intercalate_cons_of_ne_nil (by simp), ← slashed]
      rw [show "\n\n" = "\n" ++ "\n" from rfl, String.empty_append]
      simp only [String.append_assoc]

/-- The comments on top of a file are shown as they are read. -/
theorem header_eq {comments : Comments} {s : String} (h : comments.header = .ok s) :
  s = String.intercalate "\n\n" ((comments.detached.map RawText.shown).map slashed)
  := by
  rw [Comments.header] at h
  rw [Comments.detached]
  cases hl : (Dictionary.get? comments versionPath).or (Dictionary.get? comments packagePath) with
  | none =>
      rw [hl] at h
      cases h
      rfl
  | some l =>
      rw [hl] at h
      obtain ⟨texts, htexts, ⟨⟩⟩ := bind_eq_ok_iff.mp h
      have hshown : l.detached.map RawText.shown = texts := by
        rw [← List.forall₂_eq_eq_eq, List.forall₂_map_left_iff]
        apply (mapM_eq_ok_iff.mp htexts).imp
        intro t s hs
        rw [RawText.readable_eq_ok_iff.mp hs]
        rfl
      rw [hshown]

/-- The header of a file: its comments in rows above the banner. -/
theorem leadingTrivia_eq {f : File} {s : String} (h : f.leadingTrivia = .ok s) :
  s = String.intercalate "\n"
    ((f.comments.detached.map RawText.shown).flatMap commentRows ++ [banner f.name.shown])
  := by
  obtain ⟨header, hheader, hs⟩ := bind_eq_ok_iff.mp h
  rw [← intercalate_slashed]
  rw [header_eq hheader] at hs
  cases htexts : f.comments.detached.map RawText.shown with
  | nil =>
      rw [htexts] at hs
      exact (Except.ok.inj hs).symm
  | cons text texts =>
      rw [htexts] at hs
      have hne : (String.intercalate "\n\n" ((text :: texts).map slashed)).isEmpty = false := by
        rw [← Bool.not_eq_true, String.isEmpty_iff]
        apply intercalate_ne_empty (slashed_ne_empty text)
      rw [hne] at hs
      rw [String.intercalate_append_of_ne_nil (by simp) (by simp), String.intercalate_singleton]
      exact (Except.ok.inj hs).symm

/-- What the rows of a banner but the last have behind the slashes. -/
def bannerRows (source : String) : List String :=
  [" DO NOT EDIT.", " swift-format-ignore-file", "",
    " Generated by the gRPC Swift generator plugin for the protocol buffer compiler.",
    " Source: " ++ source, "",
    " For information on using the generated types, please see the documentation:"]

theorem banner_eq (source : String) :
  banner source = String.intercalate "\n"
    ((bannerRows source).map ("//" ++ ·) ++ ["//   https://github.com/grpc/grpc-swift"])
  := by
  rw [banner, show "// Source: " = "//" ++ " Source: " from rfl, String.append_assoc]
  rfl

theorem unbroken_bannerRows {source : String} (h : Unbroken source.toList) :
  ∀ row ∈ bannerRows source, Unbroken row.toList
  := by
  have hsource : Unbroken (" Source: " ++ source).toList := by
    rw [String.toList_append, unbroken_append_iff]
    exact ⟨by decide, h⟩
  simp only [bannerRows, List.forall_mem_cons]
  refine ⟨by decide +kernel, by decide +kernel, by decide +kernel, by decide +kernel, hsource,
    by decide +kernel, by decide +kernel, by simp⟩

/-- The lines of a banner are its rows if the name of the source breaks no line. -/
theorem lines_banner {source : String} (h : Unbroken source.toList) :
  lines (banner source)
    = (bannerRows source).map ("//" ++ ·) ++ ["//   https://github.com/grpc/grpc-swift"]
  := by
  have hrows : (bannerRows source).flatMap (fun row => lines ("//" ++ row ++ "\n"))
      = (bannerRows source).flatMap (fun row => ["//" ++ row]) := by
    apply List.flatMap_congr
    intro row hrow
    apply lines_of_unbroken
    rw [String.toList_append, unbroken_append_iff]
    exact ⟨by decide, unbroken_bannerRows h row hrow⟩
  rw [banner_eq, lines_intercalate, List.flatMap_map, hrows, ← List.map_eq_flatMap]
  rfl

/-- A text tells the source that the banner on top of it names. -/
theorem source_eq_of_banner {source source' : String} {below below' : List String}
    (h : Unbroken source.toList) (h' : Unbroken source'.toList)
    (heq : String.intercalate "\n" (lines (banner source) ++ below)
      = String.intercalate "\n" (lines (banner source') ++ below')) :
  source = source'
  := by
  rw [lines_banner h, lines_banner h'] at heq
  simp only [bannerRows, List.map_cons, List.cons_append, String.intercalate_cons_cons,
    String.append_assoc, String.append_right_inj] at heq
  have hcut := congrArg (fun s => s.toList.splitOn '\n') heq
  simp only [String.toList_append, show "\n".toList = ['\n'] from rfl, List.singleton_append,
    cutsRows_splitOn.append, cutsRows_splitOn.unbroken _ h, cutsRows_splitOn.unbroken _ h'] at hcut
  exact String.toList_injective (List.cons.inj hcut).1

/-- The banner is a comment if the name of the source breaks no line. -/
theorem isComment_banner {source : String} (h : Unbroken source.toList) :
  ∀ l ∈ lines (banner source), IsComment l
  := by
  intro l hl
  rw [banner_eq, lines_intercalate, List.mem_append, List.mem_flatMap] at hl
  obtain ⟨_, hslashes, hl⟩ | hl := hl
  · obtain ⟨row, hrow, rfl⟩ := List.mem_map.mp hslashes
    apply isComment_of_unbroken (unbroken_bannerRows h row hrow) hl
  · obtain rfl := List.mem_singleton.mp hl
    decide

/-! ### The lines of a header -/

theorem strayLines_eq_nil {s : String} (h : ∀ c ∈ s.toList, isLineBreak c → c = '\n') :
  strayLines s = []
  := by
  rw [strayLines, List.flatMap_eq_nil_iff]
  intro row hrow
  apply tail_lines_of_unbroken
  obtain ⟨piece, hpiece, rfl⟩ := List.mem_map.mp hrow
  rw [String.toList_ofList] at hpiece ⊢
  intro c hc
  obtain ⟨hmem, hne⟩ := mem_of_mem_splitOn piece hpiece c hc
  have hkept : c ∈ s.toList := by
    rw [dropLastWhile, List.mem_reverse] at hmem
    exact List.mem_reverse.mp ((List.dropWhile_sublist _).subset hmem)
  rw [← Bool.not_eq_true]
  intro hbreak
  apply hne (h c hkept hbreak)

/-- Every line of a header is a comment, or stands behind a line break inside of one. -/
theorem isComment_or_stray {f : File} {s : String} (h : f.leadingTrivia = .ok s)
    (hname : Unbroken f.name.shown.toList) :
  ∀ l ∈ lines s, IsComment l ∨ ∃ t ∈ f.comments.detached, l ∈ strayLines t.shown
  := by
  have hempty : lines ("" ++ "\n") = [""] := rfl
  intro l hl
  rw [leadingTrivia_eq h, lines_intercalate, List.mem_append] at hl
  obtain hl | hl := hl
  · simp only [List.mem_flatMap, List.mem_map, exists_exists_and_eq_and] at hl
    obtain ⟨_, ⟨t, ht, hin⟩, hl⟩ := hl
    obtain hslashes | hlast := List.mem_append.mp hin
    · obtain ⟨row, hrow, rfl⟩ := List.mem_map.mp hslashes
      apply (isComment_or_mem_tail hl).imp_right
      intro hl
      exact ⟨t, ht, List.mem_flatMap_of_mem hrow hl⟩
    · obtain rfl := List.mem_singleton.mp hlast
      rw [hempty, List.mem_singleton] at hl
      exact .inl (.inl hl)
  · exact .inl (isComment_banner hname l hl)

/-- What stands behind a line break inside of a comment is a line of the header as it is. -/
theorem mem_lines_of_stray {f : File} {s : String} (h : f.leadingTrivia = .ok s) {t : RawText}
    (ht : t ∈ f.comments.detached) {l : String} (hl : l ∈ strayLines t.shown) :
  l ∈ lines s
  := by
  obtain ⟨row, hrow, hl⟩ := List.mem_flatMap.mp hl
  have hrows : "//" ++ row ∈ (f.comments.detached.map RawText.shown).flatMap commentRows := by
    apply List.mem_flatMap_of_mem (List.mem_map_of_mem ht)
    apply List.mem_append_left
    apply List.mem_map_of_mem hrow
  rw [leadingTrivia_eq h, lines_intercalate]
  apply List.mem_append_left
  apply List.mem_flatMap_of_mem hrows
  obtain ⟨first, hlines⟩ := lines_slashes row
  rw [hlines]
  apply List.mem_cons_of_mem
  apply tail_lines_subset row hl

/-- The request of a file has the header of the file. -/
theorem leadingTrivia_of_request {modules : ModuleMap} {files : List File} {f : File} {r : Request}
    (h : request modules files f = .ok r) :
  f.leadingTrivia = .ok r.leadingTrivia
  := by
  simp only [request, bind_eq_ok_iff] at h
  obtain ⟨_, -, _, -, _, -, _, -, _, htrivia, ⟨⟩⟩ := h
  exact htrivia

end Schema

/-- The header of a request is written on top of the generated file. -/
theorem Request.contents_of_generate {m : Swift.Memory} {c : Configuration} {r : Request}
    {s : SourceFile} (h : r.generate m c = .ok s) :
  ∃ below, s.contents = String.intercalate "\n" (Text.lines r.leadingTrivia ++ below)
  := by
  obtain ⟨f, hf, -, htext⟩ := (generate_eq_ok_iff m c r s).mp h
  obtain ⟨-, is, -, rfl⟩ := (file_eq_ok_iff c _ f).mp hf
  obtain ⟨-, hcontents⟩ := (Swift.textOf_eq_ok_iff _ _ _ _).mp htext
  rw [Swift.File.lines, List.map_append, Swift.map_text_level, Swift.File.commentLines,
    Stub.topComment] at hcontents
  by_cases hempty : (r.withExtraImports c).leadingTrivia.isEmpty
  · have htrivia : r.leadingTrivia = "" := String.isEmpty_iff.mp hempty
    rw [if_pos hempty] at hcontents
    rw [htrivia]
    exact ⟨_, hcontents⟩
  · rw [if_neg hempty] at hcontents
    dsimp only at hcontents
    rw [List.append_assoc] at hcontents
    exact ⟨_, hcontents⟩

namespace Schema

/-- The header of a generated file is made of comments but for stray lines. The header of a file
whose name breaks no line has a line that is no comment only where a comment on top of the file has
a line break that is no line feed, and what stands behind such a break is a line as it is. The lines
of the header are the first lines of the generated file. -/
theorem header_commented_but_stray {modules : ModuleMap} {files : List File} {f : File}
    {r : Request} (h : request modules files f = .ok r)
    (hname : Text.Unbroken f.name.shown.toList) :
  (∀ l ∈ Text.lines r.leadingTrivia,
      IsComment l ∨ ∃ t ∈ f.comments.detached, l ∈ strayLines t.shown)
    ∧ (∀ t ∈ f.comments.detached, strayLines t.shown ⊆ Text.lines r.leadingTrivia)
    ∧ ((∀ t ∈ f.comments.detached, ∀ ch ∈ t.shown.toList, Text.isLineBreak ch → ch = '\n') →
      ∀ l ∈ Text.lines r.leadingTrivia, IsComment l)
    ∧ ∀ m c s, r.generate m c = .ok s →
      ∃ below, s.contents = String.intercalate "\n" (Text.lines r.leadingTrivia ++ below)
  := by
  have htrivia := leadingTrivia_of_request h
  have hlines := isComment_or_stray htrivia hname
  refine ⟨hlines, ?_, ?_, ?_⟩
  · intro t ht l hl
    apply mem_lines_of_stray htrivia ht hl
  · intro hbreaks l hl
    obtain hl | ⟨t, ht, hl⟩ := hlines l hl
    · exact hl
    · rw [strayLines_eq_nil (hbreaks t ht)] at hl
      cases hl
  · intro m c s hs
    apply Request.contents_of_generate hs

/-- A file with a comment on top of a service. -/
def commentedFile (comment : String) : File where
  name := "notice.proto"
  services := [{ name := "Greeter" }]
  locations := [{ path := versionPath, detached := [comment] }]

/-- The request of such a file. -/
def commentedRequest (comment : String) : Request where
  fileName := "notice.proto"
  leadingTrivia := slashed comment ++ "\n\n" ++ banner "notice.proto"
  dependencies := [{ moduleName := protobufModule }]
  services := [
    { name := Name.ofIdentifier "Greeter", ns := (commentedFile comment).namespaceName }]

theorem request_commentedFile (comment : String) :
  request Dictionary.empty [commentedFile comment] (commentedFile comment)
    = .ok (commentedRequest comment)
  := by
  have hneeded : neededModules Dictionary.empty (byName [commentedFile comment])
      (commentedFile comment) = .ok [] := by
    apply neededModules_alone rfl
  have htrivia : (commentedFile comment).leadingTrivia
      = .ok (slashed comment ++ "\n\n" ++ banner "notice.proto") := by
    obtain ⟨s, hs⟩ := (exists_leadingTrivia_eq_ok_iff (commentedFile comment)).mpr
      (List.forall_mem_singleton.mpr ⟨comment, rfl⟩)
    rw [hs, leadingTrivia_eq hs, ← intercalate_slashed]
    rfl
  rw [request, knownFiles_eq rfl, hneeded, htrivia]
  rfl

/-- A licence of two lines is written as two comments. -/
theorem licence_header_commented :
  request Dictionary.empty [commentedFile " For all,\n for free.\n"]
      (commentedFile " For all,\n for free.\n")
      = .ok (commentedRequest " For all,\n for free.\n")
    ∧ Text.Unbroken "notice.proto".toList
    ∧ ∀ l ∈ Text.lines (commentedRequest " For all,\n for free.\n").leadingTrivia, IsComment l
  := by
  have hrequest := request_commentedFile " For all,\n for free.\n"
  have hname : Text.Unbroken "notice.proto".toList := by decide
  refine ⟨hrequest, hname, ?_⟩
  apply (header_commented_but_stray hrequest hname).2.2.1
  intro t ht
  obtain rfl := List.mem_singleton.mp ht
  rw [← List.forall_iff_forall_mem]
  decide

/-- What a comment has behind a carriage return gets into the header as code. -/
theorem carriage_return_uncovers_code :
  request Dictionary.empty [commentedFile " Free.\rimport Evil"]
      (commentedFile " Free.\rimport Evil")
      = .ok (commentedRequest " Free.\rimport Evil")
    ∧ Text.Unbroken "notice.proto".toList
    ∧ "import Evil" ∈ Text.lines (commentedRequest " Free.\rimport Evil").leadingTrivia
    ∧ ¬ IsComment "import Evil"
  := by
  have hrequest := request_commentedFile " Free.\rimport Evil"
  refine ⟨hrequest, by decide, ?_, by decide⟩
  apply mem_lines_of_stray (leadingTrivia_of_request hrequest) List.mem_cons_self
  decide

end Schema

end SwiftStubs
