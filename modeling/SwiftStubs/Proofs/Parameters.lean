import SwiftStubs.Configuration.Parameter
import SwiftStubs.Proofs.Lines
import Mathlib.Data.List.DropRight

/-!
# Writing parameters

The options of a parameter are those of its pieces between commas, so parameters are put together by
a comma between them (`ofParameter_append`). A list of options is written as a parameter and read
back unchanged (`ofParameter_written`), as long as blanks, commas and equality signs do not stand
where reading would not leave them (`Plain`). All options that are read are of this kind
(`plain_of_mem_ofParameter`): what can be read is what can be written.
-/

namespace SwiftStubs

/-! ### Blank ends -/

namespace Text

theorem trimChars_eq (cs : List Char) :
  trimChars cs = (cs.dropWhile isBlank).rdropWhile isBlank
  := rfl

theorem trimChars_subset (cs : List Char) :
  trimChars cs ⊆ cs
  := by
  rw [trimChars_eq]
  apply List.Subset.trans (List.rdropWhile_prefix _ _).subset
  apply List.dropWhile_subset

/-- What starts with a character that is not blank still does so without its blank end. -/
theorem dropWhile_trimChars (cs : List Char) :
  (trimChars cs).dropWhile isBlank = trimChars cs
  := by
  rw [trimChars_eq]
  cases h : cs.dropWhile isBlank with
  | nil => rfl
  | cons d ds =>
      have hd : isBlank d = false := by
        have hne : cs.dropWhile isBlank ≠ [] := by
          rw [h]
          apply List.cons_ne_nil
        simpa only [h, List.head_cons] using List.head_dropWhile_not isBlank hne
      obtain hnil | ⟨rest, hrest, -⟩ :=
        List.prefix_cons_iff.mp (List.rdropWhile_prefix isBlank (d :: ds))
      · rw [hnil, List.dropWhile_nil]
      · rw [hrest, List.dropWhile_cons_of_neg (by simp [hd])]

/-- There are no blank ends left to cut off where they were cut off. -/
theorem trimChars_trimChars (cs : List Char) :
  trimChars (trimChars cs) = trimChars cs
  := by
  rw [trimChars_eq (trimChars cs), dropWhile_trimChars, trimChars_eq, List.rdropWhile_idempotent]

end Text

namespace ParameterOption

/-! ### Parameters behind each other -/

/-- The options of two parameters with a comma between them. -/
theorem ofParameter_append (p q : String) :
  ofParameter (p ++ "," ++ q) = ofParameter p ++ ofParameter q
  := by
  have hchars : (p ++ "," ++ q).toList = p.toList ++ ',' :: q.toList := by simp
  rw [ofParameter, hchars, List.splitOn_append_cons_self, List.filter_append, List.map_append,
    ofParameter, ofParameter]

/-! ### Options as pieces -/

/-- The text of an option. -/
def text (o : ParameterOption) : String :=
  o.key ++ "=" ++ o.value

/-- A text that an option can have as its value: without blank ends, and without a comma. -/
structure PlainText (s : String) : Prop where
  trim_eq : Text.trim s = s
  comma_notMem : ',' ∉ s.toList

/-- An option that is left as it is by writing and reading. -/
structure Plain (o : ParameterOption) : Prop where
  key : PlainText o.key
  equals_notMem : '=' ∉ o.key.toList
  value : PlainText o.value

instance (s : String) : Decidable (PlainText s) :=
  decidable_of_iff (Text.trim s = s ∧ ',' ∉ s.toList)
    ⟨fun h => ⟨h.1, h.2⟩, fun h => ⟨h.trim_eq, h.comma_notMem⟩⟩

instance (o : ParameterOption) : Decidable o.Plain :=
  decidable_of_iff (PlainText o.key ∧ '=' ∉ o.key.toList ∧ PlainText o.value)
    ⟨fun h => ⟨h.1, h.2.1, h.2.2⟩, fun h => ⟨h.key, h.equals_notMem, h.value⟩⟩

theorem PlainText.trimChars_eq {s : String} (h : PlainText s) :
  String.ofList (Text.trimChars s.toList) = s
  := h.trim_eq

theorem toList_text (o : ParameterOption) :
  o.text.toList = o.key.toList ++ '=' :: o.value.toList
  := by
  simp [text]

/-- A piece with an equality sign is an option. -/
theorem all_isBlank_text (o : ParameterOption) :
  o.text.toList.all Text.isBlank = false
  := by
  rw [List.all_eq_false]
  use '='
  rw [toList_text]
  exact ⟨by simp, by decide⟩

theorem ofPiece_text {o : ParameterOption} (h : o.Plain) :
  ofPiece o.text.toList = o
  := by
  have hkey : ∀ c ∈ o.key.toList, (c != '=') = true := by
    intro c hc
    rw [bne_iff_ne]
    rintro rfl
    exact h.equals_notMem hc
  have htake : o.text.toList.takeWhile (· != '=') = o.key.toList := by
    rw [toList_text, List.takeWhile_append_of_pos hkey]
    simp
  have hdrop : o.text.toList.dropWhile (· != '=') = '=' :: o.value.toList := by
    rw [toList_text, List.dropWhile_append_of_pos hkey]
    simp
  rw [ofPiece, htake, hdrop, List.drop_one, List.tail_cons, h.key.trimChars_eq,
    h.value.trimChars_eq]

theorem comma_notMem_text {o : ParameterOption} (h : o.Plain) :
  ',' ∉ o.text.toList
  := by
  rw [toList_text, List.mem_append, List.mem_cons]
  rintro (hmem | heq | hmem)
  · exact h.key.comma_notMem hmem
  · cases heq
  · exact h.value.comma_notMem hmem

/-! ### Options as parameters -/

/-- The parameter that some options are written as. -/
def written (os : List ParameterOption) : String :=
  String.intercalate "," (os.map text)

/-- Options are read as they were written. -/
theorem ofParameter_written {os : List ParameterOption} (h : ∀ o ∈ os, o.Plain) :
  ofParameter (written os) = os
  := by
  cases hos : os with
  | nil => rfl
  | cons o rest =>
      rw [← hos]
      have hcommas : ∀ t ∈ os.map text, ',' ∉ t.toList := by
        rw [List.forall_mem_map]
        intro o ho
        apply comma_notMem_text (h o ho)
      have hpieces : (written os).toList.splitOn ',' = os.map (fun o => o.text.toList) := by
        rw [written, Text.splitOn_intercalate rfl (by simp [hos]) hcommas, List.map_map]
        rfl
      have hcount : ∀ cs ∈ os.map (fun o => o.text.toList), (!cs.all Text.isBlank) = true := by
        rw [List.forall_mem_map]
        intro o _
        rw [all_isBlank_text, Bool.not_false]
      rw [ofParameter, hpieces, List.filter_eq_self.mpr hcount, List.map_map]
      calc os.map (ofPiece ∘ fun o => o.text.toList)
          = os.map id := List.map_congr_left (fun o ho => ofPiece_text (h o ho))
        _ = os := List.map_id os

/-! ### Options that are read -/

theorem plainText_trimChars {cs : List Char} (h : ',' ∉ cs) :
  PlainText (String.ofList (Text.trimChars cs))
  := by
  constructor
  · rw [Text.trim, String.toList_ofList, Text.trimChars_trimChars]
  · rw [String.toList_ofList]
    intro hcomma
    exact h (Text.trimChars_subset cs hcomma)

/-- The key ends at the first equality sign, so that further ones stand in the value. -/
theorem plain_ofPiece {cs : List Char} (h : ',' ∉ cs) :
  (ofPiece cs).Plain
  := by
  constructor
  · apply plainText_trimChars
    intro hcomma
    exact h (List.takeWhile_subset _ hcomma)
  · intro hequals
    rw [ofPiece, String.toList_ofList] at hequals
    have hbefore := List.mem_takeWhile_imp (Text.trimChars_subset _ hequals)
    cases hbefore
  · apply plainText_trimChars
    intro hcomma
    exact h (List.dropWhile_subset _ (List.mem_of_mem_drop hcomma))

/-- Whatever the parameter is, its options can be written and read. -/
theorem plain_of_mem_ofParameter (p : String) :
  ∀ o ∈ ofParameter p, o.Plain
  := by
  rw [ofParameter, List.forall_mem_map]
  intro cs hcs
  apply plain_ofPiece
  intro hcomma
  exact (Text.mem_of_mem_splitOn cs (List.mem_of_mem_filter hcs) ',' hcomma).2 rfl

/-- Reading undoes writing: options without blank ends, without commas and without an equality sign
in the key are read as they were written. The options of every parameter are such options, so they
do not change by being written and read once more. The options of a parameter in two parts are those
of the parts. -/
theorem reading_undoes_writing :
  (∀ os : List ParameterOption, (∀ o ∈ os, o.Plain) → ofParameter (written os) = os)
    ∧ (∀ p : String, (∀ o ∈ ofParameter p, o.Plain)
      ∧ ofParameter (written (ofParameter p)) = ofParameter p)
    ∧ ∀ p q : String, ofParameter (p ++ "," ++ q) = ofParameter p ++ ofParameter q
  := by
  refine ⟨?_, ?_, ?_⟩
  · intro os hplain
    apply ofParameter_written hplain
  · intro p
    have hplain := plain_of_mem_ofParameter p
    exact ⟨hplain, ofParameter_written hplain⟩
  · intro p q
    apply ofParameter_append

/-- An option without a key, one with an equality sign in its value, one with neither key nor value
and one with a blank inside. -/
def spreadOptions : List ParameterOption :=
  [⟨"", "x"⟩, ⟨"a", "b=c="⟩, ⟨"", ""⟩, ⟨"two words", ""⟩]

/-- They are read as they are written, and also where blanks, empty pieces and a missing equality
sign are in between. -/
theorem spreadOptions_read_as_written :
  (∀ o ∈ spreadOptions, o.Plain)
    ∧ ofParameter "=x,a=b=c=,=,two words=" = spreadOptions
    ∧ ofParameter ("= x ,, a =b=c=" ++ "," ++ "\t=,two words , ")
      = ofParameter "=x,a=b=c=" ++ ofParameter "=,two words="
  := by
  obtain ⟨hwritten, hread, hparts⟩ := reading_undoes_writing
  have hplain : ∀ o ∈ spreadOptions, o.Plain := by decide
  refine ⟨hplain, hwritten spreadOptions hplain, ?_⟩
  rw [hparts]
  exact congrArg₂ (· ++ ·) (hread "= x ,, a =b=c=").2.symm (hread "\t=,two words , ").2.symm

end ParameterOption

end SwiftStubs
