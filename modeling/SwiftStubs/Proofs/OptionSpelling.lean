import SwiftStubs.Proofs.Drafts
import Mathlib.Algebra.Order.Ring.Int

/-!
# How options are spelled

An option that asks for a change is written with the key of the change and a text for its value.
Letter case does not matter in keys and in values that are fixed words, integers are written in
decimal, and names of modules and paths as they are (`Spells`). Whatever is spelled so is read as
the change that was meant (`Spells.change_eq`), and as a parameter it is left as it is by writing
and reading (`Spells.plain`).
-/

namespace SwiftStubs

namespace Text

/-! ### Blank ends -/

theorem dropWhile_of_none {α : Type} {p : α → Bool} {xs : List α} (h : ∀ x ∈ xs, p x = false) :
  xs.dropWhile p = xs
  := by
  cases xs with
  | nil => rfl
  | cons x xs =>
      apply List.dropWhile_cons_of_neg
      simp [h x]

theorem dropLastWhile_of_none {α : Type} {p : α → Bool} {xs : List α} (h : ∀ x ∈ xs, p x = false) :
  dropLastWhile p xs = xs
  := by
  rw [dropLastWhile, dropWhile_of_none, List.reverse_reverse]
  simpa using h

theorem trim_of_none {s : String} (h : ∀ c ∈ s.toList, isBlank c = false) :
  trim s = s
  := by
  rw [trim, trimChars, dropWhile_of_none h, dropLastWhile_of_none h, String.ofList_toList]

/-! ### Letter case -/

theorem lowerChar_eq_self {c : Char} (hdot : c.toNat ≠ 0x130)
    (hruns : ∀ r ∈ caseRuns, ¬ r.holds c.toNat) :
  lowerChar c = [c]
  := by
  have hnone : caseRuns.find? (fun r => r.holds c.toNat) = none := List.find?_eq_none.mpr hruns
  rw [lowerChar, hnone]
  simp [hdot]

/-- Among the runs of characters with a lower case, only the first one holds characters of ASCII. -/
theorem first_of_mem_tail_caseRuns :
  ∀ r ∈ caseRuns.tail, 0x80 ≤ r.first
  := by
  decide +kernel

theorem lowerChar_of_ascii {c : Char} (h : c.toNat < 0x80) :
  lowerChar c = [c.toLower]
  := by
  by_cases hupper : c.toNat ∈ List.range' 65 26
  · have hcapitals : ∀ n ∈ List.range' 65 26,
        lowerChar (Char.ofNat n) = [(Char.ofNat n).toLower] := by
      decide
    simpa using hcapitals c.toNat hupper
  · rw [List.mem_range'_1] at hupper
    have hsame : c.toLower = c := by
      apply dif_neg
      rintro ⟨hfirst, hlast⟩
      apply hupper
      exact ⟨UInt32.le_iff_toNat_le.mp hfirst, Nat.lt_succ_of_le (UInt32.le_iff_toNat_le.mp hlast)⟩
    rw [hsame]
    apply lowerChar_eq_self
    · omega
    · intro r hr
      simp only [CaseRun.holds, Bool.and_eq_true, decide_eq_true_eq]
      obtain rfl | hr : r = ⟨65, 90, 1, 32⟩ ∨ r ∈ caseRuns.tail := List.mem_cons.mp hr
      · rintro ⟨⟨hfirst, hlast⟩, -⟩
        exact hupper ⟨hfirst, Nat.lt_succ_of_le hlast⟩
      · have hfirst := first_of_mem_tail_caseRuns r hr
        omega

/-- The lower case of a text in ASCII. -/
theorem lower_of_ascii {s : String} (h : s.toList.all (fun c => c.toNat < 0x80)) :
  lower s = String.ofList (s.toList.map Char.toLower)
  := by
  rw [lower, List.map_eq_flatMap]
  congr 1
  apply List.flatMap_congr
  intro c hc
  rw [List.all_eq_true] at h
  exact lowerChar_of_ascii (by simpa using h c hc)

/-- The characters that have a meaning in a parameter, or none at its ends. -/
def isSpecial (c : Char) : Bool :=
  isBlank c || c == ',' || c == '='

/-- The numbers of the special characters. -/
def specialCodes : List Nat :=
  List.range' 9 5 ++ List.range' 28 5 ++ List.range' 0x2000 11
    ++ [0x85, 0xA0, 0x1680, 0x2028, 0x2029, 0x202F, 0x205F, 0x3000, 0x2C, 0x3D]

theorem toNat_mem_specialCodes {c : Char} (h : isSpecial c) :
  c.toNat ∈ specialCodes
  := by
  simp only [isSpecial, isBlank, Bool.or_eq_true, Bool.and_eq_true, decide_eq_true_eq,
    beq_iff_eq] at h
  simp only [specialCodes, List.mem_append, List.mem_range'_1, List.mem_cons]
  obtain (h | rfl) | rfl := h
  · omega
  · decide
  · decide

/-- Special characters have no letter case. -/
theorem lowerChar_of_isSpecial {c : Char} (h : isSpecial c) :
  lowerChar c = [c]
  := by
  have hfixed : ∀ n ∈ specialCodes, n ≠ 0x130 ∧ ∀ r ∈ caseRuns, ¬ r.holds n := by decide +kernel
  obtain ⟨hdot, hruns⟩ := hfixed _ (toNat_mem_specialCodes h)
  exact lowerChar_eq_self hdot hruns

/-- Characters without a special one among them. -/
def Unmarked (s : String) : Prop :=
  ∀ c ∈ s.toList, isSpecial c = false

instance (s : String) : Decidable (Unmarked s) :=
  List.decidableBAll (fun c => isSpecial c = false) s.toList

theorem unmarked_of_lower {s : String} (h : Unmarked (lower s)) :
  Unmarked s
  := by
  intro c hc
  cases hspecial : isSpecial c with
  | false => rfl
  | true =>
      have hmem : c ∈ (lower s).toList := by
        rw [lower, String.toList_ofList, List.mem_flatMap]
        use c, hc
        rw [lowerChar_of_isSpecial hspecial]
        exact List.mem_singleton_self c
      rw [h c hmem] at hspecial
      cases hspecial

theorem Unmarked.trim_eq {s : String} (h : Unmarked s) :
  trim s = s
  := by
  apply trim_of_none
  intro c hc
  have hspecial := h c hc
  simp only [isSpecial, Bool.or_eq_false_iff] at hspecial
  exact hspecial.1.1

theorem Unmarked.notMem {s : String} (h : Unmarked s) {c : Char} (hc : isSpecial c) :
  c ∉ s.toList
  := by
  intro hmem
  rw [h c hmem] at hc
  cases hc

theorem Unmarked.plainText {s : String} (h : Unmarked s) :
  ParameterOption.PlainText s
  := ⟨h.trim_eq, h.notMem (by decide)⟩

/-! ### Decimals -/

/-- A number of so many digits, as an integer or a natural number. -/
theorem natCast_lt_ten_pow_iff (m k : Nat) :
  (m : Int) < 10 ^ k ↔ m < 10 ^ k
  := by
  norm_cast

theorem digitValue?_of_isDigit {c : Char} (h : c.isDigit) :
  digitValue? c = some (c.toNat - '0'.toNat)
  := by
  rw [Char.isDigit_iff_toNat] at h
  have hnine : '9'.toNat = '0'.toNat + 9 := rfl
  have hzero : ('0'.toNat ≤ c.toNat && c.toNat < '0'.toNat + 10) = true := by
    simp only [Bool.and_eq_true, decide_eq_true_eq]
    omega
  have hfind : digitZeros.find? (fun z => z ≤ c.toNat && c.toNat < z + 10) = some '0'.toNat :=
    List.find?_cons_of_pos hzero
  rw [digitValue?, hfind, Option.map_some]

theorem digitValues?_of_isDigit {cs : List Char} (hne : cs ≠ []) (h : ∀ c ∈ cs, c.isDigit) :
  digitValues? cs = some (cs.map (fun c => c.toNat - '0'.toNat))
  := by
  induction cs with
  | nil => contradiction
  | cons c cs ih =>
      rw [List.forall_mem_cons] at h
      cases cs with
      | nil => rw [digitValues?, digitValue?_of_isDigit h.1, Option.map_some, List.map_singleton]
      | cons d cs =>
          rw [digitValues?, digitValue?_of_isDigit h.1, ih (List.cons_ne_nil d cs) h.2]
          · rfl
          · exact List.cons_ne_nil d cs
          · rintro rest ⟨⟩
            cases h.2 '_' List.mem_cons_self

theorem isDigit_toDigits (n : Nat) :
  ∀ c ∈ Nat.toDigits 10 n, c.isDigit
  := fun _ hc => Nat.isDigit_of_mem_toDigits (by decide) (by decide) hc

theorem unmarked_toString (n : Nat) :
  Unmarked (toString n)
  := by
  rw [Unmarked, Nat.toString_eq_ofList_toDigits, String.toList_ofList]
  intro c hc
  have hdigit := isDigit_toDigits n c hc
  rw [Char.isDigit_iff_toNat] at hdigit
  have hcodes : ∀ n ∈ specialCodes, ¬ ('0'.toNat ≤ n ∧ n ≤ '9'.toNat) := by decide
  cases hspecial : isSpecial c with
  | false => rfl
  | true => exact absurd hdigit (hcodes _ (toNat_mem_specialCodes hspecial))

theorem natural?_toDigits {n : Nat} (h : n < 10 ^ maxDigits) :
  natural? (Nat.toDigits 10 n) = some n
  := by
  have hlength : (Nat.toDigits 10 n).length ≤ maxDigits :=
    (Nat.length_toDigits_le_iff (by decide) (by decide)).mpr h
  have hvalue : ofDigits ((Nat.toDigits 10 n).map (fun c => c.toNat - '0'.toNat)) = n := by
    rw [ofDigits, List.foldl_map, ← Nat.ofDigitChars_eq_foldl, Nat.ofDigitChars_ten_toDigits]
  rw [natural?, digitValues?_of_isDigit Nat.toDigits_ne_nil (isDigit_toDigits n),
    Option.bind_eq_bind, Option.bind_some, List.length_map, if_pos hlength, hvalue]

/-- A natural number in decimal is read as it was written. -/
theorem integer?_toString {n : Nat} (h : n < 10 ^ maxDigits) :
  integer? (toString n) = some (n : Int)
  := by
  have hblank : ∀ c ∈ (toString n).toList, surroundsInteger c = false := by
    intro c hc
    have hspecial := unmarked_toString n c hc
    simp only [isSpecial, Bool.or_eq_false_iff] at hspecial
    rw [surroundsInteger, hspecial.1.1, Bool.false_and]
  have hsign : ∀ c cs, (toString n).toList = c :: cs → c.isDigit := by
    intro c cs hcs
    apply isDigit_toDigits n
    rw [Nat.toString_eq_ofList_toDigits, String.toList_ofList] at hcs
    rw [hcs]
    exact List.mem_cons_self
  rw [integer?, dropWhile_of_none hblank, dropLastWhile_of_none hblank]
  split
  · next cs hcs => cases hsign _ _ hcs
  · next cs hcs => cases hsign _ _ hcs
  · rw [Nat.toString_eq_ofList_toDigits, String.toList_ofList, natural?_toDigits h]
    rfl

end Text

/-! ### Spelled changes -/

namespace Change

/-- The key of the options that ask for a change, in lower case. -/
def key : Change → String
  | .accessLevel _ => "visibility"
  | .server _ => "server"
  | .client _ => "client"
  | .indentation _ => "indentation"
  | .extraImport _ => "extramoduleimports"
  | .mapPath _ => "protopathmodulemappings"
  | .fileNaming _ => "filenaming"

/-- The value of the options that ask for a change. -/
def text : Change → String
  | .accessLevel a => a.keyword
  | .server b => toString b
  | .client b => toString b
  | .indentation n => toString n
  | .extraImport m => m
  | .mapPath path => path
  | .fileNaming n => n.word

/-- Whether the value is a fixed word, in which letter case does not matter. -/
def isWord : Change → Bool
  | .accessLevel _ | .server _ | .client _ | .fileNaming _ => true
  | .indentation _ | .extraImport _ | .mapPath _ => false

/-- A change whose value can be written in an option. -/
def Writable : Change → Prop
  | .indentation n => 0 ≤ n ∧ n < 10 ^ Text.maxDigits
  | .extraImport m => ParameterOption.PlainText m
  | .mapPath path => ParameterOption.PlainText path
  | _ => True

theorem unmarked_key (c : Change) :
  Text.Unmarked c.key
  := by
  cases c with
  | _ =>
      rw [key]
      decide

/-- The fixed words. -/
def fixedWords : List String :=
  Swift.AccessLevel.all.map Swift.AccessLevel.keyword ++ FileNaming.all.map FileNaming.word
    ++ [toString true, toString false]

theorem text_mem_fixedWords {c : Change} (h : c.isWord) :
  c.text ∈ fixedWords
  := by
  cases c with
  | accessLevel a => cases a <;> decide
  | server b => cases b <;> decide
  | client b => cases b <;> decide
  | fileNaming n => cases n <;> decide
  | indentation n => cases h
  | extraImport m => cases h
  | mapPath path => cases h

theorem lower_text {c : Change} (h : c.isWord) :
  Text.lower c.text = String.ofList (c.text.toList.map Char.toLower)
  := by
  have hascii : ∀ w ∈ fixedWords, w.toList.all (fun c => c.toNat < 0x80) := by decide
  apply Text.lower_of_ascii (hascii _ (text_mem_fixedWords h))

theorem unmarked_lower_text {c : Change} (h : c.isWord) :
  Text.Unmarked (Text.lower c.text)
  := by
  have hunmarked : ∀ w ∈ fixedWords, Text.Unmarked (String.ofList (w.toList.map Char.toLower)) := by
    decide
  rw [lower_text h]
  apply hunmarked _ (text_mem_fixedWords h)

theorem plainText_text {c : Change} (hc : c.Writable) (h : ¬ c.isWord) :
  ParameterOption.PlainText c.text
  := by
  cases c with
  | indentation n =>
      obtain ⟨m, rfl⟩ := Int.eq_ofNat_of_zero_le hc.1
      exact (Text.unmarked_toString m).plainText
  | extraImport m => exact hc
  | mapPath path => exact hc
  | _ => exact absurd rfl h

end Change

/-- An option that asks for a change. -/
structure Spells (o : ParameterOption) (c : Change) : Prop where
  key : Text.lower o.key = c.key
  value : o.value = c.text ∨ (c.isWord ∧ Text.lower o.value = Text.lower c.text)

/-- The option for a change, as the documentation spells it. -/
def Change.option (c : Change) : ParameterOption where
  key := match c with
    | .accessLevel _ => "Visibility"
    | .server _ => "Server"
    | .client _ => "Client"
    | .indentation _ => "Indentation"
    | .extraImport _ => "ExtraModuleImports"
    | .mapPath _ => "ProtoPathModuleMappings"
    | .fileNaming _ => "FileNaming"
  value := c.text

theorem Change.spells_option (c : Change) :
  Spells c.option c
  := by
  refine ⟨?_, .inl rfl⟩
  cases c with
  | _ =>
      simp only [option, key]
      rw [Text.lower_of_ascii (by decide)]
      decide

namespace Spells

variable {o : ParameterOption} {c : Change}

theorem unmarked_key (h : Spells o c) :
  Text.Unmarked o.key
  := by
  apply Text.unmarked_of_lower
  rw [h.key]
  exact c.unmarked_key

theorem lower_value (h : Spells o c) :
  Text.lower o.value = Text.lower c.text
  := by
  obtain hvalue | ⟨-, hvalue⟩ := h.value
  · rw [hvalue]
  · exact hvalue

theorem unmarked_value (h : Spells o c) (hword : c.isWord) :
  Text.Unmarked o.value
  := by
  apply Text.unmarked_of_lower
  rw [h.lower_value]
  exact Change.unmarked_lower_text hword

theorem optionWord_value (h : Spells o c) (hword : c.isWord) :
  optionWord o.value = Text.lower c.text
  := by
  rw [optionWord, (h.unmarked_value hword).trim_eq, h.lower_value]

theorem value_eq (h : Spells o c) (hword : ¬ c.isWord) :
  o.value = c.text
  := h.value.resolve_right (fun hvalue => hword hvalue.1)

/-- What was spelled is left as it is by writing and reading. -/
theorem plain (h : Spells o c) (hc : c.Writable) :
  o.Plain
  := by
  have hkey := h.unmarked_key
  refine ⟨hkey.plainText, hkey.notMem (by decide), ?_⟩
  by_cases hword : c.isWord
  · exact (h.unmarked_value hword).plainText
  · rw [h.value_eq hword]
    exact Change.plainText_text hc hword

theorem accessLevel_eq {a : Swift.AccessLevel} (h : Spells o (.accessLevel a)) :
  Swift.AccessLevel.ofOption o.value = .ok a
  := by
  rw [Swift.AccessLevel.ofOption, h.optionWord_value rfl, Change.lower_text rfl]
  cases a with
  | _ => rfl

theorem fileNaming_eq {n : FileNaming} (h : Spells o (.fileNaming n)) :
  FileNaming.ofOption o.value = .ok n
  := by
  have hwords : ∀ n : FileNaming,
      Text.lower n.word = String.ofList (n.word.toList.map Char.toLower) :=
    fun n => Change.lower_text (c := .fileNaming n) rfl
  simp only [FileNaming.ofOption, h.optionWord_value rfl, Change.text, hwords]
  cases n with
  | _ => rfl

theorem boolean_eq {b : Bool} (h : Spells o c) (hword : c.isWord) (htext : c.text = toString b) :
  o.boolean = .ok b
  := by
  have hlower : optionWord o.value = String.ofList ((toString b).toList.map Char.toLower) := by
    rw [h.optionWord_value hword, Change.lower_text hword, htext]
  simp only [ParameterOption.boolean, hlower]
  cases b with
  | _ => rfl

theorem integer_eq {n : Int} (h : Spells o (.indentation n))
    (hn : 0 ≤ n ∧ n < 10 ^ Text.maxDigits) :
  o.integer = .ok n
  := by
  obtain ⟨m, rfl⟩ := Int.eq_ofNat_of_zero_le hn.1
  have hm : m < 10 ^ Text.maxDigits := (Text.natCast_lt_ten_pow_iff m _).mp hn.2
  have hvalue : o.value = toString m := h.value_eq Bool.false_ne_true
  rw [ParameterOption.integer, hvalue, Text.integer?_toString hm]

/-- What was spelled is read as it was meant. -/
theorem change_eq (h : Spells o c) (hc : c.Writable) :
  o.change = .ok c
  := by
  rw [ParameterOption.change, h.key]
  cases c with
  | accessLevel a =>
      simp only [Change.key, h.accessLevel_eq]
      rfl
  | server b =>
      simp only [Change.key, h.boolean_eq rfl rfl]
      rfl
  | client b =>
      simp only [Change.key, h.boolean_eq rfl rfl]
      rfl
  | indentation n =>
      simp only [Change.key, h.integer_eq hc]
      rfl
  | extraImport m =>
      simp only [Change.key, h.value_eq Bool.false_ne_true]
      rfl
  | mapPath path =>
      simp only [Change.key, h.value_eq Bool.false_ne_true]
      rfl
  | fileNaming n =>
      simp only [Change.key, h.fileNaming_eq]
      rfl

end Spells

theorem mapM_change_of_spells {os : List ParameterOption} {cs : List Change}
    (h : List.Forall₂ Spells os cs) (hcs : ∀ c ∈ cs, c.Writable) :
  (∀ o ∈ os, o.Plain) ∧ os.mapM ParameterOption.change = .ok cs
  := by
  rw [mapM_eq_ok_iff]
  induction h with
  | nil => exact ⟨List.forall_mem_nil _, .nil⟩
  | cons ho _ ih =>
      rw [List.forall_mem_cons] at hcs
      obtain ⟨hplain, hchanges⟩ := ih hcs.2
      rw [List.forall_mem_cons]
      exact ⟨⟨ho.plain hcs.1, hplain⟩, .cons (ho.change_eq hcs.1) hchanges⟩

/-- A parameter makes the changes that it was written for. -/
theorem Draft.ofParameter_written {os : List ParameterOption} {cs : List Change}
    (h : List.Forall₂ Spells os cs) (hcs : ∀ c ∈ cs, c.Writable) (base : Configuration) :
  Draft.ofParameter base (ParameterOption.written os)
    = .ok (cs.foldl Draft.apply (Draft.ofConfiguration base))
  := by
  obtain ⟨hplain, hchanges⟩ := mapM_change_of_spells h hcs
  rw [Draft.ofParameter, ParameterOption.ofParameter_written hplain, Draft.foldlM_set, hchanges]
  rfl

end SwiftStubs
