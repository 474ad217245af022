import SwiftStubs.Name
import SwiftStubs.Proofs.Lines
import Mathlib

/-!
# The casings of identifiers

An identifier in upper camel case consists of letters and digits, and its first character is no
small letter. Two identifiers that differ in upper camel case can agree in lower camel case, where
capitals in front become small. In particular there are two that become `init`, the name that Swift
has for initializers (`lowerCamel_eq_init_iff`).
-/

namespace SwiftStubs

/-! ### Upper camel case -/

theorem isAlphanum_toUpper {c : Char} (h : c.isAlphanum) :
  c.toUpper.isAlphanum
  := by
  by_cases hlower : c.isLower
  · have halpha : c.toUpper.isAlpha = true := by
      rw [Char.isAlpha_toUpper_eq_isAlpha, Char.isAlpha, hlower, Bool.or_true]
    rw [Char.isAlphanum, halpha, Bool.true_or]
  · rwa [Char.toUpper_eq_of_not_isLower hlower]

theorem isAlphanum_of_mem_words {cs w : List Char} (h : w ∈ words cs) :
  ∀ c ∈ w, c.isAlphanum
  := by
  intro c hc
  obtain ⟨hpiece, -⟩ := List.mem_filter.mp h
  simpa using (Text.mem_of_mem_splitOnP w hpiece c hc).2

/-- An identifier in upper camel case consists of letters and digits. -/
theorem isAlphanum_of_mem_upperCamel {x : String} :
  ∀ c ∈ (upperCamel x).toList, c.isAlphanum
  := by
  rw [upperCamel, String.toList_ofList, upperCamelChars, List.forall_mem_flatMap]
  intro w hw
  have halphanum := isAlphanum_of_mem_words hw
  cases w with
  | nil => exact List.forall_mem_nil _
  | cons c cs =>
      rw [List.forall_mem_cons] at halphanum
      rw [capitalize, List.forall_mem_cons]
      exact ⟨isAlphanum_toUpper halphanum.1, halphanum.2⟩

/-- The first character of an identifier in upper camel case is no small letter. -/
theorem isLower_of_upperCamelChars_eq {cs rest : List Char} {c : Char}
    (h : upperCamelChars cs = c :: rest) :
  c.isLower = false
  := by
  rw [upperCamelChars] at h
  cases hwords : words cs with
  | nil =>
      rw [hwords] at h
      cases h
  | cons w ws =>
      have hmem : w ∈ words cs := by
        rw [hwords]
        exact List.mem_cons_self
      have hw : w ≠ [] := by simpa using (List.mem_filter.mp hmem).2
      obtain ⟨d, ds, rfl⟩ := List.exists_cons_of_ne_nil hw
      rw [hwords, List.flatMap_cons, capitalize, List.cons_append, List.cons.injEq] at h
      rw [← h.1]
      exact Char.isLower_toUpper_eq_false d

/-! ### Lower camel case -/

theorem length_decapitalize (cs : List Char) :
  (decapitalize cs).length = cs.length
  := by
  rw [decapitalize, List.length_append, List.length_map, ← List.length_append,
    List.take_append_drop]

/-- A capital is known from its small letter. -/
theorem eq_toUpper_of_toLower_eq {c x : Char} (h : c.isUpper) (hlower : c.toLower = x) :
  c = x.toUpper
  := by
  rw [← hlower, Char.toUpper_toLower_eq_toUpper, Char.toUpper_eq_of_not_isLower]
  exact Char.not_isLower_of_isUpper h

/-- What becomes `init` if the capitals in front become small. Of two or three capitals the last one
would stay. -/
theorem eq_of_decapitalize_eq_init {cs : List Char} (h : decapitalize cs = "init".toList) :
  cs = "init".toList ∨ cs = "Init".toList ∨ cs = "INIT".toList
  := by
  have hlength : cs.length = 4 := by
    rw [← length_decapitalize, h]
    rfl
  obtain ⟨a, b, c, d, rfl⟩ := List.length_eq_four.mp hlength
  cases ha : a.isUpper with
  | false =>
      left
      simpa [decapitalize, loweredCount, ha] using h
  | true =>
      right
      cases hb : b.isUpper with
      | false =>
          left
          have hinit : a.toLower = 'i' ∧ b = 'n' ∧ c = 'i' ∧ d = 't' := by
            simpa [decapitalize, loweredCount, ha, hb] using h
          obtain ⟨ha', rfl, rfl, rfl⟩ := hinit
          rw [eq_toUpper_of_toLower_eq ha ha']
          rfl
      | true =>
          right
          cases hc : c.isUpper with
          | false =>
              have hinit : a.toLower = 'i' ∧ b = 'n' ∧ c = 'i' ∧ d = 't' := by
                simpa [decapitalize, loweredCount, ha, hb, hc] using h
              obtain ⟨-, rfl, -, -⟩ := hinit
              cases hb
          | true =>
              cases hd : d.isUpper with
              | false =>
                  have hinit : a.toLower = 'i' ∧ b.toLower = 'n' ∧ c = 'i' ∧ d = 't' := by
                    simpa [decapitalize, loweredCount, ha, hb, hc, hd] using h
                  obtain ⟨-, -, rfl, -⟩ := hinit
                  cases hc
              | true =>
                  have hinit : a.toLower = 'i' ∧ b.toLower = 'n' ∧ c.toLower = 'i'
                      ∧ d.toLower = 't' := by
                    simpa [decapitalize, loweredCount, ha, hb, hc, hd] using h
                  obtain ⟨ha', hb', hc', hd'⟩ := hinit
                  rw [eq_toUpper_of_toLower_eq ha ha', eq_toUpper_of_toLower_eq hb hb',
                    eq_toUpper_of_toLower_eq hc hc', eq_toUpper_of_toLower_eq hd hd']
                  rfl

/-- The identifiers whose lower camel case is `init`. -/
theorem lowerCamel_eq_init_iff (x : String) :
  lowerCamel x = "init" ↔ upperCamel x = "Init" ∨ upperCamel x = "INIT"
  := by
  rw [lowerCamel, upperCamel, String.ofList_eq, String.ofList_eq, String.ofList_eq]
  constructor
  · intro h
    obtain hinit | h := eq_of_decapitalize_eq_init h
    · cases isLower_of_upperCamelChars_eq hinit
    · exact h
  · rintro (h | h)
    · rw [h]
      decide
    · rw [h]
      decide

end SwiftStubs
