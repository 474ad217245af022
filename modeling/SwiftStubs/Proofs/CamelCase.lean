import SwiftStubs.Proofs.Casing

/-!
# The laws of camel case

Putting an identifier in camel case drops what is neither a letter nor a digit and changes the case
of some letters, and nothing else. So an identifier in camel case is a single word, to which a
casing can be applied again. The upper camel case of a word differs from it in the first character
at most. The lower camel case looks at the whole run of capitals in front, of which the last one may
stay: `lowerFollowing` says what becomes of the characters behind the first capital, one by one, and
doing it twice is doing it once.
-/

namespace SwiftStubs

/-! ### Letters and digits -/

theorem toLower_toLower (c : Char) :
  c.toLower.toLower = c.toLower
  := by
  apply Char.toLower_eq_of_not_isUpper
  simp

theorem flatten_splitOnP {α : Type} (p : α → Bool) (xs : List α) :
  (xs.splitOnP p).flatten = xs.filter (fun x => !p x)
  := by
  induction xs with
  | nil => rfl
  | cons x xs ih =>
      obtain ⟨first, more, hpieces⟩ := List.exists_cons_of_ne_nil (List.splitOnP_ne_nil p xs)
      rw [hpieces, List.flatten_cons] at ih
      rw [List.splitOnP_cons_eq_if_modifyHead, hpieces]
      cases hx : p x with
      | true =>
          rw [if_pos rfl, List.flatten_cons, List.nil_append, List.flatten_cons, ih]
          simp [hx]
      | false =>
          rw [if_neg Bool.false_ne_true, List.modifyHead_cons, List.flatten_cons,
            List.cons_append, ih]
          simp [hx]

/-- The words of an identifier are its letters and digits. -/
theorem flatten_words (cs : List Char) :
  (words cs).flatten = cs.filter Char.isAlphanum
  := by
  rw [words, List.flatten_filter_not_isEmpty, flatten_splitOnP]
  simp

theorem map_toLower_capitalize (w : List Char) :
  (capitalize w).map Char.toLower = w.map Char.toLower
  := by
  cases w with
  | nil => rfl
  | cons c cs => rw [capitalize, List.map_cons, Char.toLower_toUpper_eq_toLower, List.map_cons]

/-- Upper camel case keeps the letters and digits, but for their case. -/
theorem map_toLower_upperCamelChars (cs : List Char) :
  (upperCamelChars cs).map Char.toLower = (cs.filter Char.isAlphanum).map Char.toLower
  := by
  rw [← flatten_words, upperCamelChars, List.map_flatMap, List.map_flatten, List.flatMap_def]
  simp only [map_toLower_capitalize]

theorem map_toLower_decapitalize (cs : List Char) :
  (decapitalize cs).map Char.toLower = cs.map Char.toLower
  := by
  have htwice : Char.toLower ∘ Char.toLower = Char.toLower := funext toLower_toLower
  rw [decapitalize, List.map_append, List.map_map, htwice, ← List.map_append,
    List.take_append_drop]

/-! ### Single words -/

/-- Letters and digits alone are one word. -/
theorem upperCamelChars_of_isAlphanum {cs : List Char} (h : ∀ c ∈ cs, c.isAlphanum) :
  upperCamelChars cs = capitalize cs
  := by
  have hpieces : cs.splitOnP (fun c => !c.isAlphanum) = [cs] := by
    apply List.splitOnP_eq_singleton
    intro c hc
    simp [h c hc]
  rw [upperCamelChars, words, hpieces]
  cases cs with
  | nil => rfl
  | cons c cs => simp

theorem isAlphanum_toLower {c : Char} (h : c.isAlphanum) :
  c.toLower.isAlphanum
  := by
  by_cases hupper : c.isUpper
  · have halpha : c.toLower.isAlpha = true := by
      rw [Char.isAlpha_toLower_eq_isAlpha, Char.isAlpha, hupper, Bool.true_or]
    rw [Char.isAlphanum, halpha, Bool.true_or]
  · rwa [Char.toLower_eq_of_not_isUpper hupper]

theorem isAlphanum_of_mem_decapitalize {cs : List Char} (h : ∀ c ∈ cs, c.isAlphanum) :
  ∀ c ∈ decapitalize cs, c.isAlphanum
  := by
  rw [decapitalize, List.forall_mem_append, List.forall_mem_map]
  constructor
  · intro c hc
    apply isAlphanum_toLower (h c (List.mem_of_mem_take hc))
  · intro c hc
    apply h c (List.mem_of_mem_drop hc)

theorem isAlphanum_of_mem_upperCamelChars (cs : List Char) :
  ∀ c ∈ upperCamelChars cs, c.isAlphanum
  := by
  have h := isAlphanum_of_mem_upperCamel (x := String.ofList cs)
  rwa [upperCamel, String.toList_ofList, String.toList_ofList] at h

/-- There is a capital in front of upper camel case already, if it starts with a letter. -/
theorem capitalize_upperCamelChars (cs : List Char) :
  capitalize (upperCamelChars cs) = upperCamelChars cs
  := by
  cases h : upperCamelChars cs with
  | nil => rfl
  | cons c rest =>
      rw [capitalize, Char.toUpper_eq_of_not_isLower]
      rw [isLower_of_upperCamelChars_eq h]
      exact Bool.false_ne_true

theorem upperCamelChars_upperCamelChars (cs : List Char) :
  upperCamelChars (upperCamelChars cs) = upperCamelChars cs
  := by
  rw [upperCamelChars_of_isAlphanum (isAlphanum_of_mem_upperCamelChars cs),
    capitalize_upperCamelChars]

/-! ### The run of capitals in front -/

/-- What becomes of the characters behind a capital in front. A capital becomes small if another one
or nothing follows, and otherwise starts the next word. -/
def lowerFollowing : List Char → List Char
  | [] => []
  | c :: cs =>
    if c.isUpper ∧ cs.head?.all Char.isUpper then c.toLower :: lowerFollowing cs else c :: cs

theorem decapitalize_of_not_isUpper {c : Char} (h : ¬ c.isUpper) (cs : List Char) :
  decapitalize (c :: cs) = c :: cs
  := by
  simp [decapitalize, loweredCount, h]

/-- Of several capitals in front, the first becomes small beside those behind it, unless the second
one starts the next word. -/
theorem loweredCount_cons_cons {c : Char} (hc : c.isUpper) (d : Char) (cs : List Char) :
  loweredCount (c :: d :: cs)
    = if d.isUpper ∧ cs.head?.all Char.isUpper then loweredCount (d :: cs) + 1 else 1
  := by
  cases hd : d.isUpper with
  | false => simp [loweredCount, hc, hd]
  | true =>
      cases cs with
      | nil => simp [loweredCount, hc, hd]
      | cons e cs =>
          cases he : e.isUpper with
          | false => simp [loweredCount, hc, hd, he]
          | true =>
              simp only [loweredCount, List.takeWhile_cons_of_pos hc,
                List.takeWhile_cons_of_pos hd, List.takeWhile_cons_of_pos he, List.length_cons,
                List.head?_cons, Option.all_some, he, and_self, if_true]
              split <;> split <;> omega

theorem decapitalize_of_isUpper {c : Char} (h : c.isUpper) (cs : List Char) :
  decapitalize (c :: cs) = c.toLower :: lowerFollowing cs
  := by
  induction cs generalizing c with
  | nil => simp [decapitalize, loweredCount, h, lowerFollowing]
  | cons d cs ih =>
      rw [decapitalize, loweredCount_cons_cons h, lowerFollowing]
      split
      · next hd =>
          rw [← ih hd.1, decapitalize, List.take_succ_cons, List.map_cons, List.drop_succ_cons,
            List.cons_append]
      · rfl

theorem lowerFollowing_lowerFollowing (cs : List Char) :
  lowerFollowing (lowerFollowing cs) = lowerFollowing cs
  := by
  cases cs with
  | nil => rfl
  | cons c cs =>
      rw [lowerFollowing]
      split
      · rw [lowerFollowing, if_neg]
        simp
      · next h => rw [lowerFollowing, if_neg h]

/-- A word in lower camel case stays as it is, also if it gets a capital in front in between. -/
theorem decapitalize_capitalize_decapitalize {cs : List Char} (h : capitalize cs = cs) :
  decapitalize (capitalize (decapitalize cs)) = decapitalize cs
  := by
  cases cs with
  | nil => rfl
  | cons c cs =>
      by_cases hc : c.isUpper
      · rw [decapitalize_of_isUpper hc, capitalize, Char.toUpper_toLower_eq_toUpper]
        rw [capitalize, List.cons.injEq] at h
        rw [h.1, decapitalize_of_isUpper hc, lowerFollowing_lowerFollowing]
      · rw [decapitalize_of_not_isUpper hc, h, decapitalize_of_not_isUpper hc]

/-! ### The laws -/

/-- Both casings are idempotent, the lower one does not notice the upper one, and both keep exactly
the letters and digits of an identifier, in their order and but for their case. -/
theorem camelCase_laws (x : String) :
  upperCamel (upperCamel x) = upperCamel x
    ∧ lowerCamel (lowerCamel x) = lowerCamel x
    ∧ lowerCamel (upperCamel x) = lowerCamel x
    ∧ (upperCamel x).toList.map Char.toLower = (x.toList.filter Char.isAlphanum).map Char.toLower
    ∧ (lowerCamel x).toList.map Char.toLower = (x.toList.filter Char.isAlphanum).map Char.toLower
  := by
  simp only [upperCamel, lowerCamel, String.toList_ofList, String.ofList_inj]
  have hword := isAlphanum_of_mem_upperCamelChars x.toList
  refine ⟨?_, ?_, ?_, ?_, ?_⟩
  · apply upperCamelChars_upperCamelChars
  · rw [upperCamelChars_of_isAlphanum (isAlphanum_of_mem_decapitalize hword)]
    apply decapitalize_capitalize_decapitalize (capitalize_upperCamelChars x.toList)
  · rw [upperCamelChars_upperCamelChars]
  · apply map_toLower_upperCamelChars
  · rw [map_toLower_decapitalize, map_toLower_upperCamelChars]

end SwiftStubs
