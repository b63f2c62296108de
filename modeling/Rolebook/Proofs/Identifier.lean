import Rolebook.Identifier
import Rolebook.Text.Blank

/-!
Printed identifiers. Every identifier is read back from its printed form, in which no character is blank,
so that blanks around it are all that trimming takes away.
-/

namespace Rolebook

namespace Text

theorem dropWhile_isBlank_of_solid {characters : List Char}
    (isSolid : ∀ character ∈ characters, isBlank character = false) :
    characters.dropWhile isBlank = characters := by
  cases characters with
  | nil => rfl
  | cons first rest => simp [isSolid first]

theorem trimChars_padded {before characters after : List Char}
    (areBefore : ∀ character ∈ before, isBlank character = true)
    (areAfter : ∀ character ∈ after, isBlank character = true)
    (isSolid : ∀ character ∈ characters, isBlank character = false) :
    trimChars (before ++ characters ++ after) = characters := by
  have areAfterToo : ∀ character ∈ after.reverse, isBlank character = true := by simpa using areAfter
  have isSolidToo : ∀ character ∈ characters.reverse, isBlank character = false := by simpa using isSolid
  unfold trimChars
  rw [List.append_assoc, List.dropWhile_append_of_pos areBefore]
  cases characters with
  | nil =>
      have noneLeft : after.dropWhile isBlank = [] := by
        rw [← List.append_nil after, List.dropWhile_append_of_pos areAfter]
        rfl
      simp [noneLeft]
  | cons first rest =>
      have isKept : (first :: rest ++ after).dropWhile isBlank = first :: rest ++ after := by
        simp [isSolid first]
      rw [isKept, List.reverse_append, List.dropWhile_append_of_pos areAfterToo,
        dropWhile_isBlank_of_solid isSolidToo, List.reverse_reverse]

theorem trim_padded {before text after : String}
    (areBefore : ∀ character ∈ before.toList, isBlank character = true)
    (areAfter : ∀ character ∈ after.toList, isBlank character = true)
    (isSolid : ∀ character ∈ text.toList, isBlank character = false) :
    trim (before ++ text ++ after) = text := by
  rw [trim, String.toList_append, String.toList_append, trimChars_padded areBefore areAfter isSolid,
    String.ofList_toList]

theorem isBlank_hexDigit (value : Nat) : isBlank (hexDigit value) = false := by
  by_cases isSmall : value < 16
  · have every : ∀ value : Fin 16, isBlank (hexDigit value.val) = false := by decide
    exact every ⟨value, isSmall⟩
  · have isZero : hexDigit value = '0' := by
      simp [hexDigit, List.getD_eq_getElem?_getD, Nat.le_of_not_lt isSmall]
    rw [isZero]
    decide

theorem isBlank_hexDigits {count value : Nat} {character : Char}
    (isDigit : character ∈ hexDigits count value) : isBlank character = false := by
  induction count generalizing value with
  | zero => simp [hexDigits] at isDigit
  | succ count inductionHypothesis =>
      rcases List.mem_append.mp isDigit with isEarlier | isLast
      · exact inductionHypothesis isEarlier
      · rw [List.mem_singleton.mp isLast]
        exact isBlank_hexDigit _

end Text

namespace Uuid

theorem length_hyphenate {digits : List Char} (isWhole : digits.length = 32) :
    (hyphenate digits).length = 36 := by
  simp [hyphenate, isWhole]

theorem mem_hyphenate {digits : List Char} {character : Char} (isListed : character ∈ hyphenate digits) :
    character = '-' ∨ character ∈ digits := by
  simp only [hyphenate, List.mem_append, List.mem_cons] at isListed
  rcases isListed with (((isDigit | rfl | isDigit) | rfl | isDigit) | rfl | isDigit) | rfl | isDigit
  all_goals grind [List.mem_of_mem_take, List.mem_of_mem_drop]

theorem ofHyphenated?_hyphenate {digits : List Char} (isWhole : digits.length = 32) :
    ofHyphenated? (hyphenate digits) = ofDigits? digits := by
  have hyphens : [8, 13, 18, 23].all (fun place => (hyphenate digits)[place]? == some '-') = true := by
    simp [hyphenate, isWhole, List.getElem?_append]
  have fourth : (digits.drop 16).take 4 ++ digits.drop 20 = digits.drop 16 := by
    simpa using List.take_append_drop 4 (digits.drop 16)
  have third : (digits.drop 12).take 4 ++ digits.drop 16 = digits.drop 12 := by
    simpa using List.take_append_drop 4 (digits.drop 12)
  have second : (digits.drop 8).take 4 ++ digits.drop 12 = digits.drop 8 := by
    simpa using List.take_append_drop 4 (digits.drop 8)
  have areDigits : (hyphenate digits).take 8 ++ ((hyphenate digits).drop 9).take 4 ++
      ((hyphenate digits).drop 14).take 4 ++ ((hyphenate digits).drop 19).take 4 ++
        (hyphenate digits).drop 24 = digits := by
    simp [hyphenate, isWhole, List.drop_append, List.drop_take, fourth, third, second]
  rw [ofHyphenated?, if_pos ⟨length_hyphenate isWhole, hyphens⟩, areDigits]

@[simp]
theorem parse?_text (uuid : Uuid) : parse? uuid.text = some uuid := by
  have isWhole : uuid.digits.length = 32 := Text.length_hexDigits 32 _
  have areDigits : ofDigits? uuid.digits = some uuid := by
    have fits : uuid.bits.toNat % Nat.pow 16 32 = uuid.bits.toNat := Nat.mod_eq_of_lt uuid.bits.isLt
    rw [ofDigits?, if_pos isWhole, digits, Text.hexNumber?_hexDigits, fits, Option.map_some,
      BitVec.ofNat_toNat, BitVec.setWidth_eq]
  have isTooLong : ofDigits? (hyphenate uuid.digits) = none := by
    rw [ofDigits?, if_neg]
    rw [length_hyphenate isWhole]
    decide
  simp [parse?, text, isTooLong, ofHyphenated?_hyphenate isWhole, areDigits]

theorem isBlank_text {uuid : Uuid} {character : Char} (isListed : character ∈ uuid.text.toList) :
    Text.isBlank character = false := by
  rw [text, String.toList_ofList] at isListed
  rcases mem_hyphenate isListed with rfl | isDigit
  · decide
  · exact Text.isBlank_hexDigits isDigit

end Uuid

@[simp]
theorem RoleId.parse?_text (role : RoleId) : parse? role.text = some role := by
  simp [parse?, text]

end Rolebook
