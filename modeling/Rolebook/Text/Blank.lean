/-!
Blank characters and trimming. A character is blank when it has the Unicode property White_Space, so
the no-break spaces, the ideographic space and U+0085 are blank, while the zero-width space, the byte
order mark and the information separators are not. Trimming twice changes nothing more.
-/

namespace Rolebook.Text

/-- The first and last code points of each run of characters with the property White_Space. -/
def blankRanges : List (Nat × Nat) :=
  [(0x9, 0xD), (0x20, 0x20), (0x85, 0x85), (0xA0, 0xA0), (0x1680, 0x1680), (0x2000, 0x200A),
   (0x2028, 0x2029), (0x202F, 0x202F), (0x205F, 0x205F), (0x3000, 0x3000)]

def isBlank (character : Char) : Bool :=
  blankRanges.any fun range => range.1 ≤ character.toNat && character.toNat ≤ range.2

def trimChars (characters : List Char) : List Char :=
  ((characters.dropWhile isBlank).reverse.dropWhile isBlank).reverse

def trim (text : String) : String :=
  String.ofList (trimChars text.toList)

def blank (text : String) : Bool :=
  (trim text).isEmpty

private theorem dropWhile_dropWhile (test : Char → Bool) (characters : List Char) :
    (characters.dropWhile test).dropWhile test = characters.dropWhile test := by
  induction characters with
  | nil => rfl
  | cons head tail inductionHypothesis =>
      by_cases passed : test head <;> simp [passed, inductionHypothesis]

private theorem dropWhile_eq_of_head {test : Char → Bool} {characters : List Char}
    (first : ∀ character, characters.head? = some character → test character = false) :
    characters.dropWhile test = characters := by
  cases characters with
  | nil => rfl
  | cons head tail => simp [first head rfl]

private theorem head_dropWhile {test : Char → Bool} {characters : List Char} {character : Char}
    (first : (characters.dropWhile test).head? = some character) : test character = false := by
  induction characters with
  | nil => simp at first
  | cons head tail inductionHypothesis =>
      by_cases passed : test head
      · exact inductionHypothesis (by simpa [passed] using first)
      · simp [passed] at first
        simpa [first] using passed

private theorem head_reverse_dropWhile_reverse {test : Char → Bool} {characters : List Char}
    {character : Char}
    (first : (characters.reverse.dropWhile test).reverse.head? = some character) :
    characters.head? = some character := by
  have split := List.takeWhile_append_dropWhile (p := test) (l := characters.reverse)
  have unfolded : characters =
      (characters.reverse.dropWhile test).reverse ++ (characters.reverse.takeWhile test).reverse := by
    rw [← List.reverse_append, split, List.reverse_reverse]
  rw [unfolded]
  cases remaining : (characters.reverse.dropWhile test).reverse with
  | nil => rw [remaining] at first; simp at first
  | cons head tail => rw [remaining] at first; simpa using first

theorem trimChars_trimChars (characters : List Char) :
    trimChars (trimChars characters) = trimChars characters := by
  unfold trimChars
  have kept : ((characters.dropWhile isBlank).reverse.dropWhile isBlank).reverse.dropWhile isBlank =
      ((characters.dropWhile isBlank).reverse.dropWhile isBlank).reverse :=
    dropWhile_eq_of_head fun _ first =>
      head_dropWhile (head_reverse_dropWhile_reverse first)
  rw [kept, List.reverse_reverse, dropWhile_dropWhile]

@[simp]
theorem trim_trim (text : String) : trim (trim text) = trim text := by
  simp [trim, trimChars_trimChars]

theorem blank_iff {text : String} : blank text = true ↔ trim text = "" := by
  simp [blank]

end Rolebook.Text
