/-!
Comparison of texts that ignores the case of the letters A to Z. Other letters count as written, so
an accented capital differs from its small form.
-/

namespace Rolebook.Text

/-- The text with the letters A to Z in small form and every other character as it is. -/
def lowerAscii (text : String) : String :=
  String.ofList (text.toList.map Char.toLower)

def sameLetters (left right : String) : Bool :=
  lowerAscii left == lowerAscii right

theorem sameLetters_iff {left right : String} :
    sameLetters left right = true ↔ lowerAscii left = lowerAscii right := by
  simp [sameLetters]

theorem lowerAscii_eq_empty_iff {text : String} : lowerAscii text = "" ↔ text = "" := by
  simp [lowerAscii]

end Rolebook.Text
