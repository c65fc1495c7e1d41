import Mathlib

/-!
# Surrounding white space

`String.prototype.trim` removes white space and line terminators from both ends
of a text.
-/

namespace Heritage.Text

/-- `WhiteSpace` and `LineTerminator` of the language. -/
def whiteSpaces : List Char :=
  ['\t', '\n', '\x0b', '\x0c', '\r', ' ', '\u00a0', '\u1680', '\u2000',
    '\u2001', '\u2002', '\u2003', '\u2004', '\u2005', '\u2006', '\u2007',
    '\u2008', '\u2009', '\u200a', '\u2028', '\u2029', '\u202f', '\u205f',
    '\u3000', '\ufeff']

def isWhiteSpace (letter : Char) : Bool :=
  letter ∈ whiteSpaces

def trimLetters (letters : List Char) : List Char :=
  ((letters.dropWhile isWhiteSpace).reverse.dropWhile isWhiteSpace).reverse

def trim (text : String) : String :=
  String.ofList (trimLetters text.toList)

theorem dropWhile_of_head {letters : List Char}
    (solid : ∀ letter ∈ letters.head?, isWhiteSpace letter = false) :
    letters.dropWhile isWhiteSpace = letters := by
  cases letters with
  | nil =>
      rfl
  | cons head tail =>
      have headSolid := solid head rfl
      rw [List.dropWhile_cons_of_neg]
      rw [headSolid]
      exact Bool.false_ne_true

/-- A text with no white space at its ends stays as it is. -/
theorem trim_of_solid {text : String}
    (first : ∀ letter ∈ text.toList.head?, isWhiteSpace letter = false)
    (last : ∀ letter ∈ text.toList.getLast?, isWhiteSpace letter = false) :
    trim text = text := by
  have reversed :
      ∀ letter ∈ text.toList.reverse.head?, isWhiteSpace letter = false := by
    rw [List.head?_reverse]
    exact last
  unfold trim trimLetters
  rw [dropWhile_of_head first, dropWhile_of_head reversed,
    List.reverse_reverse, String.ofList_toList]

end Heritage.Text
