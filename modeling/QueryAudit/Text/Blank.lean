import QueryAudit.Text.CharSet

/-!
# Blank characters

Blank means the Unicode property White_Space.  Texts are trimmed at blanks,
and cut at them into words.
-/

namespace QueryAudit.Text

/-- The characters with the property White_Space. -/
def blanks : CharSet :=
  [(0x9, 0xD), (0x20, 0x20), (0x85, 0x85), (0xA0, 0xA0), (0x1680, 0x1680), (0x2000, 0x200A),
   (0x2028, 0x2029), (0x202F, 0x202F), (0x205F, 0x205F), (0x3000, 0x3000)]

/-- Is the character a blank? -/
def isBlank (c : Char) : Bool := blanks.has c

/-- The text without the blanks at its end. -/
def trimEnd (s : List Char) : List Char := (s.reverse.dropWhile isBlank).reverse

/-- The text without the blanks at its two ends. -/
def trim (s : List Char) : List Char := trimEnd (s.dropWhile isBlank)

/-- Dropping characters from the front makes no text longer. -/
theorem length_dropWhile_le (p : Char → Bool) (s : List Char) :
    (s.dropWhile p).length ≤ s.length :=
  (List.dropWhile_suffix p).length_le

/-- The longest runs of characters that are not blank, in order. -/
def words : List Char → List (List Char)
  | [] => []
  | c :: s =>
    if isBlank c then words s
    else (c :: s.takeWhile (!isBlank ·)) :: words (s.dropWhile (!isBlank ·))
termination_by s => s.length
decreasing_by
  · simp
  · exact Nat.lt_succ_of_le (length_dropWhile_le _ s)

/-- The words of a text with one space between any two. -/
def collapse (s : List Char) : List Char := [' '].intercalate (words s)

end QueryAudit.Text
