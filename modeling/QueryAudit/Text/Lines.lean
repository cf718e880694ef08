/-!
# Lines

A line ends with a line feed, together with the carriage return in front of
it if there is one.  The last line may lack its end, and no line follows the
last end.  A carriage return by itself is an ordinary character.
-/

namespace QueryAudit.Text

/-- The lines of a text, without their ends. -/
def lines : List Char → List (List Char)
  | [] => []
  | '\n' :: s => [] :: lines s
  | '\r' :: '\n' :: s => [] :: lines s
  | c :: s =>
    match lines s with
    | [] => [[c]]
    | line :: rest => (c :: line) :: rest

/-- A text has no lines exactly when it is empty. -/
theorem lines_eq_nil {s : List Char} : lines s = [] ↔ s = [] := by
  fun_cases lines s <;> simp_all

end QueryAudit.Text
