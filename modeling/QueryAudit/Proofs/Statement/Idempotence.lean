import QueryAudit.Proofs.Statement.ReadBack

/-!
# Shaping a shape

Shaping a shape reads it again.  That changes nothing exactly when the shape is settled.
A shape need not be: what is read from a shape may differ from what was written to it.
The shapes of legible statements are read as they were written, and so are settled.
-/

namespace QueryAudit.Statement

open Sql

/-- **Shaping twice is shaping once exactly when the shape is settled**, as the shape of
every legible statement is. -/
theorem shape_shape_eq_iff (statement : String) :
    (shape (shape statement) = shape statement ↔ Settled (shape statement).toList) ∧
      ∀ ts, tokenize statement.toList = some ts → Legible ts →
        shape (shape statement) = shape statement := by
  have hlist : (shape statement).toList = shapeOfChars statement.toList :=
    String.toList_ofList
  have htwice : (shape (shape statement)).toList = shapeOfChars (shape statement).toList :=
    String.toList_ofList
  refine ⟨?_, ?_⟩
  · rw [← shapeOfChars_eq_self_iff, ← String.toList_inj, htwice]
  · intro ts htokens hlegible
    rw [← String.toList_inj, htwice, hlist]
    exact shapeOfChars_shapeOfChars_of_legible htokens hlegible

/-- A statement with a quoted name, a signed number, a comment and a string is legible. -/
theorem shape_shape_of_comment :
    ∃ ts, tokenize "a.`b` <> -5 -- c\n, N'd';".toList = some ts ∧ Legible ts ∧
      shape (shape "a.`b` <> -5 -- c\n, N'd';") = shape "a.`b` <> -5 -- c\n, N'd';" := by
  have hread : tokenize "a.`b` <> -5 -- c\n, N'd';".toList =
      some [.word ['a'], .symbol ['.'], .quotedWord '\x60' ['b'], .space, .symbol ['<', '>'],
        .space, .minus, .number ['5'], .space, .lineComment [' ', 'c', '\n'],
        .symbol [','], .space, .literal .national ['d'], .symbol [';']] := by
    decide +kernel
  exact ⟨_, hread, by decide, (shape_shape_eq_iff _).2 _ hread (by decide)⟩

/-- A statement whose string is not closed keeps its comment, but loses the line break
that ended it: its shape ends with a comment, which shaping takes away. -/
theorem shape_shape_ne :
    shape (shape "SELECT title FROM book -- by id\nWHERE name = 'open") ≠
      shape "SELECT title FROM book -- by id\nWHERE name = 'open" := by
  decide +kernel

end QueryAudit.Statement
