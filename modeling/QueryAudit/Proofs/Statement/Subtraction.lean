import QueryAudit.Proofs.Statement.Name

/-!
# Subtraction from a column

A minus sign in front of a number subtracts if an operand stands before it, and a column
is one.  Whether a word is taken for a column is read off the word alone, so a column that
is called like a keyword is not, although nothing but a column can stand behind a point.  The
sign is then taken for the sign of the number (`shape_of_subtraction`).
-/

namespace QueryAudit.Statement

open Sql Text

/-! ## The statement -/

/-- A point in front of a name is a symbol. -/
theorem tokenize_point {name rest : List Char} (h : isOrdinaryName name = true) :
    tokenize ('.' :: (name ++ rest)) =
      (tokenize (name ++ rest)).map (.symbol ['.'] :: ·) := by
  cases name with
  | nil => cases h
  | cons c name =>
      rw [isOrdinaryName, Bool.and_eq_true] at h
      have hdigit := isDigit_of_isAlpha h.1
      have hnumeral : numeral '.' (c :: name ++ rest) = (.symbol ['.'], c :: name ++ rest) := by
        simp [numeral, hdigit]
      exact tokenize_cons_some (congrArg some hnumeral)

/-- The tokens of a subtraction from a column of a table. -/
theorem tokenize_subtraction {q w d : List Char} (hq : isOrdinaryName q = true)
    (hw : isOrdinaryName w = true) (hd : d ≠ []) (hdigits : ∀ c ∈ d, c.isDigit = true) :
    tokenize ("SELECT".toList ++
        ' ' :: (q ++ '.' :: (w ++ ' ' :: ('-' :: d ++ " FROM t".toList)))) =
      some [.word "SELECT".toList, .space, .word q, .symbol ['.'], .word w, .space, .minus,
        .number d, .space, .word "FROM".toList, .space, .word ['t']] := by
  have hdecimal : Decimal d := by
    simpa using Decimal.mk d [] [] hd hdigits (.inl rfl) (.inl rfl)
  have hends : EndsValue " FROM t".toList := by
    intro c hc
    obtain rfl : ' ' = c := Option.some.inj hc
    exact .inl (by decide)
  have hspace (s : List Char) : tokenize (' ' :: s) = (tokenize s).map (.space :: ·) :=
    tokenize_cons_some rfl
  have hrest : tokenize " FROM t".toList =
      some [.space, .word "FROM".toList, .space, .word ['t']] := by decide +kernel
  rw [@tokenize_name "SELECT".toList _ (by decide) (stopsAt_cons.mpr (by decide)) (by simp),
    hspace, tokenize_name hq (stopsAt_cons.mpr (by decide)) (by simp), tokenize_point hw,
    tokenize_name hw (stopsAt_cons.mpr (by decide)) (by simp), hspace,
    tokenize_negative hdecimal hends, hrest]
  rfl

/-- The shape of these tokens. -/
theorem shapeTokens_subtraction (q w d : List Char) :
    shapeTokens [.word "SELECT".toList, .space, .word q, .symbol ['.'], .word w, .space, .minus,
        .number d, .space, .word "FROM".toList, .space, .word ['t']] =
      [.word "SELECT".toList, .space, .word q, .symbol ['.'], .word w, .space] ++
        (if isKeyword w then [mark] else [.minus, mark]) ++
          [.space, .word "FROM".toList, .space, .word ['t']] := by
  -- the name of the column decides in which state the sign is met
  have hmasked : shapeTokens [.word "SELECT".toList, .space, .word q, .symbol ['.'], .word w,
        .space, .minus, .number d, .space, .word "FROM".toList, .space, .word ['t']] =
      [.word "SELECT".toList, .space, .word q, .symbol ['.'], .word w, .space] ++
        masked (!isKeyword w)
          [.minus, .number d, .space, .word "FROM".toList, .space, .word ['t']] := rfl
  rw [hmasked, List.append_assoc]
  cases isKeyword w <;> rfl

/-- The shape of a subtraction from a column of a table. -/
theorem shapeOfChars_subtraction {q w d : List Char} (hq : isOrdinaryName q = true)
    (hw : isOrdinaryName w = true) (hd : d ≠ []) (hdigits : ∀ c ∈ d, c.isDigit = true) :
    shapeOfChars
        ("SELECT".toList ++ ' ' :: (q ++ '.' :: (w ++ ' ' :: ('-' :: d ++ " FROM t".toList)))) =
      "SELECT ".toList ++ q ++ '.' :: w ++ ' ' ::
        ((if isKeyword w then ['?'] else ['-', '?']) ++ " FROM t".toList) := by
  rw [shapeOfChars_of_tokenize (tokenize_subtraction hq hw hd hdigits), shapeTokens_subtraction]
  have htext : Token.text ([.word "SELECT".toList, .space, .word q, .symbol ['.'], .word w,
      .space] ++ (if isKeyword w then [mark] else [.minus, mark]) ++
        [.space, .word "FROM".toList, .space, .word ['t']]) =
      "SELECT ".toList ++ q ++ '.' :: w ++ ' ' ::
        ((if isKeyword w then ['?'] else ['-', '?']) ++ " FROM t".toList) := by
    cases isKeyword w <;> simp [Token.text, Token.written, mark]
  rw [htext, dropTrailing_eq_self_iff]
  intro c hc
  rw [List.getLast?_append, List.getLast?_cons, List.getLast?_append] at hc
  obtain rfl : 't' = c := Option.some.inj hc
  decide

/-- **Subtraction from a column is kept exactly if the column is not called like a keyword.** -/
theorem shape_of_subtraction {q w d : String} (hq : isOrdinaryName q.toList = true)
    (hw : isOrdinaryName w.toList = true) (hd : d ≠ "")
    (hdigits : ∀ c ∈ d.toList, c.isDigit = true) :
    shape ("SELECT " ++ q ++ "." ++ w ++ " -" ++ d ++ " FROM t") =
        "SELECT " ++ q ++ "." ++ w ++ (if isKeyword w.toList then " ?" else " -?") ++ " FROM t" ∧
      (shape ("SELECT " ++ q ++ "." ++ w ++ " -" ++ d ++ " FROM t") =
        "SELECT " ++ q ++ "." ++ w ++ " -? FROM t" ↔ isKeyword w.toList = false) := by
  have htext : ("SELECT " ++ q ++ "." ++ w ++ " -" ++ d ++ " FROM t").toList = "SELECT".toList ++
      ' ' :: (q.toList ++ '.' :: (w.toList ++ ' ' :: ('-' :: d.toList ++ " FROM t".toList))) := by
    simp
  have hd : d.toList ≠ [] := by simpa using hd
  have hshape : shape ("SELECT " ++ q ++ "." ++ w ++ " -" ++ d ++ " FROM t") =
      "SELECT " ++ q ++ "." ++ w ++ (if isKeyword w.toList then " ?" else " -?") ++ " FROM t" := by
    rw [← String.toList_inj, shape, String.toList_ofList, htext,
      shapeOfChars_subtraction hq hw hd hdigits]
    cases isKeyword w.toList <;> simp
  refine ⟨hshape, ?_⟩
  rw [hshape, ← String.toList_inj]
  cases isKeyword w.toList <;> simp

/-- A column that is called like a keyword loses its minus sign. -/
theorem shape_of_subtraction_ne :
    isOrdinaryName "t".toList = true ∧ isOrdinaryName "count".toList = true ∧
      shape ("SELECT " ++ "t" ++ "." ++ "count" ++ " -" ++ "1" ++ " FROM t") ≠
        "SELECT " ++ "t" ++ "." ++ "count" ++ " -? FROM t" := by
  decide +kernel

/-- Two columns, one of them called like a keyword. -/
theorem shape_of_subtraction_from_columns :
    shape "SELECT t.qty -10 FROM t" = "SELECT t.qty -? FROM t" ∧
      shape "SELECT t.count -10 FROM t" = "SELECT t.count ? FROM t" := by
  have hdigits : ∀ c ∈ "10".toList, c.isDigit = true := by
    intro c hc
    obtain rfl | rfl : c = '1' ∨ c = '0' := by simpa using hc
    all_goals rfl
  have hqty := @shape_of_subtraction "t" "qty" "10" (by decide) (by decide) (by decide) hdigits
  have hcount := @shape_of_subtraction "t" "count" "10" (by decide) (by decide) (by decide) hdigits
  exact ⟨hqty.2.mpr (by decide +kernel), hcount.1.trans (by decide +kernel)⟩

end QueryAudit.Statement
