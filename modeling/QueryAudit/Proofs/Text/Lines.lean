import Mathlib.Data.List.DropRight
import QueryAudit.Text.Blank
import QueryAudit.Text.Lines

/-!
# Lines and line feeds

Cutting a text at its line feeds gives its lines, up to two differences: a carriage
return may be left at the end of a line, and an empty line behind the last line feed.
Neither is seen by a reader that trims lines and skips empty ones.  Unlike the lines,
the pieces of two texts with a line feed between them are the pieces of one text and
then those of the other.
-/

namespace QueryAudit.Text

/-- The number of pieces is one more than the number of cuts. -/
theorem length_splitOn (s : List Char) : (s.splitOn '\n').length = s.count '\n' + 1 := by
  induction s with
  | nil => rfl
  | cons c s ih =>
      rw [List.splitOn_cons_eq_if_modifyHead]
      by_cases hc : c = '\n'
      · simp [hc, ih]
      · simp [hc, ih]

/-- The pieces of lines with line feeds between them are the pieces of each. -/
theorem splitOn_intercalate_lines {ls : List (List Char)} (h : ls ≠ []) :
    (['\n'].intercalate ls).splitOn '\n' = ls.flatMap (·.splitOn '\n') := by
  induction ls with
  | nil => exact absurd rfl h
  | cons l ls ih =>
      cases ls with
      | nil => simp
      | cons m ls =>
          have hjoin : ['\n'].intercalate (l :: m :: ls) =
              l ++ '\n' :: ['\n'].intercalate (m :: ls) := by simp
          rw [hjoin, List.splitOn_append_cons_self, ih (by simp)]
          exact List.flatMap_cons.symm

/-- **Lines are the pieces between line feeds**, but for a carriage return at the end of a
piece and an empty last piece. -/
theorem splitOn_forall₂_lines (s : List Char) :
    ∃ last ∈ [[], [[]]], List.Forall₂ (fun piece line => piece = line ∨ piece = line ++ ['\r'])
      (s.splitOn '\n') (lines s ++ last) := by
  have hcut (s : List Char) : ('\n' :: s).splitOn '\n' = [] :: s.splitOn '\n' := by
    simp [List.splitOn_cons_eq_if_modifyHead]
  have hkeep {c : Char} (hc : c ≠ '\n') (s : List Char) :
      (c :: s).splitOn '\n' = (s.splitOn '\n').modifyHead (c :: ·) := by
    simp [List.splitOn_cons_eq_if_modifyHead, hc]
  fun_induction lines s with
  | case1 => exact ⟨[[]], by simp, .cons (.inl rfl) .nil⟩
  | case2 s ih =>
      obtain ⟨last, hlast, hpieces⟩ := ih
      exact ⟨last, hlast, hcut s ▸ .cons (.inl rfl) hpieces⟩
  | case3 s ih =>
      obtain ⟨last, hlast, hpieces⟩ := ih
      refine ⟨last, hlast, ?_⟩
      rw [hkeep (by decide), hcut]
      exact .cons (.inr rfl) hpieces
  | case4 c s hfeed _ hs ih =>
      -- the last line, without a line feed behind it
      obtain rfl := lines_eq_nil.mp hs
      refine ⟨[], by simp, ?_⟩
      rw [hkeep hfeed]
      exact .cons (.inl rfl) .nil
  | case5 c s hfeed _ line rest hs ih =>
      obtain ⟨last, hlast, hpieces⟩ := ih
      refine ⟨last, hlast, ?_⟩
      rw [hs] at hpieces
      rw [hkeep hfeed]
      generalize s.splitOn '\n' = pieces at hpieces ⊢
      cases hpieces with
      | cons hpiece hpieces =>
          refine .cons ?_ hpieces
          exact hpiece.imp (congrArg (c :: ·)) (congrArg (c :: ·))

/-- A blank at the end is trimmed away. -/
theorem trim_append_blank {c : Char} (h : isBlank c = true) (s : List Char) :
    trim (s ++ [c]) = trim s := by
  have hend (t : List Char) : trimEnd (t ++ [c]) = trimEnd t := by
    simp [trimEnd, h]
  rw [trim, trim, List.dropWhile_append]
  cases hs : s.dropWhile isBlank with
  | nil => simp [h]
  | cons d t => exact hend (d :: t)

end QueryAudit.Text
