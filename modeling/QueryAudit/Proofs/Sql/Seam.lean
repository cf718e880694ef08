import QueryAudit.Proofs.Sql.Hole
import QueryAudit.Proofs.Sql.ReadBack

/-!
# Texts with a space between them

What stands before the last token of a text is read the same when the text goes on with a
space or a semicolon, so only the last token has to be looked at (`exists_last`).

A space ends every token, so two texts with a space between them are read one after the
other: first the tokens of the one, then the space, then those of the other.  The only
token that would go on is a line comment at the end of the first text.
-/

namespace QueryAudit.Sql

open Text

/-- A text that opens no exponent opens none when it goes on firmly. -/
theorem exponent_append_cons_eq_nil {q w : List Char} {f : Char} (hf : Firm f)
    (h : (exponent q).1 = []) : (exponent (q ++ f :: w)).1 = [] := by
  obtain ⟨hdigit, hletter⟩ := hf
  simp only [List.mem_cons, List.not_mem_nil, or_false, not_or] at hletter
  obtain ⟨he, hE, hplus, hminus, _⟩ := hletter
  cases q with
  | nil =>
      rw [List.nil_append, exponent_of_head?_ne (by simpa using he) (by simpa using hE)]
  | cons c t =>
      by_cases hc : c = 'e' ∨ c = 'E'
      · rw [exponent_fst_eq_nil_iff hc] at h
        rw [List.cons_append, exponent_fst_eq_nil_iff hc]
        have hstop : StopsAt Char.isDigit (f :: w) := stopsAt_cons.mpr hdigit
        cases t with
        | nil => simpa [sign, hplus, hminus] using hstop
        | cons d t =>
            rw [sign_append_right (by simp)]
            cases hrest : (sign (d :: t)).2 with
            | nil => exact hstop
            | cons x xs =>
                rw [hrest] at h
                exact stopsAt_cons.mpr (stopsAt_cons.mp h)
      · rw [exponent_of_head?_ne]
        · simpa using fun h => hc (.inl h)
        · simpa using fun h => hc (.inr h)

/-- A text that goes on with a space or semicolon is alike to itself. -/
theorem alike_append_cons {t : Token} {r : List Char} {f : Char} (hr : r ≠ [])
    (hf : f ∈ [' ', ';']) (w : List Char) : Alike t r (r ++ f :: w) := by
  have hfirm : Firm f ∧ f ≠ '\'' := by
    unfold Firm
    simp only [List.mem_cons, List.not_mem_nil, or_false] at hf
    rcases hf with rfl | rfl <;> decide
  obtain ⟨hfirm, hquote⟩ := hfirm
  refine alike_of_head? hr (List.head?_append_of_ne_nil _ hr) ?_ fun _ =>
    exponent_append_cons_eq_nil hfirm
  intro hopen
  obtain ⟨u, hu⟩ := hopen
  rcases r with _ | ⟨c, _ | ⟨d, r⟩⟩
  · exact absurd rfl hr
  · obtain ⟨_, htail⟩ := List.cons.inj hu
    exact absurd (List.cons.inj htail).1.symm hquote
  · obtain ⟨rfl, htail⟩ := List.cons.inj hu
    obtain ⟨rfl, _⟩ := List.cons.inj htail
    exact ⟨r, rfl⟩

/-- **Only the last token sees what is put behind a text.** -/
theorem exists_last {p : List Char} {ts : List Token} (hp : tokenize p = some ts)
    (hne : p ≠ []) :
    ∃ front t c s, ts = front ++ [t] ∧ scan c s = some (t, []) ∧
      ∀ f ∈ [' ', ';'], ∀ w,
        tokenize (p ++ f :: w) = (tokenize (c :: s ++ f :: w)).map (front ++ ·) := by
  fun_induction tokenize p generalizing ts with
  | case1 => exact absurd rfl hne
  | case2 => cases hp
  | case3 c s t r hscan _ ih =>
      obtain ⟨us, hus, rfl⟩ := Option.map_eq_some_iff.mp hp
      by_cases hr : r = []
      · subst hr
        rw [tokenize_nil] at hus
        obtain rfl : [] = us := Option.some.inj hus
        exact ⟨[], t, c, s, rfl, hscan, fun f _ w => by simp⟩
      · obtain ⟨front, u, d, q, rfl, hlast, hread⟩ := ih hus hr
        obtain ⟨a, rfl, hsteady⟩ := scan_steady hscan
        refine ⟨t :: front, u, d, q, rfl, hlast, fun f hf w => ?_⟩
        have hstep := hsteady _ (alike_append_cons hr hf w)
        rw [List.cons_append, List.append_assoc, tokenize_cons_some hstep, hread f hf w,
          Option.map_map]
        rfl

/-! ## Line comments at the end -/

/-- The text ends in a line comment that no line feed has ended. -/
def EndsInComment (ts : List Token) : Prop :=
  ∃ text, ts.getLast? = some (.lineComment text) ∧ '\n' ∉ text

/-- Is the token a line comment that no line feed has ended? -/
def isOpenComment : Token → Bool
  | .lineComment text => !text.contains '\n'
  | _ => false

instance : DecidablePred EndsInComment := fun ts =>
  decidable_of_iff (ts.getLast?.any isOpenComment = true) <| by
    cases hlast : ts.getLast? with
    | none => simp [EndsInComment, hlast]
    | some t => cases t <;> simp [EndsInComment, hlast, isOpenComment]

/-- Two dashes start a line comment. -/
theorem scan_dashes (s : List Char) :
    scan '-' ('-' :: s) = some (.lineComment (lineComment s).1, (lineComment s).2) := rfl

/-- What a line comment is read from. -/
theorem scan_lineComment {c : Char} {s r text : List Char}
    (h : scan c s = some (.lineComment text, r)) :
    c = '-' ∧ s = '-' :: (text ++ r) ∧ lineComment (text ++ r) = (text, r) := by
  obtain ⟨a, hspelled, hs⟩ := scan_spelled h rfl
  cases hspelled with
  | written =>
      obtain ⟨rfl, rfl⟩ := List.cons.inj hs
      obtain ⟨htext, hrest⟩ := Prod.mk.inj (Option.some.inj ((scan_dashes _).symm.trans h))
      exact ⟨rfl, rfl, Prod.ext (Token.lineComment.inj htext) hrest⟩

/-- A line comment that a line feed ends is read in front of every text. -/
theorem scan_closedComment {a : List Char} (ha : '\n' ∉ a) (w : List Char) :
    scan '-' ('-' :: (a ++ '\n' :: w)) = some (.lineComment (a ++ ['\n']), w) := by
  rw [scan_dashes, lineComment_closed ha]

/-- So is one at the end of a text, if the line feed stands there. -/
theorem scan_lineComment_append {c : Char} {s text : List Char}
    (h : scan c s = some (.lineComment text, [])) (hfeed : '\n' ∈ text) (w : List Char) :
    scan c (s ++ w) = some (.lineComment text, w) := by
  obtain ⟨rfl, rfl, hread⟩ := scan_lineComment h
  obtain ⟨a, b, rfl, ha⟩ := List.eq_append_cons_of_mem hfeed
  rw [List.append_nil, lineComment_closed ha] at hread
  obtain ⟨_, rfl⟩ := Prod.mk.inj hread
  have hsplit : '-' :: (a ++ ['\n'] ++ []) ++ w = '-' :: (a ++ '\n' :: w) := by simp
  rw [hsplit, scan_closedComment ha]

/-- Only the last token counts for that. -/
theorem endsInComment_concat {front : List Token} {t : Token} :
    EndsInComment (front ++ [t]) ↔ EndsInComment [t] := by
  simp [EndsInComment]

/-! ## In front of a space or a semicolon -/

/-- The last token of a text is read the same in front of a space or a semicolon, unless it
is a line comment that is still open, or a lone mark in front of a semicolon. -/
theorem scan_append_cons {c f : Char} {s : List Char} {t : Token}
    (h : scan c s = some (t, [])) (hf : f ∈ [' ', ';']) (hend : ¬ EndsInComment [t])
    (hlone : f = ';' → t ∉ loneMarks) (w : List Char) :
    scan c (s ++ f :: w) = some (t, f :: w) := by
  by_cases ht : ∃ text, t = .lineComment text
  · obtain ⟨text, rfl⟩ := ht
    refine scan_lineComment_append h ?_ _
    by_contra hfeed
    exact hend ⟨text, rfl, hfeed⟩
  · have ht : ∀ text, t ≠ .lineComment text := fun text heq => ht ⟨text, heq⟩
    obtain ⟨a, ha, hread⟩ := scan_steady h
    rw [ha, List.append_nil]
    simp only [List.mem_cons, List.not_mem_nil, or_false] at hf
    rcases hf with rfl | rfl
    · exact hread _ (alike_space ht [] w)
    · exact hread _ (alike_semicolon ht (hlone rfl) [] w)

/-- **Two texts with a space between them are read one after the other.** -/
theorem tokenize_append_space {p : List Char} {ts : List Token} (hp : tokenize p = some ts)
    (hend : ¬ EndsInComment ts) (w : List Char) :
    tokenize (p ++ ' ' :: w) = (tokenize w).map (ts ++ .space :: ·) := by
  have hspace : tokenize (' ' :: w) = (tokenize w).map (.space :: ·) := tokenize_cons_some rfl
  by_cases hne : p = []
  · subst hne
    obtain rfl : [] = ts := Option.some.inj (tokenize_nil.symm.trans hp)
    exact hspace
  · obtain ⟨front, t, c, s, rfl, hlast, hread⟩ := exists_last hp hne
    have hstep := scan_append_cons hlast (f := ' ') (by decide)
      (fun h => hend (endsInComment_concat.mpr h)) (fun h => absurd h (by decide)) w
    rw [hread ' ' (by decide) w, List.cons_append, tokenize_cons_some hstep, hspace]
    simp [Option.map_map, Function.comp_def]

end QueryAudit.Sql
