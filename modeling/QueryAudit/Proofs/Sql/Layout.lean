import QueryAudit.Proofs.Sql.Seam

/-!
# Layout

Blanks and comments that are complete may stand in a row.  Each of them is read as a gap,
whatever it holds and whatever follows, so a text behind such layout has the tokens that it
has by itself behind some gaps (`Layout.tokenize_append`).  How many gaps there are is
another matter: a carriage return at the end of the layout and a line feed behind it are one.

A space or a semicolon at the end of a text is a token of its own, with two exceptions
(`exists_extends`): a line comment that is still open takes it in, and a lone mark in front
of a semicolon becomes a word with it.
-/

namespace QueryAudit.Sql

open Text

/-- Blanks, complete block comments, and line comments with their line feeds. -/
inductive Layout : List Char → Prop where
  | nil : Layout []
  | blank {c : Char} {w : List Char} (hc : isBlank c = true) (h : Layout w) : Layout (c :: w)
  | block {body text w : List Char} (hbody : blockComment 0 body = some (text, []))
      (h : Layout w) : Layout ('/' :: '*' :: body ++ w)
  | line {text w : List Char} (htext : '\n' ∉ text) (h : Layout w) :
      Layout ('-' :: '-' :: text ++ '\n' :: w)

/-- The tokens of a text from the first that is no gap. -/
def behindGaps (s : List Char) : Option (List Token) :=
  (tokenize s).map (List.dropWhile Token.isGap)

/-- A gap in front does not count. -/
theorem behindGaps_of_gap {c : Char} {s r : List Char} {t : Token}
    (h : scan c s = some (t, r)) (ht : t.isGap = true) : behindGaps (c :: s) = behindGaps r := by
  have hdrop (ts : List Token) :
      (t :: ts).dropWhile Token.isGap = ts.dropWhile Token.isGap := List.dropWhile_cons_of_pos ht
  rw [behindGaps, behindGaps, tokenize_cons_some h, Option.map_map]
  exact congrArg (Option.map · (tokenize r)) (funext hdrop)

/-- A blank in front does not count, also where a line feed completes it. -/
theorem behindGaps_blank {c : Char} (hc : isBlank c = true) (s : List Char) :
    behindGaps (c :: s) = behindGaps s := by
  have hscan : scan c s = some (.space, afterBlank c s) := if_pos hc
  rw [behindGaps_of_gap hscan rfl]
  unfold afterBlank
  split
  · next t => exact (behindGaps_of_gap (c := '\n') (r := t) rfl rfl).symm
  · rfl

/-- A complete block comment is read in front of every text. -/
theorem scan_block {body text : List Char} (h : blockComment 0 body = some (text, []))
    (s : List Char) : scan '/' ('*' :: (body ++ s)) = some (.blockComment text, s) := by
  obtain ⟨a, _, ha, hread⟩ := blockComment_steady h
  rw [List.append_nil] at ha
  rw [ha]
  exact congrArg (withContent .blockComment) (hread s)

/-- **Layout in front of a text does not count.** -/
theorem Layout.tokenize_append {w : List Char} (h : Layout w) (s : List Char) :
    behindGaps (w ++ s) = behindGaps s := by
  induction h with
  | nil => rfl
  | blank hc _ ih => rw [List.cons_append, behindGaps_blank hc, ih]
  | block hbody _ ih =>
      simp only [List.cons_append, List.append_assoc]
      rw [behindGaps_of_gap (scan_block hbody _) rfl, ih]
  | line htext _ ih =>
      simp only [List.cons_append, List.append_assoc]
      rw [behindGaps_of_gap (scan_closedComment htext _) rfl, ih]

/-! ## The end of a text -/

/-- What the tokens of a text become when one more character is put behind it. -/
inductive Extends (f : Char) : List Token → List Token → Prop where
  | token (ts : List Token) {t : Token} (ht : scan f [] = some (t, [])) : Extends f ts (ts ++ [t])
  | comment (front : List Token) (text : List Char) :
      Extends f (front ++ [.lineComment text]) (front ++ [.lineComment (text ++ [f])])
  | mark (front : List Token) (mark : List Char) :
      Extends f (front ++ [.symbol mark]) (front ++ [.word (mark ++ [f])])

/-- An open line comment goes on. -/
theorem scan_lineComment_concat {c f : Char} {s text : List Char}
    (h : scan c s = some (.lineComment text, [])) (hopen : '\n' ∉ text) (hf : f ≠ '\n') :
    scan c (s ++ [f]) = some (.lineComment (text ++ [f]), []) := by
  obtain ⟨rfl, rfl, _⟩ := scan_lineComment h
  have hopen' : '\n' ∉ text ++ [f] := by
    simpa [hopen] using hf.symm
  rw [List.append_nil, List.cons_append, scan_dashes, lineComment_open hopen']

/-- A lone mark and a semicolon are a word. -/
theorem scan_loneMark_semicolon {c : Char} {s mark : List Char}
    (h : scan c s = some (.symbol mark, [])) (hlone : Token.symbol mark ∈ loneMarks) :
    scan c (s ++ [';']) = some (.word (mark ++ [';']), []) := by
  obtain ⟨a, hspelled, hs⟩ := scan_spelled h rfl
  rw [List.append_nil] at hs
  cases hspelled with
  | notEqual => simp [loneMarks] at hlone
  | written =>
      simp only [loneMarks, List.mem_cons, List.not_mem_nil, or_false, Token.symbol.injEq] at hlone
      rcases hlone with rfl | rfl | rfl
      all_goals
        obtain ⟨rfl, rfl⟩ := List.cons.inj hs
        rfl

/-- **A space or semicolon behind a text** changes at most its last token. -/
theorem exists_extends {p : List Char} {ts : List Token} (hp : tokenize p = some ts) {f : Char}
    (hf : f ∈ [' ', ';']) : ∃ us, tokenize (p ++ [f]) = some us ∧ Extends f ts us := by
  have hown : ∃ t, scan f [] = some (t, []) := by
    simp only [List.mem_cons, List.not_mem_nil, or_false] at hf
    rcases hf with rfl | rfl
    · exact ⟨.space, rfl⟩
    · exact ⟨.symbol [';'], rfl⟩
  obtain ⟨own, hscan⟩ := hown
  have hafter : tokenize [f] = some [own] := by
    rw [tokenize_cons_some hscan, tokenize_nil]
    rfl
  by_cases hne : p = []
  · subst hne
    obtain rfl : [] = ts := Option.some.inj (tokenize_nil.symm.trans hp)
    exact ⟨[own], hafter, .token [] hscan⟩
  · obtain ⟨front, t, c, s, rfl, hlast, hread⟩ := exists_last hp hne
    rw [hread f hf [], List.cons_append]
    by_cases hopen : EndsInComment [t]
    · obtain ⟨text, ht, hfeed⟩ := hopen
      obtain rfl := Option.some.inj ht
      have hlong := scan_lineComment_concat hlast hfeed (f := f) (by grind)
      rw [tokenize_cons_some hlong, tokenize_nil]
      exact ⟨_, rfl, .comment front text⟩
    by_cases hlone : f = ';' ∧ t ∈ loneMarks
    · obtain ⟨rfl, hlone⟩ := hlone
      obtain ⟨mark, rfl⟩ : ∃ mark, t = .symbol mark := by
        simp only [loneMarks, List.mem_cons, List.not_mem_nil, or_false] at hlone
        rcases hlone with rfl | rfl | rfl <;> exact ⟨_, rfl⟩
      rw [tokenize_cons_some (scan_loneMark_semicolon hlast hlone), tokenize_nil]
      exact ⟨_, rfl, .mark front mark⟩
    · have hstep := scan_append_cons hlast hf hopen (fun h hmem => hlone ⟨h, hmem⟩) []
      rw [tokenize_cons_some hstep, hafter]
      refine ⟨_, rfl, ?_⟩
      simpa using Extends.token (front ++ [t]) hscan

end QueryAudit.Sql
