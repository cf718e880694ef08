import QueryAudit.Proofs.Run.Kinds
import QueryAudit.Proofs.Text.Lines

/-!
# Reading a report back

A report is plain text, and a statement may look like any of its lines.  It can be read
back all the same.  Above the statements there are only findings, each of which is
recognised by its first letters; the longest time ends them; and their first line says how
many statements follow.  What stands behind those is the hints, whatever they say.

So two reports with one text are about the same statements, and found the same in them
(`eq_of_body_eq`), provided that a statement takes one line.
-/

namespace QueryAudit.Report

open Statement (Kind)
open Text

/-! ## Findings -/

/-- What a line above the longest time can say. -/
inductive Finding where
  | total (n : Nat)
  | ofKind (kind : Kind) (n : Nat)
  | sameText
  | leadingWildcard
  | unbound

/-- The line that says it. -/
def Finding.line : Finding → String
  | total n => "SQL EXECUTIONS: " ++ toString n
  | ofKind kind n => kind.name ++ ": " ++ toString n
  | sameText => sameTextLine
  | leadingWildcard => leadingWildcardLine
  | unbound => unboundLine

/-- The line about all executions. -/
theorem line_total (n : Nat) :
    (Finding.total n).line = "SQL EXECUTIONS: " ++ toString n := rfl

/-- The line about the executions of a kind. -/
theorem line_ofKind (kind : Kind) (n : Nat) :
    (Finding.ofKind kind n).line = kind.name ++ ": " ++ toString n := rfl

/-- The first letters of the line. -/
def Finding.letters : Finding → List Char
  | total _ => ['S', 'Q', 'L']
  | ofKind .select _ => ['S', 'E', 'L']
  | ofKind .insert _ => ['I', 'N', 'S']
  | ofKind .update _ => ['U', 'P', 'D']
  | ofKind .delete _ => ['D', 'E', 'L']
  | ofKind .other _ => ['O', 'T', 'H']
  | sameText => ['-', ' ', 'S']
  | leadingWildcard => ['-', ' ', 'L']
  | unbound => ['-', ' ', 'Q']

/-- What is found in a run, in order. -/
def findings (run : Run) : List Finding :=
  let selects := (run.ofKind .select).analyze
  [.total run.count] ++
    ((countedKinds.filter fun kind => 0 < run.countOf kind).map fun kind =>
      .ofKind kind (run.countOf kind)) ++
    (if selects.sameText then [.sameText] else []) ++
    (if selects.leadingWildcard then [.leadingWildcard] else []) ++
    (if selects.unbound then [.unbound] else []) ++
    [Kind.insert, .update, .delete].flatMap fun kind =>
      if (run.ofKind kind).hasUnbound then [.unbound] else []

/-- The findings are written line by line. -/
theorem map_line_findings (run : Run) : (findings run).map Finding.line = findingLines run := by
  have hif (b : Bool) (f : Finding) :
      (if b then [f] else []).map Finding.line = lineIf b f.line := by
    cases b <;> rfl
  rw [findingLines, (lines_analysisOf [] run).1]
  simp only [findings, List.map_append, List.map_map, List.map_flatMap, hif, countLines,
    selectLines_some, unboundLines_eq_flatMap, List.append_assoc]
  rfl

/-- The first letters of the line are those of the finding. -/
theorem take_line (f : Finding) : f.line.toList.take 3 = f.letters := by
  cases f with
  | total n =>
      rw [line_total, String.toList_append]
      rfl
  | ofKind kind n =>
      rw [line_ofKind, String.toList_append, String.toList_append]
      cases kind <;> rfl
  | sameText | leadingWildcard | unbound => rfl

/-- A number is read back from its decimal digits. -/
theorem toString_nat_inj {n m : Nat} (h : toString n = toString m) : n = m := by
  rw [Nat.toString_eq_ofList_toDigits, Nat.toString_eq_ofList_toDigits, String.ofList_inj] at h
  have hdigits := congrArg (Nat.ofDigitChars 10 · 0) h
  simpa only [Nat.ofDigitChars_ten_toDigits] using hdigits

/-- The line says which finding it is. -/
theorem line_injective : Function.Injective Finding.line := by
  intro f g h
  have hletters : f.letters = g.letters := by rw [← take_line, ← take_line, h]
  cases f with
  | total n =>
      cases g with
      | total m =>
          rw [line_total, line_total, String.append_right_inj] at h
          rw [toString_nat_inj h]
      | ofKind kind m => cases kind <;> cases hletters
      | sameText | leadingWildcard | unbound => cases hletters
  | ofKind kind n =>
      cases g with
      | total m => cases kind <;> cases hletters
      | ofKind kind' m =>
          have hkind : kind = kind' := by
            cases kind <;> cases kind' <;> simp [Finding.letters] at hletters ⊢
          subst hkind
          rw [line_ofKind, line_ofKind, String.append_right_inj] at h
          rw [toString_nat_inj h]
      | sameText | leadingWildcard | unbound => cases kind <;> cases hletters
  | sameText | leadingWildcard | unbound =>
      cases g with
      | ofKind kind m => cases kind <;> cases hletters
      | _ => first | rfl | cases hletters

/-- The findings tell the number of executions. -/
theorem total_mem_findings {run : Run} {n : Nat} :
    Finding.total n ∈ findings run ↔ run.count = n := by
  have hmem : Finding.total n ∈ findings run ↔ n = run.count := by simp [findings]
  rw [hmem, eq_comm]

/-- They tell the number of executions of a kind that is counted. -/
theorem ofKind_mem_findings {run : Run} {kind : Kind} (h : kind ∈ countedKinds) {n : Nat} :
    Finding.ofKind kind n ∈ findings run ↔ 0 < n ∧ run.countOf kind = n := by
  have hmem : Finding.ofKind kind n ∈ findings run ↔
      0 < run.countOf kind ∧ run.countOf kind = n := by simp [findings, h]
  exact hmem.trans (and_congr_left fun hn => by rw [hn])

/-- They tell whether a text was executed twice, -/
theorem sameText_mem_findings {run : Run} :
    Finding.sameText ∈ findings run ↔ (run.ofKind .select).analyze.sameText = true := by
  simp [findings]

/-- and whether a pattern starts with a wildcard. -/
theorem leadingWildcard_mem_findings {run : Run} :
    Finding.leadingWildcard ∈ findings run ↔
      (run.ofKind .select).analyze.leadingWildcard = true := by
  simp [findings]

/-! ## Lines -/

/-- The pieces of a text between its line feeds. -/
def pieces (s : String) : List String := (s.toList.splitOn '\n').map String.ofList

/-- A text has at least one piece. -/
theorem pieces_ne_nil (s : String) : pieces s ≠ [] := by
  simp [pieces, List.splitOn_ne_nil]

/-- Texts that take one line each are their pieces. -/
theorem flatMap_pieces {ls : List String} (h : ∀ l ∈ ls, '\n' ∉ l.toList) :
    ls.flatMap pieces = ls := by
  induction ls with
  | nil => rfl
  | cons l ls ih =>
      have hl : pieces l = [l] := by
        simp [pieces, List.splitOn_eq_singleton (h l List.mem_cons_self)]
      rw [List.flatMap_cons, hl, ih fun m hm => h m (List.mem_cons_of_mem l hm)]
      rfl

/-- The pieces of entries with line feeds between them are the pieces of each. -/
theorem pieces_intercalate {ls : List String} (h : ls ≠ []) :
    pieces ("\n".intercalate ls) = ls.flatMap pieces := by
  have hchars : ls.map String.toList ≠ [] := by simpa using h
  rw [pieces, String.toList_intercalate]
  change ((['\n'].intercalate _).splitOn '\n').map _ = _
  rw [splitOn_intercalate_lines hchars, List.flatMap_map, List.map_flatMap]
  rfl

/-- No decimal digit is a line feed. -/
theorem newline_not_mem_toString (n : Nat) : '\n' ∉ (toString n).toList := by
  rw [Nat.toString_eq_ofList_toDigits, String.toList_ofList]
  intro h
  have hdigit := Nat.isDigit_of_mem_toDigits (by decide) (by decide) h
  cases hdigit

/-- A finding takes one line. -/
theorem newline_not_mem_line (f : Finding) : '\n' ∉ f.line.toList := by
  cases f with
  | total n =>
      rw [line_total, String.toList_append, List.mem_append, not_or]
      exact ⟨by decide, newline_not_mem_toString n⟩
  | ofKind kind n =>
      rw [line_ofKind, String.toList_append, String.toList_append, List.mem_append,
        List.mem_append, not_or, not_or]
      exact ⟨⟨by cases kind <;> decide, by decide⟩, newline_not_mem_toString n⟩
  | sameText | leadingWildcard | unbound => decide

/-- Does the line name the longest time? -/
def isLongest (line : String) : Bool := line.toList.take 3 == ['M', 'A', 'X']

/-- No finding does. -/
theorem isLongest_line (f : Finding) : isLongest f.line = false := by
  rw [isLongest, take_line]
  cases f with
  | ofKind kind n => cases kind <;> rfl
  | _ => rfl

/-- **The lines of a report**, when a statement takes one line. -/
theorem pieces_body {hints : List String} {run : Run}
    (h : ∀ e ∈ run.executions, '\n' ∉ e.text.toList) :
    pieces (build hints run).body =
      (findings run).map Finding.line ++
        (headingLines run ++ statements run ++
          (hintLines hints (analysisOf run)).flatMap pieces) := by
  have hfindings : ∀ l ∈ (findings run).map Finding.line, '\n' ∉ l.toList := by
    intro l hl
    obtain ⟨f, _, rfl⟩ := List.mem_map.mp hl
    exact newline_not_mem_line f
  have hheading : ∀ l ∈ headingLines run, '\n' ∉ l.toList := by
    intro l hl
    unfold headingLines at hl
    split at hl
    · cases hl
    · simp only [List.mem_cons, List.not_mem_nil, or_false] at hl
      rcases hl with rfl | rfl
      · rw [String.toList_append, String.toList_append, List.mem_append, List.mem_append,
          not_or, not_or]
        exact ⟨⟨by decide, newline_not_mem_toString _⟩, by decide⟩
      · split <;> decide
  have hstatements : ∀ l ∈ statements run, '\n' ∉ l.toList := by
    intro l hl
    obtain ⟨e, he, rfl⟩ := List.mem_map.mp hl
    rw [String.toList_append, List.mem_append, not_or]
    exact ⟨by decide, h e he⟩
  have hne : entries hints run ≠ [] := by simp [entries, countLines]
  rw [build, pieces_intercalate hne, entries_eq_sections, ← map_line_findings,
    List.flatMap_append, List.flatMap_append, List.flatMap_append, flatMap_pieces hfindings,
    flatMap_pieces hheading, flatMap_pieces hstatements]
  simp only [List.append_assoc]

/-! ## Reading -/

/-- A list is cut in only one way in front of its first element of a sort. -/
theorem append_inj_of_head? {α : Type} {p : α → Bool} {as as' bs bs' : List α}
    (has : ∀ a ∈ as, p a = false) (has' : ∀ a ∈ as', p a = false)
    (hbs : ∀ b ∈ bs.head?, p b = true) (hbs' : ∀ b ∈ bs'.head?, p b = true)
    (h : as ++ bs = as' ++ bs') : as = as' ∧ bs = bs' := by
  induction as generalizing as' with
  | nil =>
      cases as' with
      | nil => exact ⟨rfl, h⟩
      | cons a as' =>
          rw [List.nil_append, List.cons_append] at h
          subst h
          have ha := hbs a rfl
          rw [has' a List.mem_cons_self] at ha
          cases ha
  | cons a as ih =>
      cases as' with
      | nil =>
          rw [List.nil_append, List.cons_append] at h
          subst h
          have ha := hbs' a rfl
          rw [has a List.mem_cons_self] at ha
          cases ha
      | cons b as' =>
          obtain ⟨rfl, htail⟩ := List.cons.inj h
          obtain ⟨rfl, rfl⟩ := ih (List.forall_mem_cons.mp has).2
            (List.forall_mem_cons.mp has').2 htail
          exact ⟨rfl, rfl⟩

/-- What stands below the findings starts with the longest time. -/
theorem isLongest_of_head? {hints : List String} {run : Run} :
    ∀ l ∈ (headingLines run ++ statements run ++
      (hintLines hints (analysisOf run)).flatMap pieces).head?, isLongest l = true := by
  intro l hl
  unfold headingLines at hl
  split at hl
  · next hempty =>
      have hnone : run.executions = [] := List.isEmpty_iff.mp hempty
      simp [statements, analysisOf, Run.countOf, hintLines, hnone] at hl
  · obtain rfl := Option.some.inj hl
    rw [isLongest, String.toList_append, String.toList_append]
    rfl

/-- Every execution is of one kind. -/
theorem count_eq_sum_countOf (run : Run) :
    run.count = run.countOf .select + run.countOf .insert + run.countOf .update +
      run.countOf .delete + run.countOf .other := by
  rw [← run.sum_countOf]
  simp only [Kind.all, List.map_cons, List.map_nil, List.sum_cons, List.sum_nil]
  omega

/-- Equal findings tell equal numbers of executions, of every kind. -/
theorem count_eq_of_findings_eq {run run' : Run} (h : findings run = findings run') :
    run.count = run'.count ∧ ∀ kind, run.countOf kind = run'.countOf kind := by
  have hcount : run.count = run'.count :=
    total_mem_findings.mp (h ▸ total_mem_findings.mpr rfl)
  have hcounted {kind : Kind} (hkind : kind ∈ countedKinds) :
      run.countOf kind = run'.countOf kind := by
    have hsame (n : Nat) : (0 < n ∧ run.countOf kind = n) ↔ 0 < n ∧ run'.countOf kind = n := by
      rw [← ofKind_mem_findings hkind, ← ofKind_mem_findings hkind, h]
    have hleft := hsame (run.countOf kind)
    have hright := hsame (run'.countOf kind)
    omega
  refine ⟨hcount, ?_⟩
  intro kind
  cases kind with
  | other =>
      -- what is not counted is the rest
      have hselect := hcounted (by decide : Kind.select ∈ countedKinds)
      have hinsert := hcounted (by decide : Kind.insert ∈ countedKinds)
      have hupdate := hcounted (by decide : Kind.update ∈ countedKinds)
      have hdelete := hcounted (by decide : Kind.delete ∈ countedKinds)
      have hsum := count_eq_sum_countOf run
      have hsum' := count_eq_sum_countOf run'
      omega
  | select | insert | update | delete => exact hcounted (by decide)

/-- Runs of one length whose reports agree below the findings took equally long, executed
the same texts, and have equal hints. -/
theorem statements_eq_of_append_eq {run run' : Run} {below below' : List String}
    (hcount : run.count = run'.count)
    (h : headingLines run ++ statements run ++ below =
      headingLines run' ++ statements run' ++ below') :
    run.maxElapsed = run'.maxElapsed ∧
      run.executions.map Execution.text = run'.executions.map Execution.text ∧
      below = below' := by
  by_cases hzero : run.count = 0
  · have hnone : run.executions = [] := List.length_eq_zero_iff.mp hzero
    have hnone' : run'.executions = [] := List.length_eq_zero_iff.mp (hcount.symm.trans hzero)
    rw [headingLines, headingLines, statements, statements, Run.isEmpty, Run.isEmpty, hnone,
      hnone'] at h
    rw [Run.maxElapsed, Run.maxElapsed, hnone, hnone']
    exact ⟨rfl, rfl, h⟩
  · have hempty : ¬ run.isEmpty = true := fun hempty =>
      hzero (List.length_eq_zero_iff.mpr (List.isEmpty_iff.mp hempty))
    have hempty' : ¬ run'.isEmpty = true := fun hempty =>
      hzero (hcount.trans (List.length_eq_zero_iff.mpr (List.isEmpty_iff.mp hempty)))
    rw [headingLines, headingLines, if_neg hempty, if_neg hempty', List.append_assoc,
      List.append_assoc] at h
    obtain ⟨hlongest, h⟩ := List.cons.inj h
    obtain ⟨_, h : statements run ++ below = statements run' ++ below'⟩ := List.cons.inj h
    rw [String.append_left_inj, String.append_right_inj] at hlongest
    have hlength : (statements run).length = (statements run').length := by
      rw [statements, statements, List.length_map, List.length_map]
      exact hcount
    obtain ⟨hstatements, hbelow⟩ := List.append_inj h hlength
    refine ⟨toString_nat_inj hlongest, ?_, hbelow⟩
    have hdash : Function.Injective fun text : String => "- " ++ text := by
      intro text text' heq
      simpa only [String.append_right_inj] using heq
    apply hdash.list_map
    rw [List.map_map, List.map_map]
    exact hstatements

/-- The hints are there if one shape was executed with different texts. -/
theorem flatMap_hintLines_ne_nil_iff {hints : List String} {run : Run} :
    (hintLines hints (analysisOf run)).flatMap pieces ≠ [] ↔
      (run.ofKind .select).analyze.sameShape = true := by
  rw [(lines_analysisOf hints run).2, hintLines]
  cases (run.ofKind .select).analyze.sameShape with
  | false => simp
  | true => simp [pieces_ne_nil]

/-- **A report identifies what was executed.**  If no text goes over several lines, two
reports with one body are about equally many statements of each kind, with the same texts
in the same order; the slowest took equally long; and both have the same findings about
their selects, or no selects.  Hints and texts may look like any line of a report. -/
theorem eq_of_body_eq {hints hints' : List String} {run run' : Run}
    (hrun : ∀ e ∈ run.executions, '\n' ∉ e.text.toList)
    (hrun' : ∀ e ∈ run'.executions, '\n' ∉ e.text.toList)
    (h : (build hints run).body = (build hints' run').body) :
    run.count = run'.count ∧
    (∀ kind, run.countOf kind = run'.countOf kind) ∧
    run.maxElapsed = run'.maxElapsed ∧
    run.executions.map Execution.text = run'.executions.map Execution.text ∧
    ((build hints run).analysis = none ∧ (build hints' run').analysis = none ∨
      ∃ a a', (build hints run).analysis = some a ∧ (build hints' run').analysis = some a' ∧
        a.sameText = a'.sameText ∧ a.leadingWildcard = a'.leadingWildcard ∧
        a.sameShape = a'.sameShape) := by
  have hpieces := congrArg pieces h
  rw [pieces_body hrun, pieces_body hrun'] at hpieces
  have hfinding (run : Run) :
      ∀ l ∈ (findings run).map Finding.line, isLongest l = false := by
    intro l hl
    obtain ⟨f, _, rfl⟩ := List.mem_map.mp hl
    exact isLongest_line f
  obtain ⟨habove, hbelow⟩ := append_inj_of_head? (hfinding run) (hfinding run')
    isLongest_of_head? isLongest_of_head? hpieces
  have hfindings := line_injective.list_map habove
  obtain ⟨hcount, hkind⟩ := count_eq_of_findings_eq hfindings
  obtain ⟨hmax, htexts, hhints⟩ := statements_eq_of_append_eq hcount hbelow
  refine ⟨hcount, hkind, hmax, htexts, ?_⟩
  rw [build, build, analysisOf, analysisOf, hkind .select]
  by_cases hselect : 0 < run'.countOf .select
  · rw [if_pos hselect, if_pos hselect]
    refine .inr ⟨_, _, rfl, rfl, ?_, ?_, ?_⟩
    · rw [Bool.eq_iff_iff, ← sameText_mem_findings, ← sameText_mem_findings, hfindings]
    · rw [Bool.eq_iff_iff, ← leadingWildcard_mem_findings, ← leadingWildcard_mem_findings,
        hfindings]
    · rw [Bool.eq_iff_iff, ← flatMap_hintLines_ne_nil_iff, hhints,
        flatMap_hintLines_ne_nil_iff]
  · rw [if_neg hselect, if_neg hselect]
    exact .inl ⟨rfl, rfl⟩

/-- Two runs with a statement that looks like the hints, and hints that look like
statements.  Their reports do not say which execution was slow, nor how the hints are cut
into lines. -/
theorem eq_of_body_eq_of_imitations :
    let run : Run := ⟨[⟨"SELECT 1", .select, true, 7⟩, ⟨"HINTS:", .update, false, 4⟩,
      ⟨"SELECT 2", .select, true, 4⟩]⟩
    let run' : Run := ⟨[⟨"SELECT 1", .select, true, 4⟩, ⟨"HINTS:", .update, false, 4⟩,
      ⟨"SELECT 2", .select, true, 7⟩]⟩
    (build ["- SELECT 3", "MAX TIME: 9 ms"] run).body =
        (build ["- SELECT 3\nMAX TIME: 9 ms"] run').body ∧
      run.maxElapsed = run'.maxElapsed ∧
      run.executions.map Execution.text = run'.executions.map Execution.text := by
  intro run run'
  have hbody : (build ["- SELECT 3", "MAX TIME: 9 ms"] run).body =
      (build ["- SELECT 3\nMAX TIME: 9 ms"] run').body := by decide +kernel
  obtain ⟨_, _, hmax, htexts, _⟩ := eq_of_body_eq
    (by decide : ∀ e ∈ run.executions, '\n' ∉ e.text.toList)
    (by decide : ∀ e ∈ run'.executions, '\n' ∉ e.text.toList) hbody
  exact ⟨hbody, hmax, htexts⟩

end QueryAudit.Report
