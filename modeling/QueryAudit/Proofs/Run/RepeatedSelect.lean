import QueryAudit.Proofs.Run.Report
import QueryAudit.Proofs.Statement.PrefixedLiteral

/-!
# Literal values never hide a repeated select

A query that is run once per row, with the value of the row written into its text, is
two selects whose texts differ in a literal.  They have one shape, and wherever they
stand in a run the report finds it.

Strings behind a prefix are another matter.  They are all values to whoever writes them, but
only three of the six prefixes make a literal (`shape_of_prefixed_string`); behind the others
every value makes a shape of its own, and the selects are not taken together.
-/

namespace QueryAudit

open Sql
open Statement (shape Fills)

namespace Run

/-- Of two different executions of a run, one comes first. -/
theorem before_or_before {run : Run} {e f : Execution} (he : e ∈ run.executions)
    (hf : f ∈ run.executions) (hne : e ≠ f) : run.Before e f ∨ run.Before f e := by
  obtain ⟨i, hi⟩ := List.mem_iff_getElem?.mp he
  obtain ⟨j, hj⟩ := List.mem_iff_getElem?.mp hf
  rcases Nat.lt_trichotomy i j with hij | rfl | hij
  · exact .inl ⟨i, j, hij, hi, hj⟩
  · rw [hi] at hj
    exact absurd (Option.some.inj hj) hne
  · exact .inr ⟨j, i, hij, hj, hi⟩

/-- A repeated shape is counted at least twice. -/
theorem two_le_count {run : Run} {r : RepeatedShape} (hr : r ∈ run.repeatedShapes) :
    2 ≤ r.count := by
  obtain ⟨e, f, hbefore, _, he, hf⟩ :=
    mem_repeatedShapes_iff.mp (List.mem_map_of_mem hr)
  rw [count_of_mem_repeatedShapes hr, List.countP_eq_length_filter, two_le_length_iff]
  refine ⟨e, f, pair_sublist_filter_iff.mpr ⟨before_iff_sublist.mp hbefore, ?_, ?_⟩⟩
  · exact decide_eq_true he
  · exact decide_eq_true hf

end Run

/-- **Two selects with one shape and different texts are reported**, whatever else was
executed. -/
theorem build_of_shared_shape {hints : List String} {run : Run} {e f : Execution}
    (he : e ∈ run.executions) (hf : f ∈ run.executions) (hekind : e.kind = .select)
    (hfkind : f.kind = .select) (hne : e.text ≠ f.text) (hshape : shape e.text = shape f.text) :
    ∃ a, (Report.build hints run).analysis = some a ∧ a.sameShape = true ∧
      (∃ r ∈ a.repeatedShapes, r.shape = shape e.text ∧ 2 ≤ r.count) ∧
      ∃ front, (Report.build hints run).body =
        "\n".intercalate (front ++ [Report.separator, "HINTS:"] ++ hints) := by
  have heselect := Run.mem_ofKind.mpr ⟨he, hekind⟩
  have hfselect := Run.mem_ofKind.mpr ⟨hf, hfkind⟩
  have hanalysis : Report.analysisOf run = some (run.ofKind .select).analyze := by
    rw [Report.analysisOf, if_pos]
    exact Run.countOf_pos_iff.mpr (List.ne_nil_of_mem heselect)
  have hpair : ∃ e' f', (run.ofKind .select).Before e' f' ∧ e'.text ≠ f'.text ∧
      shape e'.text = shape e.text ∧ shape f'.text = shape e.text := by
    rcases Run.before_or_before heselect hfselect fun h => hne (h ▸ rfl) with hbefore | hbefore
    · exact ⟨e, f, hbefore, hne, rfl, hshape.symm⟩
    · exact ⟨f, e, hbefore, Ne.symm hne, hshape.symm, rfl⟩
  have hsame : (run.ofKind .select).analyze.sameShape = true := by
    obtain ⟨e', f', hbefore, htext, he', hf'⟩ := hpair
    exact Run.sameShape_iff.mpr ⟨e', f', hbefore, htext, he'.trans hf'.symm⟩
  obtain ⟨r, hr, hrshape⟩ := List.mem_map.mp (Run.mem_repeatedShapes_iff.mpr hpair)
  refine ⟨_, hanalysis, hsame, ⟨r, hr, hrshape, Run.two_le_count hr⟩, ?_⟩
  refine ⟨Report.countLines run ++ Report.selectLines (Report.analysisOf run) ++
    Report.unboundLines run ++ Report.statementLines run, ?_⟩
  rw [Report.build, Report.entries, hanalysis, Report.hintLines, if_pos hsame,
    List.append_assoc _ _ hints]

/-- **Literal values never hide a repeated select.**  Texts that differ in the literal in
a hole have one shape; and two selects with such texts are reported, with a count of at
least two and with the hints, in whatever run they stand. -/
theorem build_of_filled_hole {p s l l' : String} {ts : List Token}
    (hp : tokenize p.toList = some ts) (hlast : ∀ t ∈ ts.getLast?, t ∈ opensValue)
    (hs : EndsValue s.toList) (hl : Fills ts l.toList) (hl' : Fills ts l'.toList)
    (hread : (tokenize (p ++ l ++ s).toList).isSome) :
    shape (p ++ l ++ s) = shape (p ++ l' ++ s) ∧
    ∀ (hints : List String) (run : Run) (e f : Execution),
      e ∈ run.executions → f ∈ run.executions → e.kind = .select → f.kind = .select →
      e.text = p ++ l ++ s → f.text = p ++ l' ++ s → l ≠ l' →
      ∃ a, (Report.build hints run).analysis = some a ∧ a.sameShape = true ∧
        (∃ r ∈ a.repeatedShapes, r.shape = shape (p ++ l ++ s) ∧ 2 ≤ r.count) ∧
        ∃ front, (Report.build hints run).body =
          "\n".intercalate (front ++ [Report.separator, "HINTS:"] ++ hints) := by
  have htext (l : String) : (p ++ l ++ s).toList = p.toList ++ l.toList ++ s.toList := by
    rw [String.toList_append, String.toList_append]
  have hshape : shape (p ++ l ++ s) = shape (p ++ l' ++ s) := by
    rw [htext] at hread
    rw [shape, shape, htext, htext,
      Statement.shapeOfChars_eq_of_fills hp hlast hs hl hl' hread]
  refine ⟨hshape, ?_⟩
  intro hints run e f he hf hekind hfkind hetext hftext hne
  have htexts : e.text ≠ f.text := by
    intro h
    rw [hetext, hftext, ← String.toList_inj, htext, htext] at h
    have hmiddle := List.append_cancel_left (List.append_cancel_right h)
    exact hne (String.toList_inj.mp hmiddle)
  have hshapes : shape e.text = shape f.text := by
    rw [hetext, hftext, hshape]
  rw [← hetext]
  exact build_of_shared_shape he hf hekind hfkind htexts hshapes

/-- A negative number and a string with a quote in it, in one hole and with another
statement between the two selects. -/
theorem build_of_number_and_string :
    shape "SELECT a FROM t WHERE b = -1;" = shape "SELECT a FROM t WHERE b = 'x''y';" ∧
    ∃ a, (Report.build ["hint"] ⟨[⟨"SELECT a FROM t WHERE b = -1;", .select, true, 3⟩,
        ⟨"DELETE FROM t", .delete, false, 1⟩,
        ⟨"SELECT a FROM t WHERE b = 'x''y';", .select, true, 2⟩]⟩).analysis = some a ∧
      a.sameShape = true ∧
      (∃ r ∈ a.repeatedShapes, r.shape = shape "SELECT a FROM t WHERE b = -1;" ∧
        2 ≤ r.count) ∧
      ∃ front, (Report.build ["hint"] ⟨[⟨"SELECT a FROM t WHERE b = -1;", .select, true, 3⟩,
          ⟨"DELETE FROM t", .delete, false, 1⟩,
          ⟨"SELECT a FROM t WHERE b = 'x''y';", .select, true, 2⟩]⟩).body =
        "\n".intercalate (front ++ [Report.separator, "HINTS:"] ++ ["hint"]) := by
  have hdigits : ∀ c ∈ ['1'], c.isDigit = true := by
    intro c hc
    rw [List.mem_singleton.mp hc]
    rfl
  have hone : Decimal ['1'] := ⟨['1'], [], [], by decide, hdigits, .inl rfl, .inl rfl⟩
  have hends : EndsValue ";".toList := by
    intro c hc
    obtain rfl : ';' = c := Option.some.inj hc
    exact .inr (by decide)
  have hfilled := @build_of_filled_hole "SELECT a FROM t WHERE b = " ";" "-1" "'x''y'"
    [.word "SELECT".toList, .space, .word ['a'], .space, .word "FROM".toList, .space,
      .word ['t'], .space, .word "WHERE".toList, .space, .word ['b'], .space, .symbol ['='],
      .space]
    (by decide +kernel) (by decide +kernel) hends
    (.negative ['1'] hone (.symbol ['=']) (by decide) (by decide)) (.quoted ['x', '\'', 'y'])
    (by decide +kernel)
  refine ⟨hfilled.1, ?_⟩
  exact hfilled.2 ["hint"] _ ⟨"SELECT a FROM t WHERE b = -1;", .select, true, 3⟩
    ⟨"SELECT a FROM t WHERE b = 'x''y';", .select, true, 2⟩ (by simp) (by simp) rfl rfl rfl rfl
    (by decide)

/-! ## Strings behind a prefix -/

/-- The prefixes that make a string a literal. -/
def hiddenPrefixes : List String := ["N", "n", "E", "e", "X", "x"]

/-- The prefixes that do not. -/
def shownPrefixes : List String := ["B", "b", "R", "r", "U&", "u&"]

/-- A string in quotes behind a prefix. -/
def inQuotes (k content : String) : String := k ++ "'" ++ content ++ "'"

/-- Each prefix opens its kind of string, a literal or not. -/
theorem exists_opensWith :
    (∀ k ∈ hiddenPrefixes, ∃ kind, OpensWith k.toList (.literal kind)) ∧
      ∀ k ∈ shownPrefixes, ∃ o, OpensWith k.toList o ∧ ∀ kind, o ≠ .literal kind := by
  simp only [hiddenPrefixes, shownPrefixes, List.mem_cons, List.not_mem_nil, or_false,
    forall_eq_or_imp, forall_eq]
  refine ⟨⟨⟨_, .national ?_⟩, ⟨_, .national ?_⟩, ⟨_, .escaped ?_⟩, ⟨_, .escaped ?_⟩,
    ⟨_, .hex ?_⟩, ⟨_, .hex ?_⟩⟩, ⟨_, .bytes ?_, nofun⟩, ⟨_, .bytes ?_, nofun⟩,
    ⟨_, .raw ?_, nofun⟩, ⟨_, .raw ?_, nofun⟩, ⟨_, .unicode ?_, nofun⟩, ⟨_, .unicode ?_, nofun⟩⟩
  all_goals decide

/-- **A string behind a prefix is hidden exactly if the prefix makes it a literal.**  Then two
selects that differ in what it holds are reported. -/
theorem shape_of_prefixed_string {p s k c c' : String} {ts : List Token}
    (hp : tokenize p.toList = some ts) (hlast : ts.getLast? = some .space)
    (hs : EndsValue s.toList) (hk : k ∈ hiddenPrefixes ++ shownPrefixes)
    (hc : Unquoted c.toList) (hc' : Unquoted c'.toList)
    (hread : (tokenize (p ++ inQuotes k c ++ s).toList).isSome) :
    (shape (p ++ inQuotes k c ++ s) = shape (p ++ inQuotes k c' ++ s) ↔
      k ∈ hiddenPrefixes ∨ c = c') ∧
    ∀ (hints : List String) (run : Run) (e f : Execution),
      e ∈ run.executions → f ∈ run.executions → e.kind = .select → f.kind = .select →
      e.text = p ++ inQuotes k c ++ s → f.text = p ++ inQuotes k c' ++ s → c ≠ c' →
      k ∈ hiddenPrefixes →
      ∃ a, (Report.build hints run).analysis = some a ∧ a.sameShape = true ∧
        ∃ r ∈ a.repeatedShapes, r.shape = shape (p ++ inQuotes k c ++ s) ∧ 2 ≤ r.count := by
  have htext (c : String) : (p ++ inQuotes k c ++ s).toList =
      p.toList ++ (k.toList ++ '\'' :: (c.toList ++ '\'' :: s.toList)) := by
    have hquote : "'".toList = ['\''] := rfl
    simp [inQuotes, hquote]
  have hkind : ∃ o, OpensWith k.toList o ∧ ((∃ kind, o = .literal kind) ↔ k ∈ hiddenPrefixes) := by
    rcases List.mem_append.mp hk with hhidden | hshown
    · obtain ⟨kind, hopens⟩ := exists_opensWith.1 k hhidden
      exact ⟨_, hopens, iff_of_true ⟨kind, rfl⟩ hhidden⟩
    · obtain ⟨o, hopens, hno⟩ := exists_opensWith.2 k hshown
      have hdisjoint : ∀ k ∈ shownPrefixes, k ∉ hiddenPrefixes := by decide
      exact ⟨o, hopens, iff_of_false (fun ⟨kind, h⟩ => hno kind h) (hdisjoint k hshown)⟩
  obtain ⟨o, hopens, hliteral⟩ := hkind
  have hiff : shape (p ++ inQuotes k c ++ s) = shape (p ++ inQuotes k c' ++ s) ↔
      k ∈ hiddenPrefixes ∨ c = c' := by
    rw [htext] at hread
    rw [shape, shape, String.ofList_inj, htext, htext,
      Statement.shapeOfChars_prefixed_iff hp hlast hs hopens hc hc' hread, hliteral,
      String.toList_inj]
  refine ⟨hiff, ?_⟩
  intro hints run e f he hf hekind hfkind hetext hftext hne hhidden
  have htexts : e.text ≠ f.text := by
    intro h
    rw [hetext, hftext, ← String.toList_inj, htext, htext] at h
    have hrest := List.append_cancel_left (List.append_cancel_left h)
    exact hne (String.toList_inj.mp (List.append_cancel_right (List.cons.inj hrest).2))
  have hshapes : shape e.text = shape f.text := by
    rw [hetext, hftext, hiff.mpr (.inl hhidden)]
  obtain ⟨a, ha, hsame, hrepeated, _⟩ :=
    @build_of_shared_shape hints run e f he hf hekind hfkind htexts hshapes
  rw [hetext] at hrepeated
  exact ⟨a, ha, hsame, hrepeated⟩

/-- Bit strings, raw strings and Unicode strings with different values have different
shapes. -/
theorem shape_of_prefixed_string_ne :
    (tokenize "SELECT a FROM t WHERE b = ".toList).bind List.getLast? = some .space ∧
      (tokenize "SELECT a FROM t WHERE b = B'0'".toList).isSome ∧
      shape "SELECT a FROM t WHERE b = B'0'" ≠ shape "SELECT a FROM t WHERE b = B'1'" ∧
      shape "SELECT a FROM t WHERE b = R'0'" ≠ shape "SELECT a FROM t WHERE b = R'1'" ∧
      shape "SELECT a FROM t WHERE b = U&'0'" ≠ shape "SELECT a FROM t WHERE b = U&'1'" := by
  decide +kernel

/-- National strings in a statement that goes on behind them, and Unicode strings there. -/
theorem shape_of_national_string :
    shape "SELECT a FROM t WHERE b = n'x1', 2" = shape "SELECT a FROM t WHERE b = n'', 2" ∧
    shape "SELECT a FROM t WHERE b = u&'x1', 2" ≠ shape "SELECT a FROM t WHERE b = u&'', 2" ∧
    ∃ a, (Report.build [] ⟨[⟨"SELECT a FROM t WHERE b = n'x1', 2", .select, true, 3⟩,
        ⟨"DELETE FROM t", .delete, false, 1⟩,
        ⟨"SELECT a FROM t WHERE b = n'', 2", .select, true, 2⟩]⟩).analysis = some a ∧
      a.sameShape = true ∧
      ∃ r ∈ a.repeatedShapes, r.shape = shape "SELECT a FROM t WHERE b = n'x1', 2" ∧
        2 ≤ r.count := by
  have hends : EndsValue ", 2".toList := by
    intro c hc
    obtain rfl : ',' = c := Option.some.inj hc
    exact .inr (by decide)
  have hprefixed (k : String) := @shape_of_prefixed_string "SELECT a FROM t WHERE b = " ", 2" k
    "x1" "" [.word "SELECT".toList, .space, .word ['a'], .space, .word "FROM".toList, .space,
      .word ['t'], .space, .word "WHERE".toList, .space, .word ['b'], .space, .symbol ['='],
      .space] (by decide +kernel) (by decide +kernel) hends
  have hcontents : Unquoted "x1".toList ∧ Unquoted "".toList := by
    unfold Unquoted
    decide
  obtain ⟨hx, hempty⟩ := hcontents
  have hnational := hprefixed "n" (by decide) hx hempty (by decide +kernel)
  have hunicode := hprefixed "u&" (by decide) hx hempty (by decide +kernel)
  refine ⟨hnational.1.mpr (.inl (by decide)), fun h => absurd (hunicode.1.mp h) (by decide), ?_⟩
  exact hnational.2 [] _ ⟨"SELECT a FROM t WHERE b = n'x1', 2", .select, true, 3⟩
    ⟨"SELECT a FROM t WHERE b = n'', 2", .select, true, 2⟩ (by simp) (by simp) rfl rfl rfl rfl
    (by decide) (by decide)

end QueryAudit
