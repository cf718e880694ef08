import Mathlib.Data.List.Forall2
import QueryAudit.Execution.Log
import QueryAudit.Proofs.Text.Lines

/-!
# Logs line by line

A log is read one physical line after another, a physical line being what stands
between two line feeds.  Each line gives an execution, or nothing, or an error, and no
line sees another: `readLines_append` is the one step from which the rest follows.  So
two logs, one below the other, are read as one run after the other, where only the
numbers of the lines of the second are moved (`read_append`).
-/

namespace QueryAudit

/-- The error of a log that stands below some lines: it names its own line, if any, by
the number that the line has there. -/
def LogError.below (lines : Nat) : LogError → LogError
  | .faulty line fault => .faulty (line + lines) fault
  | .unknownKind error => .unknownKind error

namespace Log

open Text

/-- The line is not skipped, so it must hold an entry. -/
def holdsEntry (line : List Char) : Bool := !isSkipped (trim line)

/-- Blank lines and comments are skipped. -/
theorem holdsEntry_eq_false_iff {line : List Char} :
    holdsEntry line = false ↔ trim line = [] ∨ (trim line).head? = some '#' := by
  simp [holdsEntry, isSkipped, or_iff_not_imp_left]

/-- The line holds the entry of the execution. -/
def Describes (line : List Char) (e : Execution) : Prop :=
  ∃ entry, Entry.decode (trim line) = .ok entry ∧ execution entry = .ok e

/-! ## A single line -/

/-- A skipped line gives nothing. -/
theorem readLine_skipped {line : List Char} (h : holdsEntry line = false) (number : Nat) :
    readLine number line = .ok none := by
  have hskipped : isSkipped (trim line) = true := by simpa [holdsEntry] using h
  rw [readLine, if_pos hskipped]

/-- **A line that is not skipped gives an execution or an error.**  The execution is the
one that its entry describes. -/
theorem readLine_holdsEntry {line : List Char} (h : holdsEntry line = true) (number : Nat) :
    (∃ e, readLine number line = .ok (some e) ∧ ∀ e', Describes line e' ↔ e' = e) ∨
      ∃ error, readLine number line = .error error ∧ ∀ e, ¬ Describes line e := by
  have hread : ¬ isSkipped (trim line) = true := by simpa [holdsEntry] using h
  rw [readLine, if_neg hread]
  cases hdecode : Entry.decode (trim line) with
  | error fault => exact .inr ⟨_, rfl, by simp [Describes, hdecode]⟩
  | ok entry =>
      cases he : execution entry with
      | error error => exact .inr ⟨.unknownKind error, by simp only [he], by
          simp [Describes, hdecode, he]⟩
      | ok e => exact .inl ⟨e, by simp only [he], by simp [Describes, hdecode, he, eq_comm]⟩

/-- Only the trimmed line counts. -/
theorem readLine_congr {line line' : List Char} (h : trim line = trim line') (number : Nat) :
    readLine number line = readLine number line' := by
  rw [readLine, readLine, h]

/-- The number of a line shows in its error only. -/
theorem readLine_below (number lines : Nat) (line : List Char) :
    readLine (number + lines) line = (readLine number line).mapError (·.below lines) := by
  unfold readLine
  dsimp only
  split
  · rfl
  cases Entry.decode (trim line) with
  | error fault => rfl
  | ok entry =>
      dsimp only
      cases execution entry <;> rfl

/-! ## Line after line -/

/-- Reading starts with the first line. -/
theorem readLines_cons (number : Nat) (line : List Char) (ls : List (List Char)) :
    readLines number (line :: ls) =
      (readLine number line).bind fun found =>
        (readLines (number + 1) ls).map (found.toList ++ ·) := by
  rw [readLines]
  cases readLine number line <;> rfl

/-- Lines are read without an error if the first one is and the others are. -/
theorem readLines_cons_eq_ok_iff {number : Nat} {line : List Char} {ls : List (List Char)}
    {es : List Execution} :
    readLines number (line :: ls) = .ok es ↔
      ∃ found rest, readLine number line = .ok found ∧ readLines (number + 1) ls = .ok rest ∧
        es = found.toList ++ rest := by
  rw [readLines_cons]
  cases readLine number line with
  | error error => simp [Except.bind]
  | ok found => cases readLines (number + 1) ls <;> simp [Except.bind, Except.map, eq_comm]

/-- The first error is that of the first line, or that of the others if this has none. -/
theorem readLines_cons_eq_error_iff {number : Nat} {line : List Char} {ls : List (List Char)}
    {error : LogError} :
    readLines number (line :: ls) = .error error ↔
      readLine number line = .error error ∨
        ∃ found, readLine number line = .ok found ∧ readLines (number + 1) ls = .error error := by
  rw [readLines_cons]
  cases readLine number line with
  | error error => simp [Except.bind]
  | ok found => cases readLines (number + 1) ls <;> simp [Except.bind, Except.map]

/-- **Lines are read one after the other**, and the first error ends it. -/
theorem readLines_append (number : Nat) (ls ms : List (List Char)) :
    readLines number (ls ++ ms) = (readLines number ls).bind fun es =>
      (readLines (number + ls.length) ms).map (es ++ ·) := by
  induction ls generalizing number with
  | nil => cases hms : readLines number ms <;> simp [readLines, Except.bind, Except.map, hms]
  | cons line ls ih =>
      have hnumber : number + (line :: ls).length = number + 1 + ls.length := by
        rw [List.length_cons]
        omega
      rw [List.cons_append, readLines_cons, readLines_cons, hnumber, ih]
      cases readLine number line with
      | error error => rfl
      | ok found =>
          cases readLines (number + 1) ls with
          | error error => rfl
          | ok es =>
              cases readLines (number + 1 + ls.length) ms <;> simp [Except.bind, Except.map]

/-- The number of the first line shows in the error only. -/
theorem readLines_below (number lines : Nat) (ls : List (List Char)) :
    readLines (number + lines) ls = (readLines number ls).mapError (·.below lines) := by
  induction ls generalizing number with
  | nil => rfl
  | cons line ls ih =>
      have hnumber : number + lines + 1 = number + 1 + lines := by omega
      rw [readLines_cons, readLines_cons, readLine_below, hnumber, ih]
      cases readLine number line with
      | error error => rfl
      | ok found => cases readLines (number + 1) ls <;> rfl

/-- Lines that are the same when they are trimmed are read the same. -/
theorem readLines_congr {ls ms : List (List Char)}
    (h : List.Forall₂ (fun l m => trim l = trim m) ls ms) (number : Nat) :
    readLines number ls = readLines number ms := by
  induction h generalizing number with
  | nil => rfl
  | cons hline _ ih => rw [readLines_cons, readLines_cons, readLine_congr hline, ih]

/-- **A log is read by its physical lines.**  What its lines lack of them is trimmed away
or skipped. -/
theorem read_eq (contents : String) :
    read contents = (readLines 1 (contents.toList.splitOn '\n')).map Run.mk := by
  obtain ⟨last, hlast, hpieces⟩ := splitOn_forall₂_lines contents.toList
  have htrim : List.Forall₂ (fun piece line => trim piece = trim line)
      (contents.toList.splitOn '\n') (lines contents.toList ++ last) := by
    refine hpieces.imp fun piece line h => ?_
    rcases h with rfl | rfl
    · rfl
    · exact trim_append_blank (by decide) line
  have hskipped : readLines (1 + (lines contents.toList).length) last = .ok [] := by
    simp only [List.mem_cons, List.not_mem_nil, or_false] at hlast
    rcases hlast with rfl | rfl
    · rfl
    · rw [readLines_cons, readLine_skipped (by decide)]
      rfl
  rw [read, readLines_congr htrim, readLines_append, hskipped]
  cases readLines 1 (lines contents.toList) <;> simp [Except.bind, Except.map]

/-- **Two logs, one below the other, are read as one run after the other.** -/
theorem read_append (a b : String) :
    read (a ++ "\n" ++ b) =
      (read a).bind fun run =>
        ((read b).mapError (·.below (a.toList.count '\n' + 1))).map run.append := by
  have hpieces : (a ++ "\n" ++ b).toList.splitOn '\n' =
      a.toList.splitOn '\n' ++ b.toList.splitOn '\n' := by
    have htext : (a ++ "\n" ++ b).toList = a.toList ++ '\n' :: b.toList := by
      rw [String.toList_append, String.toList_append, List.append_assoc]
      rfl
    rw [htext, List.splitOn_append_cons_self]
  rw [read_eq, read_eq, read_eq, hpieces, readLines_append, ← length_splitOn, readLines_below]
  cases readLines 1 (a.toList.splitOn '\n') with
  | error error => rfl
  | ok es => cases readLines 1 (b.toList.splitOn '\n') <;> rfl

/-! ## All lines -/

/-- **A log without errors has one execution for every line that is not skipped**, in
order. -/
theorem readLines_eq_ok_iff {number : Nat} {ls : List (List Char)} {es : List Execution} :
    readLines number ls = .ok es ↔ List.Forall₂ Describes (ls.filter holdsEntry) es := by
  induction ls generalizing number es with
  | nil => simp [readLines, eq_comm]
  | cons line ls ih =>
      rw [readLines_cons_eq_ok_iff]
      cases hentry : holdsEntry line with
      | false => simp [readLine_skipped hentry, hentry, ih]
      | true =>
          rw [List.filter_cons_of_pos hentry, List.forall₂_cons_left_iff]
          rcases readLine_holdsEntry hentry number with ⟨e, hread, he⟩ | ⟨error, hread, hnone⟩
          · simp [hread, he, ih]
          · simp [hread, hnone]

/-- Lines of which none is bad are read without an error. -/
theorem exists_readLines_eq_ok {ls : List (List Char)}
    (h : ∀ line ∈ ls, holdsEntry line = true → ∃ e, Describes line e) (number : Nat) :
    ∃ es, readLines number ls = .ok es := by
  induction ls generalizing number with
  | nil => exact ⟨[], rfl⟩
  | cons line ls ih =>
      obtain ⟨hline, hls⟩ := List.forall_mem_cons.mp h
      obtain ⟨rest, hrest⟩ := ih hls (number + 1)
      have hfound : ∃ found, readLine number line = .ok found := by
        cases hentry : holdsEntry line with
        | false => exact ⟨none, readLine_skipped hentry number⟩
        | true =>
            obtain ⟨e, he⟩ := hline hentry
            rcases readLine_holdsEntry hentry number with ⟨e', hread, _⟩ | ⟨_, _, hnone⟩
            · exact ⟨some e', hread⟩
            · exact absurd he (hnone e)
      obtain ⟨found, hfound⟩ := hfound
      exact ⟨_, readLines_cons_eq_ok_iff.mpr ⟨found, rest, hfound, hrest, rfl⟩⟩

/-- **The earliest bad line decides the error**, by itself and its number. -/
theorem readLines_eq_error_iff {number : Nat} {ls : List (List Char)} {error : LogError} :
    readLines number ls = .error error ↔
      ∃ before line after, ls = before ++ line :: after ∧
        (∀ l ∈ before, holdsEntry l = true → ∃ e, Describes l e) ∧
        readLine (number + before.length) line = .error error := by
  constructor
  · intro h
    induction ls generalizing number with
    | nil => cases h
    | cons line ls ih =>
        rcases readLines_cons_eq_error_iff.mp h with hread | ⟨found, hread, hrest⟩
        · exact ⟨[], line, ls, rfl, by simp, hread⟩
        · obtain ⟨before, bad, after, rfl, hsound, hbad⟩ := ih hrest
          refine ⟨line :: before, bad, after, rfl, ?_, ?_⟩
          · intro l hl hentry
            rcases List.mem_cons.mp hl with rfl | hl
            · rcases readLine_holdsEntry hentry number with ⟨e, _, he⟩ | ⟨_, herror, _⟩
              · exact ⟨e, (he e).mpr rfl⟩
              · rw [hread] at herror
                cases herror
            · exact hsound l hl hentry
          · rw [List.length_cons, Nat.add_comm before.length 1, ← Nat.add_assoc]
            exact hbad
  · intro h
    obtain ⟨before, bad, after, rfl, hsound, hbad⟩ := h
    obtain ⟨es, hes⟩ := exists_readLines_eq_ok hsound number
    rw [readLines_append, hes, readLines_cons, hbad]
    rfl

/-- **A log is read line by line.**

* Of two logs, one below the other, an error of the first is the error of both.  If it has
  none, its executions come first, and the lines of the second count on from its own.
* A single line gives nothing if it is blank or a comment, and else an execution or an
  error.
* A log without errors has one execution for every line that is not skipped, in order.
* An error is that of the earliest bad line, which it names by its number among all
  lines. -/
theorem read_line_by_line :
    (∀ a b : String, read (a ++ "\n" ++ b) =
      match read a, read b with
      | .error error, _ => .error error
      | .ok run, .ok next => .ok (run.append next)
      | .ok _, .error (.faulty line fault) =>
        .error (.faulty (line + (a.toList.count '\n' + 1)) fault)
      | .ok _, .error (.unknownKind error) => .error (.unknownKind error)) ∧
    (∀ line : String, '\n' ∉ line.toList →
      if trim line.toList = [] ∨ (trim line.toList).head? = some '#' then
        read line = .ok .empty
      else (∃ e, read line = .ok ⟨[e]⟩) ∨ ∃ error, read line = .error error) ∧
    (∀ (contents : String) (run : Run), read contents = .ok run ↔
      List.Forall₂ Describes ((contents.toList.splitOn '\n').filter holdsEntry)
        run.executions) ∧
    ∀ (contents : String) (error : LogError), read contents = .error error ↔
      ∃ before line after, contents.toList.splitOn '\n' = before ++ line :: after ∧
        (∀ l ∈ before, holdsEntry l = true → ∃ e, Describes l e) ∧
        readLine (before.length + 1) line = .error error := by
  refine ⟨?_, ?_, ?_, ?_⟩
  · intro a b
    rw [read_append]
    cases read a with
    | error error => rfl
    | ok run =>
        cases read b with
        | ok next => rfl
        | error error => cases error <;> rfl
  · intro line hline
    have hone : read line = (readLine 1 line.toList).map fun found => ⟨found.toList⟩ := by
      rw [read_eq, List.splitOn_eq_singleton hline, readLines_cons]
      cases readLine 1 line.toList <;> simp [Except.bind, Except.map, readLines]
    rw [hone]
    split
    · next hskipped =>
        rw [readLine_skipped (holdsEntry_eq_false_iff.mpr hskipped)]
        rfl
    · next hread =>
        have hentry : holdsEntry line.toList = true := by
          rwa [← holdsEntry_eq_false_iff, Bool.not_eq_false] at hread
        rcases readLine_holdsEntry hentry 1 with ⟨e, he, _⟩ | ⟨error, herror, _⟩
        · exact .inl ⟨e, by rw [he]; rfl⟩
        · exact .inr ⟨error, by rw [herror]; rfl⟩
  · intro contents run
    rw [read_eq, ← @readLines_eq_ok_iff 1]
    cases readLines 1 (contents.toList.splitOn '\n') with
    | error error => simp [Except.map]
    | ok es =>
        obtain ⟨executions⟩ := run
        simp [Except.map]
  · intro contents error
    rw [read_eq]
    have hmap : (readLines 1 (contents.toList.splitOn '\n')).map Run.mk = .error error ↔
        readLines 1 (contents.toList.splitOn '\n') = .error error := by
      cases readLines 1 (contents.toList.splitOn '\n') <;> simp [Except.map]
    rw [hmap, readLines_eq_error_iff]
    simp only [Nat.add_comm 1]

/-- A comment above an empty line and a bad one: the bad line is the third. -/
theorem read_comment_above_bad_line :
    '\n' ∉ "# note\r".toList ∧ read "# note\r" = .ok .empty ∧
      read ("# note\r" ++ "\n" ++ "\nx") = .error (.faulty 3 ⟨.expectedValue, 1⟩) := by
  obtain ⟨happend, hline, _, _⟩ := read_line_by_line
  have hnote : read "# note\r" = .ok .empty := by
    have hnote := hline "# note\r" (by decide)
    rwa [if_pos (by decide +kernel)] at hnote
  have hbad : read "\nx" = .error (.faulty 2 ⟨.expectedValue, 1⟩) := by decide +kernel
  refine ⟨by decide, hnote, ?_⟩
  rw [happend, hnote, hbad]
  rfl

end Log

end QueryAudit
