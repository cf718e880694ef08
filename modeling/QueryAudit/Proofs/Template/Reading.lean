import Mathlib.Data.List.Induction
import QueryAudit.Report.Template

/-!
# How a template is read

From left to right a template is a row of marks: plain characters, and percent signs with the
character behind each.  A percent sign may be left over at the end.  There is one way to read
a template so, `Reading.chars_eq_iff`; what a percent sign means depends on all that stands
before it, but only through this.

A mark that is read either is a fault or leaves behind whether the body has been placed,
`Mark.step`, and a template is read mark by mark, `readSegments_marks`.  So the first faulty
mark decides, and a percent sign that is left over counts only if there is none:
`parse_leftmost_fault`.
-/

namespace QueryAudit

/-- The reason that is given tells which fault it is, and names the character if one is to
blame. -/
theorem TemplateFault.reason_injective : Function.Injective TemplateFault.reason := by
  have hunsupported (c : Char) : (reason (.unsupported c)).toList =
      "unsupported conversion `%".toList ++ [c] ++ "`".toList := by
    change ("unsupported conversion `%" ++ c.toString ++ "`").toList = _
    rw [String.toList_append, String.toList_append, Char.toString_eq_singleton,
      String.toList_singleton]
  have hopens (c : Char) : (reason (.unsupported c)).toList.head? = some 'u' := by
    rw [hunsupported, List.append_assoc]
    rfl
  have hother (c : Char) {g : TemplateFault} (hg : g.reason.toList.head? ≠ some 'u') :
      reason (.unsupported c) ≠ g.reason := by
    intro h
    rw [← h] at hg
    exact hg (hopens c)
  intro f g h
  cases f with
  | repeatedBody =>
      cases g with
      | repeatedBody => rfl
      | unsupported c => exact absurd h.symm (hother c (by decide))
      | dangling => exact absurd h (by decide)
  | unsupported c =>
      cases g with
      | repeatedBody => exact absurd h (hother c (by decide))
      | unsupported d =>
          have hchars := congrArg String.toList h
          rw [hunsupported, hunsupported] at hchars
          have hc := List.append_cancel_left (List.append_cancel_right hchars)
          rw [List.singleton_inj.mp hc]
      | dangling => exact absurd h (hother c (by decide))
  | dangling =>
      cases g with
      | repeatedBody => exact absurd h (by decide)
      | unsupported c => exact absurd h.symm (hother c (by decide))
      | dangling => rfl

namespace Template

/-! ## Marks -/

/-- A plain character, or a percent sign with the character behind it. -/
inductive Mark where
  | plain (c : Char) (notPercent : c ≠ '%')
  | conversion (c : Char)
  deriving DecidableEq

/-- The characters of a mark. -/
def Mark.chars : Mark → List Char
  | plain c _ => [c]
  | conversion c => ['%', c]

/-- The mark that stands for the body. -/
def bodyMark : Mark := .conversion 's'

/-- A template as marks, and whether a percent sign is left over behind them. -/
structure Reading where
  marks : List Mark
  dangling : Bool
  deriving DecidableEq

namespace Reading

/-- The characters that are read. -/
def chars (r : Reading) : List Char :=
  r.marks.flatMap Mark.chars ++ if r.dangling then ['%'] else []

/-- One more mark in front. -/
def cons (m : Mark) (r : Reading) : Reading := ⟨m :: r.marks, r.dangling⟩

/-- Reads characters from left to right. -/
def of : List Char → Reading
  | [] => ⟨[], false⟩
  | c :: s =>
    if h : c = '%' then
      match s with
      | [] => ⟨[], true⟩
      | d :: s => (of s).cons (.conversion d)
    else (of s).cons (.plain c h)

/-- The characters of a mark come before those of the marks behind it. -/
theorem chars_cons (m : Mark) (r : Reading) : (r.cons m).chars = m.chars ++ r.chars := by
  rw [chars, chars, ← List.append_assoc]
  rfl

/-- Nothing is lost in reading. -/
theorem chars_of (s : List Char) : (of s).chars = s := by
  fun_induction of s with
  | case1 => rfl
  | case2 => rfl
  | case3 d s ih => rw [chars_cons, ih]; rfl
  | case4 c s h ih => rw [chars_cons, ih]; rfl

/-- A mark is read as such, whatever stands behind it. -/
theorem of_mark (m : Mark) (s : List Char) : of (m.chars ++ s) = (of s).cons m := by
  cases m with
  | plain c h =>
      conv_lhs => unfold of
      exact dif_neg h
  | conversion c => rfl

/-- What is read is what was written. -/
theorem of_chars (r : Reading) : of r.chars = r := by
  obtain ⟨marks, dangling⟩ := r
  induction marks with
  | nil => cases dangling <;> rfl
  | cons m marks ih =>
      have hfirst : (Reading.mk (m :: marks) dangling).chars =
          m.chars ++ (Reading.mk marks dangling).chars := chars_cons m ⟨marks, dangling⟩
      rw [hfirst, of_mark, ih]
      rfl

/-- **There is one way to read a template.** -/
theorem chars_eq_iff {r : Reading} {s : List Char} : r.chars = s ↔ r = of s := by
  constructor
  · rintro rfl
    exact (of_chars r).symm
  · rintro rfl
    exact chars_of s

end Reading

/-! ## Faults -/

/-- The characters that have a meaning behind a percent sign. -/
def conversions : List Char := ['s', 'n', '%']

/-- Marks that are no fault: every conversion has a meaning, and one at most is the body. -/
structure Faultless (marks : List Mark) : Prop where
  known : ∀ c, .conversion c ∈ marks → c ∈ conversions
  once : marks.count bodyMark ≤ 1

/-- What is wrong with a mark behind others. -/
inductive FaultBehind (front : List Mark) : Mark → TemplateFault → Prop
  | repeatedBody (h : bodyMark ∈ front) : FaultBehind front bodyMark .repeatedBody
  | unsupported {c : Char} (h : c ∉ conversions) :
      FaultBehind front (.conversion c) (.unsupported c)

/-- The leftmost fault of a reading.  A percent sign that is left over is one if there is no
other. -/
inductive Reading.Blames (r : Reading) : TemplateFault → Prop
  | mark {front rest : List Mark} {m : Mark} {fault : TemplateFault}
      (split : r.marks = front ++ m :: rest) (before : Faultless front)
      (here : FaultBehind front m fault) : Blames r fault
  | dangling (before : Faultless r.marks) (left : r.dangling = true) : Blames r .dangling

/-- Two rows of marks are faultless together if each is and the body is not in both. -/
theorem faultless_append {marks more : List Mark} :
    Faultless (marks ++ more) ↔
      Faultless marks ∧ Faultless more ∧ ¬ (bodyMark ∈ marks ∧ bodyMark ∈ more) := by
  constructor
  · rintro ⟨hknown, honce⟩
    rw [List.count_append] at honce
    refine ⟨⟨fun c hc => hknown c (List.mem_append_left _ hc), by omega⟩,
      ⟨fun c hc => hknown c (List.mem_append_right _ hc), by omega⟩, ?_⟩
    rintro ⟨hmarks, hmore⟩
    have hone := List.count_pos_iff.mpr hmarks
    have hother := List.count_pos_iff.mpr hmore
    omega
  · rintro ⟨⟨hknown, honce⟩, ⟨hknown', honce'⟩, hboth⟩
    refine ⟨fun c hc => (List.mem_append.mp hc).elim (hknown c) (hknown' c), ?_⟩
    rw [List.count_append]
    by_cases hbody : bodyMark ∈ marks
    · have hnone : more.count bodyMark = 0 := List.count_eq_zero.mpr fun h => hboth ⟨hbody, h⟩
      omega
    · have hnone : marks.count bodyMark = 0 := List.count_eq_zero.mpr hbody
      omega

/-- Marks are faultless if those before the last are and the last is no fault behind them. -/
theorem faultless_concat {front : List Mark} {m : Mark} :
    Faultless (front ++ [m]) ↔ Faultless front ∧ ∀ fault, ¬ FaultBehind front m fault := by
  rw [faultless_append, and_congr_right_iff]
  intro _
  constructor
  · rintro ⟨⟨hknown, _⟩, hboth⟩ fault hfault
    cases hfault with
    | repeatedBody h => exact hboth ⟨h, List.mem_singleton_self _⟩
    | unsupported h => exact h (hknown _ (List.mem_singleton_self _))
  · intro hlast
    refine ⟨⟨?_, List.count_le_length⟩, ?_⟩
    · intro c hc
      obtain rfl := List.mem_singleton.mp hc
      by_contra hnone
      exact hlast _ (.unsupported hnone)
    · rintro ⟨hfront, hm⟩
      obtain rfl := List.mem_singleton.mp hm
      exact hlast _ (.repeatedBody hfront)

/-! ## Reading mark by mark -/

/-- What reading a mark comes to: a fault, or whether the body has been placed behind it.
`used` says whether it had been placed before. -/
def Mark.step (used : Bool) : Mark → Except TemplateFault Bool
  | plain _ _ => .ok used
  | conversion c =>
    if c = 's' then if used then .error .repeatedBody else .ok true
    else if c = 'n' ∨ c = '%' then .ok used
    else .error (.unsupported c)

/-- Puts what a mark stands for in front of segments. -/
def Mark.addTo : Mark → List Segment → List Segment
  | plain c _, segments => addChar c segments
  | conversion c, segments =>
    if c = 's' then .body :: segments else addChar (if c = 'n' then '\n' else c) segments

/-- **A mark is read by one step**, whatever stands behind it. -/
theorem readSegments_mark (used : Bool) (m : Mark) (s : List Char) :
    readSegments used (m.chars ++ s) =
      (m.step used).bind fun used => (readSegments used s).map m.addTo := by
  cases m with
  | plain c h =>
      have hplain : readSegments used (c :: s) = (readSegments used s).map (addChar c) := by
        simp [readSegments, h]
      exact hplain
  | conversion c =>
      by_cases hs : c = 's'
      · subst hs
        cases used <;> rfl
      · by_cases hn : c = 'n'
        · subst hn
          rfl
        · by_cases hp : c = '%'
          · subst hp
            rfl
          · have hother : readSegments used ('%' :: c :: s) = .error (.unsupported c) := by
              simp [readSegments]
            simp only [Mark.step, if_neg hs, if_neg (not_or.mpr ⟨hn, hp⟩)]
            exact hother

/-- **Marks are read one after another**, and then what stands behind them. -/
theorem readSegments_marks (used : Bool) (marks : List Mark) (s : List Char) :
    readSegments used (marks.flatMap Mark.chars ++ s) =
      (marks.foldlM Mark.step used).bind fun used =>
        (readSegments used s).map fun segments => marks.foldr Mark.addTo segments := by
  induction marks generalizing used with
  | nil =>
      change readSegments used s = (readSegments used s).map id
      cases readSegments used s <;> rfl
  | cons m marks ih =>
      rw [List.flatMap_cons, List.append_assoc, readSegments_mark, List.foldlM_cons]
      cases m.step used with
      | error fault => rfl
      | ok used' =>
          change (readSegments used' _).map _ = (marks.foldlM Mark.step used').bind _
          rw [ih]
          cases marks.foldlM Mark.step used' with
          | error fault => rfl
          | ok used'' =>
              simp only [Except.bind]
              cases readSegments used'' s <;> rfl

/-- A faulty mark is read as its fault. -/
theorem FaultBehind.step {front : List Mark} {m : Mark} {fault : TemplateFault}
    (h : FaultBehind front m fault) : m.step (decide (bodyMark ∈ front)) = .error fault := by
  cases h with
  | repeatedBody h => rw [decide_eq_true h]; rfl
  | unsupported h =>
      simp only [conversions, List.mem_cons, List.not_mem_nil, or_false, not_or] at h
      obtain ⟨hs, hn⟩ := h
      rw [Mark.step, if_neg hs, if_neg (not_or.mpr hn)]

/-- Any other mark is read, and the body has been placed behind it if it was before or is
there. -/
theorem step_of_not_faultBehind {front : List Mark} {m : Mark}
    (h : ∀ fault, ¬ FaultBehind front m fault) :
    m.step (decide (bodyMark ∈ front)) = .ok (decide (bodyMark ∈ front ++ [m])) := by
  cases m with
  | plain c hc =>
      have hbody : bodyMark ≠ .plain c hc := nofun
      simp only [Mark.step, List.mem_append, List.mem_singleton, hbody, or_false]
  | conversion c =>
      have hc : c ∈ conversions := by
        by_contra hc
        exact h _ (.unsupported hc)
      by_cases hs : c = 's'
      · subst hs
        have hfront : bodyMark ∉ front := fun hbody => h _ (.repeatedBody hbody)
        rw [decide_eq_false hfront, decide_eq_true (List.mem_append_right _ (by simp [bodyMark]))]
        rfl
      · have hcharacter : c = 'n' ∨ c = '%' := by simpa [conversions, hs] using hc
        have hbody : bodyMark ≠ .conversion c := by simpa [bodyMark] using Ne.symm hs
        simp only [Mark.step, if_neg hs, if_pos hcharacter, List.mem_append,
          List.mem_singleton, hbody, or_false]

/-- **Faultless marks are read** to their end. -/
theorem Faultless.foldlM_step {marks : List Mark} (h : Faultless marks) :
    marks.foldlM Mark.step false = .ok (decide (bodyMark ∈ marks)) := by
  -- from the right: whether a mark is a fault depends on the marks before it
  induction marks using List.reverseRecOn with
  | nil => rfl
  | append_singleton front m ih =>
      obtain ⟨hfront, hm⟩ := faultless_concat.mp h
      rw [List.foldlM_append, ih hfront]
      change (m.step _ >>= fun used => List.foldlM Mark.step used []) = _
      rw [step_of_not_faultBehind hm]
      rfl

/-- **The first faulty mark decides.** -/
theorem FaultBehind.foldlM_step {front rest : List Mark} {m : Mark} {fault : TemplateFault}
    (hfront : Faultless front) (h : FaultBehind front m fault) :
    (front ++ m :: rest).foldlM Mark.step false = .error fault := by
  rw [List.foldlM_append, hfront.foldlM_step]
  change (m.step _ >>= fun used => List.foldlM Mark.step used rest) = _
  rw [h.step]
  rfl

/-- Marks that are not faultless have a first fault. -/
theorem exists_faultBehind {marks : List Mark} (h : ¬ Faultless marks) :
    ∃ front m rest fault,
      marks = front ++ m :: rest ∧ Faultless front ∧ FaultBehind front m fault := by
  induction marks using List.reverseRecOn with
  | nil => exact absurd ⟨by simp, by simp⟩ h
  | append_singleton front m ih =>
      by_cases hfront : Faultless front
      · rw [faultless_concat, not_and] at h
        obtain ⟨fault, hfault⟩ := not_forall.mp (h hfront)
        exact ⟨front, m, [], fault, rfl, hfront, not_not.mp hfault⟩
      · obtain ⟨front', m', rest, fault, rfl, hfault⟩ := ih hfront
        exact ⟨front', m', rest ++ [m], fault, by simp, hfault⟩

/-! ## What becomes of a template -/

/-- A faultless reading is accepted as what its marks add up to. -/
theorem Reading.readSegments_of_faultless {r : Reading} (hmarks : Faultless r.marks)
    (hend : r.dangling = false) :
    readSegments false r.chars = .ok (r.marks.foldr Mark.addTo []) := by
  rw [chars, hend, readSegments_marks, hmarks.foldlM_step]
  rfl

/-- A reading with a fault is rejected with the leftmost one. -/
theorem Reading.Blames.readSegments {r : Reading} {fault : TemplateFault} (h : r.Blames fault) :
    readSegments false r.chars = .error fault := by
  rw [chars, readSegments_marks]
  cases h with
  | mark split before here => rw [split, here.foldlM_step before]; rfl
  | dangling before left => rw [before.foldlM_step, left]; rfl

/-- A reading has one fault to blame at most. -/
theorem Reading.Blames.unique {r : Reading} {fault fault' : TemplateFault}
    (h : r.Blames fault) (h' : r.Blames fault') : fault = fault' :=
  Except.error.inj (h.readSegments.symm.trans h'.readSegments)

/-- Every reading is faultless or has a fault to blame. -/
theorem Reading.faultless_or_blames (r : Reading) :
    Faultless r.marks ∧ r.dangling = false ∨ ∃ fault, r.Blames fault := by
  by_cases hmarks : Faultless r.marks
  · cases hend : r.dangling with
    | false => exact .inl ⟨hmarks, rfl⟩
    | true => exact .inr ⟨_, .dangling hmarks hend⟩
  · obtain ⟨front, m, rest, fault, split, before, here⟩ := exists_faultBehind hmarks
    exact .inr ⟨fault, .mark split before here⟩

/-- A faulty mark is to blame whatever is written behind the template. -/
theorem Reading.Blames.readSegments_append {r : Reading} {fault : TemplateFault}
    (h : r.Blames fault) (hmark : fault ≠ .dangling) (more : List Char) :
    Template.readSegments false (r.chars ++ more) = .error fault := by
  cases h with
  | mark split before here =>
      rw [chars, List.append_assoc, readSegments_marks, split, here.foldlM_step before]
      rfl
  | dangling before left => exact absurd rfl hmark

/-- The outcome of parsing, by the one reading of the template. -/
theorem parse_eq (template : String) :
    parse template =
      match readSegments false (Reading.of template.toList).chars with
      | .ok segments => .ok ⟨segments⟩
      | .error fault => .error ⟨template, fault⟩ := by
  rw [Reading.chars_of]
  rfl

/-- A template is accepted if its reading is faultless, and rejected with the fault that its
reading blames. -/
theorem parse_cases (template : String) :
    let r := Reading.of template.toList
    (Faultless r.marks ∧ r.dangling = false ∧
      parse template = .ok ⟨r.marks.foldr Mark.addTo []⟩) ∨
    ∃ fault, r.Blames fault ∧ parse template = .error ⟨template, fault⟩ := by
  intro r
  rcases r.faultless_or_blames with ⟨hmarks, hend⟩ | ⟨fault, hblames⟩
  · refine .inl ⟨hmarks, hend, ?_⟩
    rw [parse_eq, Reading.readSegments_of_faultless hmarks hend]
  · refine .inr ⟨fault, hblames, ?_⟩
    rw [parse_eq, hblames.readSegments]

/-- An accepted template is what its marks add up to. -/
theorem parse_eq_ok_iff {template : String} {t : Template} :
    parse template = .ok t ↔
      (Faultless (Reading.of template.toList).marks ∧
        (Reading.of template.toList).dangling = false) ∧
      t = ⟨(Reading.of template.toList).marks.foldr Mark.addTo []⟩ := by
  constructor
  · intro ht
    rcases parse_cases template with ⟨hmarks, hend, hok⟩ | ⟨fault, _, herror⟩
    · exact ⟨⟨hmarks, hend⟩, Except.ok.inj (ht.symm.trans hok)⟩
    · rw [ht] at herror
      cases herror
  · rintro ⟨⟨hmarks, hend⟩, rfl⟩
    rw [parse_eq, Reading.readSegments_of_faultless hmarks hend]

/-- A rejected template is in the error, and with it the fault that its reading blames. -/
theorem parse_eq_error_iff {template : String} {e : TemplateError} :
    parse template = .error e ↔
      e.template = template ∧ (Reading.of template.toList).Blames e.fault := by
  constructor
  · intro he
    rcases parse_cases template with ⟨_, _, hok⟩ | ⟨fault, hblames, herror⟩
    · rw [he] at hok
      cases hok
    · obtain rfl := Except.error.inj (he.symm.trans herror)
      exact ⟨rfl, hblames⟩
  · rintro ⟨rfl, hblames⟩
    rw [parse_eq, hblames.readSegments]

/-- A faulty mark is in the error whatever is written behind the template. -/
theorem parse_append_of_blames {template : String} {fault : TemplateFault}
    (h : (Reading.of template.toList).Blames fault) (hmark : fault ≠ .dangling)
    (more : String) : parse (template ++ more) = .error ⟨template ++ more, fault⟩ := by
  have happend := h.readSegments_append hmark more.toList
  rw [Reading.chars_of, ← String.toList_append] at happend
  rw [parse, happend]

/-- **Which templates are accepted, and what is said of the others.**  A template has one
reading.  It is accepted if and only if all conversions in it have a meaning, the body stands
in it once at most, and no percent sign is left over.  Otherwise the error holds the template
as it is, and its reason is that of the leftmost fault and of no other; and unless that is
the percent sign left over at the end, it stays the same whatever is written behind the
template. -/
theorem parse_leftmost_fault (template : String) :
    ∃ reading : Reading, (∀ r : Reading, r.chars = template.toList ↔ r = reading) ∧
      ((∃ t, parse template = .ok t) ↔
        Faultless reading.marks ∧ reading.dangling = false) ∧
      ∀ e, parse template = .error e →
        e.template = template ∧
        (∀ fault, reading.Blames fault ↔ fault.reason = e.fault.reason) ∧
        (e.fault ≠ .dangling →
          ∀ more, parse (template ++ more) = .error ⟨template ++ more, e.fault⟩) := by
  refine ⟨Reading.of template.toList, fun r => Reading.chars_eq_iff, ?_, ?_⟩
  · constructor
    · rintro ⟨t, ht⟩
      exact (parse_eq_ok_iff.mp ht).1
    · intro hfaultless
      exact ⟨_, parse_eq_ok_iff.mpr ⟨hfaultless, rfl⟩⟩
  · intro e he
    obtain ⟨htemplate, hblames⟩ := parse_eq_error_iff.mp he
    refine ⟨htemplate, fun fault => ⟨?_, ?_⟩, parse_append_of_blames hblames⟩
    · intro hfault
      rw [hfault.unique hblames]
    · intro hreason
      rw [TemplateFault.reason_injective hreason]
      exact hblames

/-- Of three faults the first is to blame; a doubled percent sign opens no conversion. -/
example : parse "%%s %s%%s%q%s%" = .error ⟨"%%s %s%%s%q%s%", .unsupported 'q'⟩ := rfl

end Template

end QueryAudit
