import Mathlib.Data.List.Basic
import QueryAudit.Proofs.Sql.Delimited
import QueryAudit.Proofs.Template.Reading

/-!
# Templates as substitutions

What a template prints is what its marks print, one behind the other, and the body is printed
as it is: nothing is looked for in it.  So any two texts can be put around a body, with their
percent signs doubled, and templates that are accepted may be written one behind the other as
long as the body stands in one of them only.

The segments of a template do not show this at a seam, where a literal may end in one part
and go on in the other; the marks do.  `apply_of_parse` carries it over, and
`parse_substitutes` is the result.
-/

namespace QueryAudit.Template

/-! ## What marks print -/

/-- What a mark prints around a body. -/
def Mark.text (body : List Char) : Mark → List Char
  | plain c _ => [c]
  | conversion c => if c = 's' then body else [if c = 'n' then '\n' else c]

/-- A character in front of segments is printed in front of them. -/
theorem flatMap_addChar (body : List Char) (c : Char) (segments : List Segment) :
    (addChar c segments).flatMap (segmentText body) =
      c :: segments.flatMap (segmentText body) := by
  cases segments with
  | nil => rfl
  | cons segment segments => cases segment <;> rfl

/-- A mark in front of segments is printed in front of them. -/
theorem flatMap_addTo (body : List Char) (m : Mark) (segments : List Segment) :
    (m.addTo segments).flatMap (segmentText body) =
      m.text body ++ segments.flatMap (segmentText body) := by
  cases m with
  | plain c h => exact flatMap_addChar body c segments
  | conversion c =>
      by_cases hs : c = 's'
      · subst hs
        rfl
      · simp only [Mark.addTo, Mark.text, if_neg hs]
        exact flatMap_addChar body _ segments

/-- Marks print what their segments do. -/
theorem flatMap_foldr_addTo (body : List Char) (marks : List Mark) :
    (marks.foldr Mark.addTo []).flatMap (segmentText body) = marks.flatMap (Mark.text body) := by
  induction marks with
  | nil => rfl
  | cons m marks ih => rw [List.foldr_cons, flatMap_addTo, ih, List.flatMap_cons]

/-- **A template prints what its marks print.** -/
theorem apply_of_parse {template : String} {t : Template} (h : parse template = .ok t)
    (body : String) :
    t.apply body = String.ofList
      ((Reading.of template.toList).marks.flatMap (Mark.text body.toList)) := by
  obtain ⟨_, rfl⟩ := parse_eq_ok_iff.mp h
  rw [apply, flatMap_foldr_addTo]

/-- Faultless marks are accepted, and print what they should. -/
theorem exists_parse_of_marks {template : String} {marks : List Mark}
    (hmarks : Faultless marks) (h : template.toList = marks.flatMap Mark.chars) :
    ∃ t, parse template = .ok t ∧
      ∀ body, t.apply body = String.ofList (marks.flatMap (Mark.text body.toList)) := by
  have hreading : Reading.of template.toList = ⟨marks, false⟩ := by
    refine (Reading.chars_eq_iff.mp ?_).symm
    rw [h, Reading.chars]
    exact List.append_nil _
  have hparse : parse template = .ok ⟨marks.foldr Mark.addTo []⟩ := by
    rw [parse_eq_ok_iff, hreading]
    exact ⟨⟨hmarks, rfl⟩, rfl⟩
  refine ⟨_, hparse, fun body => ?_⟩
  rw [apply_of_parse hparse, hreading]

/-! ## Texts that are printed as they are -/

/-- A text with every percent sign doubled. -/
def escape (text : String) : String := String.ofList (Sql.doubled '%' text.toList)

/-- The mark that prints a character. -/
def literalMark (c : Char) : Mark := if h : c = '%' then .conversion '%' else .plain c h

/-- A character is written as its mark. -/
theorem chars_literalMark (c : Char) :
    (literalMark c).chars = if c = '%' then [c, c] else [c] := by
  unfold literalMark
  split
  · next h => rw [h]; rfl
  · rfl

/-- Its mark prints the character. -/
theorem text_literalMark (body : List Char) (c : Char) : (literalMark c).text body = [c] := by
  unfold literalMark
  split
  · next h => rw [h]; rfl
  · rfl

/-- A text with its percent signs doubled is written as the marks of its characters. -/
theorem toList_escape (text : String) :
    (escape text).toList = (text.toList.map literalMark).flatMap Mark.chars := by
  rw [escape, String.toList_ofList, List.flatMap_map]
  exact List.flatMap_congr fun c _ => (chars_literalMark c).symm

/-- Its marks print the text. -/
theorem flatMap_literalMark (body text : List Char) :
    (text.map literalMark).flatMap (Mark.text body) = text := by
  rw [List.flatMap_map]
  simp [text_literalMark]

/-- The marks of characters are faultless, and none is the body. -/
theorem faultless_literalMarks (text : List Char) :
    Faultless (text.map literalMark) ∧ bodyMark ∉ text.map literalMark := by
  have hconversion {c d : Char} (h : literalMark c = .conversion d) : d = '%' := by
    unfold literalMark at h
    split at h
    · exact (Mark.conversion.inj h).symm
    · cases h
  have hbody : bodyMark ∉ text.map literalMark := by
    intro h
    obtain ⟨c, _, hc⟩ := List.mem_map.mp h
    exact absurd (hconversion hc) (by decide)
  refine ⟨⟨?_, ?_⟩, hbody⟩
  · intro d hd
    obtain ⟨c, _, hc⟩ := List.mem_map.mp hd
    rw [hconversion hc]
    decide
  · rw [List.count_eq_zero.mpr hbody]
    exact Nat.zero_le 1

/-- The body alone is no fault. -/
theorem faultless_bodyMark : Faultless [bodyMark] := by
  refine ⟨?_, List.count_le_length⟩
  intro c hc
  obtain rfl := Mark.conversion.inj (List.mem_singleton.mp hc)
  decide

/-- Two texts with their percent signs doubled are printed around a body. -/
theorem exists_parse_around (before after : String) :
    ∃ t, parse (escape before ++ "%s" ++ escape after) = .ok t ∧
      ∀ body, t.apply body = before ++ body ++ after := by
  obtain ⟨hbefore, hnone⟩ := faultless_literalMarks before.toList
  obtain ⟨hafter, hnone'⟩ := faultless_literalMarks after.toList
  have hmarks : Faultless (before.toList.map literalMark ++ [bodyMark] ++
      after.toList.map literalMark) := by
    rw [faultless_append, faultless_append]
    exact ⟨⟨hbefore, faultless_bodyMark, fun h => hnone h.1⟩, hafter, fun h => hnone' h.2⟩
  have hchars : (escape before ++ "%s" ++ escape after).toList =
      (before.toList.map literalMark ++ [bodyMark] ++
        after.toList.map literalMark).flatMap Mark.chars := by
    rw [String.toList_append, String.toList_append, toList_escape, toList_escape,
      List.flatMap_append, List.flatMap_append]
    rfl
  obtain ⟨t, ht, happly⟩ := exists_parse_of_marks hmarks hchars
  refine ⟨t, ht, fun body => ?_⟩
  have hbody : [bodyMark].flatMap (Mark.text body.toList) = body.toList := List.append_nil _
  rw [happly, List.flatMap_append, List.flatMap_append, flatMap_literalMark,
    flatMap_literalMark, hbody, String.ofList_append, String.ofList_append,
    String.ofList_toList, String.ofList_toList, String.ofList_toList]

/-- A text with its percent signs doubled prints itself. -/
theorem exists_parse_escape (text : String) :
    ∃ t, parse (escape text) = .ok t ∧ ∀ body, t.apply body = text := by
  obtain ⟨t, ht, happly⟩ :=
    exists_parse_of_marks (faultless_literalMarks text.toList).1 (toList_escape text)
  refine ⟨t, ht, fun body => ?_⟩
  rw [happly, flatMap_literalMark, String.ofList_toList]

/-! ## Templates one behind the other -/

/-- The body stands in a template. -/
def HasBody (template : String) : Prop := bodyMark ∈ (Reading.of template.toList).marks

/-- Behind characters that are read to their end, others are read as if they stood alone. -/
theorem Reading.of_append {s : List Char} (h : (of s).dangling = false) (more : List Char) :
    of (s ++ more) = ⟨(of s).marks ++ (of more).marks, (of more).dangling⟩ := by
  refine (chars_eq_iff.mp ?_).symm
  have hs : (of s).marks.flatMap Mark.chars = s := by
    have hchars := chars_of s
    rw [chars, h] at hchars
    rwa [if_neg Bool.false_ne_true, List.append_nil] at hchars
  have hmore := chars_of more
  rw [chars] at hmore ⊢
  rw [List.flatMap_append, hs, List.append_assoc, hmore]

/-- Behind an accepted template, another is read as if it stood alone. -/
theorem of_append_of_parse {a : String} {s : Template} (ha : parse a = .ok s) (b : String) :
    Reading.of (a ++ b).toList =
      ⟨(Reading.of a.toList).marks ++ (Reading.of b.toList).marks,
        (Reading.of b.toList).dangling⟩ := by
  rw [String.toList_append, Reading.of_append (parse_eq_ok_iff.mp ha).1.2]

/-- **Accepted templates are accepted one behind the other** unless the body stands in both. -/
theorem exists_parse_append_iff {a b : String} {s t : Template} (ha : parse a = .ok s)
    (hb : parse b = .ok t) :
    (∃ u, parse (a ++ b) = .ok u) ↔ ¬ (HasBody a ∧ HasBody b) := by
  obtain ⟨⟨hmarks, _⟩, _⟩ := parse_eq_ok_iff.mp ha
  obtain ⟨⟨hmarks', hend'⟩, _⟩ := parse_eq_ok_iff.mp hb
  rw [HasBody, HasBody]
  constructor
  · rintro ⟨u, hu⟩
    have hfaultless := (parse_eq_ok_iff.mp hu).1.1
    rw [of_append_of_parse ha] at hfaultless
    exact (faultless_append.mp hfaultless).2.2
  · intro hbodies
    refine ⟨_, parse_eq_ok_iff.mpr ⟨?_, rfl⟩⟩
    rw [of_append_of_parse ha]
    exact ⟨faultless_append.mpr ⟨hmarks, hmarks', hbodies⟩, hend'⟩

/-- **Templates substitute.**  Two texts with their percent signs doubled can be put around a
body, whatever the body is, and one such text prints itself.  Two accepted templates are
accepted one behind the other if and only if the body does not stand in both, and then they
print one behind the other. -/
theorem parse_substitutes :
    (∀ before after : String, ∃ t, parse (escape before ++ "%s" ++ escape after) = .ok t ∧
      ∀ body, t.apply body = before ++ body ++ after) ∧
    (∀ text : String, ∃ t, parse (escape text) = .ok t ∧ ∀ body, t.apply body = text) ∧
    ∀ (a b : String) (s t : Template), parse a = .ok s → parse b = .ok t →
      ((∃ u, parse (a ++ b) = .ok u) ↔ ¬ (HasBody a ∧ HasBody b)) ∧
      ∀ u, parse (a ++ b) = .ok u → ∀ body, u.apply body = s.apply body ++ t.apply body := by
  refine ⟨exists_parse_around, exists_parse_escape, ?_⟩
  intro a b s t ha hb
  refine ⟨exists_parse_append_iff ha hb, ?_⟩
  intro u hu body
  rw [apply_of_parse hu, apply_of_parse ha, apply_of_parse hb, of_append_of_parse ha,
    List.flatMap_append, String.ofList_append]

end QueryAudit.Template
