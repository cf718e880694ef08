import QueryAudit.Proofs.Template.Reading

/-!
# Templates as frames

A template that was read frames the body: there is a text in front of it and, if the body is
placed at all, a text behind it.  The segments say no more than that.  A text is one literal, or
none if it is empty, and this holds after every mark that is read, `exists_frame`.

Frames that print the same around every body are the same: the bodies can be chosen so that
they do not fit into the texts.  So accepted templates are equal if and only if they cannot be
told apart by what they print, `eq_iff_apply_eq`.
-/

namespace QueryAudit.Template

/-- What is put around a body: the text in front of it and, if it is placed, the text behind
it. -/
structure Frame where
  front : List Char
  back : Option (List Char)
  deriving DecidableEq

/-- A text as segments; the empty text takes none. -/
def literals : List Char → List Segment
  | [] => []
  | c :: text => [.literal (c :: text)]

namespace Frame

/-- The segments of a frame. -/
def segments (f : Frame) : List Segment :=
  match f.back with
  | none => literals f.front
  | some back => literals f.front ++ .body :: literals back

/-- What a frame prints around a body. -/
def text (f : Frame) (body : List Char) : List Char :=
  match f.back with
  | none => f.front
  | some back => f.front ++ body ++ back

/-- A text prints itself. -/
theorem flatMap_literals (body text : List Char) :
    (literals text).flatMap (segmentText body) = text := by
  cases text with
  | nil => rfl
  | cons c text => exact List.append_nil _

/-- A frame prints what its segments print. -/
theorem flatMap_segments (f : Frame) (body : List Char) :
    f.segments.flatMap (segmentText body) = f.text body := by
  obtain ⟨front, back⟩ := f
  cases back with
  | none => exact flatMap_literals body front
  | some back =>
      simp only [segments, text, List.flatMap_append, List.flatMap_cons, flatMap_literals,
        segmentText, List.append_assoc]

/-- A character in front of a frame belongs to the text in front. -/
theorem addChar_segments (c : Char) (f : Frame) :
    addChar c f.segments = (Frame.mk (c :: f.front) f.back).segments := by
  obtain ⟨front, back⟩ := f
  cases back <;> cases front <;> rfl

/-! ## Telling frames apart -/

/-- Two texts around a body are fixed by what they are around every body. -/
theorem eq_of_forall_around {a b a' b' : List Char} (hlen : a.length ≤ a'.length)
    (h : ∀ body, a ++ body ++ b = a' ++ body ++ b') : a = a' ∧ b = b' := by
  have hempty : a ++ b = a' ++ b' := by simpa using h []
  have hprefix : a <+: a' := by
    apply List.prefix_of_prefix_length_le (List.prefix_append a b) _ hlen
    rw [hempty]
    exact List.prefix_append a' b'
  obtain ⟨x, rfl⟩ := hprefix
  -- what the second text has more would have to start like every body
  have hstart (d : Char) : d :: b = x ++ d :: b' := by
    have hd := h [d]
    rw [List.append_assoc, List.append_assoc, List.append_assoc] at hd
    exact List.append_cancel_left hd
  cases x with
  | nil => exact ⟨(List.append_nil a).symm, (List.cons.inj (hstart ' ')).2⟩
  | cons c x =>
      have hspace : ' ' = c := (List.cons.inj (hstart ' ')).1
      have hletter : 'x' = c := (List.cons.inj (hstart 'x')).1
      exact absurd (hspace.trans hletter.symm) (by decide)

/-- A text that holds the body is not the same around every body. -/
theorem not_forall_around {a b c : List Char} : ¬ ∀ body, a = b ++ body ++ c := by
  intro h
  have hlength := congrArg List.length ((h []).symm.trans (h [' ']))
  simp only [List.length_append, List.length_nil, List.length_singleton] at hlength
  omega

/-- **Frames that print the same around every body are the same.** -/
theorem eq_of_text_eq {f g : Frame} (h : ∀ body, f.text body = g.text body) : f = g := by
  obtain ⟨front, back⟩ := f
  obtain ⟨front', back'⟩ := g
  cases back with
  | none =>
      cases back' with
      | none =>
          have hfront : front = front' := h []
          rw [hfront]
      | some back' => exact absurd h not_forall_around
  | some back =>
      cases back' with
      | none => exact absurd (fun body => (h body).symm) not_forall_around
      | some back' =>
          have hequal : front = front' ∧ back = back' := by
            rcases Nat.le_total front.length front'.length with hlen | hlen
            · exact eq_of_forall_around hlen h
            · have hswap := eq_of_forall_around hlen fun body => (h body).symm
              exact ⟨hswap.1.symm, hswap.2.symm⟩
          rw [hequal.1, hequal.2]

end Frame

/-! ## The frame of a template -/

/-- Any mark but the body puts a character in front. -/
theorem exists_addChar_of_ne {m : Mark} (h : m ≠ bodyMark) : ∃ c, m.addTo = addChar c := by
  cases m with
  | plain c hc => exact ⟨c, rfl⟩
  | conversion c =>
      have hs : c ≠ 's' := fun hs => h (by rw [hs]; rfl)
      refine ⟨if c = 'n' then '\n' else c, ?_⟩
      funext segments
      rw [Mark.addTo, if_neg hs]

/-- **A mark in front of a frame makes a frame**, unless it places the body again. -/
theorem exists_frame_addTo {m : Mark} {f : Frame} (h : m = bodyMark → f.back = none) :
    ∃ g : Frame, m.addTo f.segments = g.segments ∧ (m ≠ bodyMark → g.back = f.back) := by
  by_cases hm : m = bodyMark
  · refine ⟨⟨[], some f.front⟩, ?_, fun hne => absurd hm hne⟩
    rw [hm, Frame.segments, h hm]
    rfl
  · obtain ⟨c, hc⟩ := exists_addChar_of_ne hm
    refine ⟨⟨c :: f.front, f.back⟩, ?_, fun _ => rfl⟩
    rw [hc, f.addChar_segments]

/-- **Faultless marks add up to a frame**, without a text behind the body if the body is not
among them. -/
theorem exists_frame {marks : List Mark} (h : Faultless marks) :
    ∃ f : Frame, marks.foldr Mark.addTo [] = f.segments ∧
      (bodyMark ∉ marks → f.back = none) := by
  induction marks with
  | nil => exact ⟨⟨[], none⟩, rfl, fun _ => rfl⟩
  | cons m marks ih =>
      obtain ⟨_, hmarks, honce⟩ := faultless_append.mp (List.singleton_append ▸ h)
      obtain ⟨f, hf, hback⟩ := ih hmarks
      have hfirst (hm : m = bodyMark) : f.back = none :=
        hback fun hbody => honce ⟨hm ▸ List.mem_singleton_self m, hbody⟩
      obtain ⟨g, hg, hkept⟩ := exists_frame_addTo hfirst
      refine ⟨g, by rw [List.foldr_cons, hf, hg], fun hnone => ?_⟩
      have hm : m ≠ bodyMark := fun hm => hnone (hm ▸ List.mem_cons_self)
      rw [hkept hm]
      exact hback (List.not_mem_of_not_mem_cons hnone)

/-- An accepted template is a frame. -/
theorem exists_frame_of_parse {template : String} {t : Template} (h : parse template = .ok t) :
    ∃ f : Frame, t = ⟨f.segments⟩ := by
  obtain ⟨⟨hmarks, _⟩, rfl⟩ := parse_eq_ok_iff.mp h
  obtain ⟨f, hf, _⟩ := exists_frame hmarks
  exact ⟨f, by rw [hf]⟩

/-- Segments without an empty literal, without two literals side by side and without a second
body. -/
structure Canonical (t : Template) : Prop where
  nonempty : .literal [] ∉ t.segments
  apart : t.segments.IsChain fun s s' => s = .body ∨ s' = .body
  once : t.segments.count .body ≤ 1

/-- The segments of a frame are canonical. -/
theorem Frame.canonical (f : Frame) : Canonical ⟨f.segments⟩ := by
  obtain ⟨front, back⟩ := f
  cases back with
  | none => cases front <;> constructor <;> simp [segments, literals]
  | some back =>
      cases front <;> cases back <;> constructor <;> simp [segments, literals]

/-- **Accepted templates are canonical.**  They are equal if and only if they print the same
around every body; and none holds an empty literal, two literals side by side or a second
body. -/
theorem eq_iff_apply_eq {a b : String} {s t : Template} (ha : parse a = .ok s)
    (hb : parse b = .ok t) :
    (s = t ↔ ∀ body, s.apply body = t.apply body) ∧ Canonical s ∧ Canonical t := by
  obtain ⟨f, rfl⟩ := exists_frame_of_parse ha
  obtain ⟨g, rfl⟩ := exists_frame_of_parse hb
  refine ⟨⟨fun hequal body => by rw [hequal], fun happly => ?_⟩, f.canonical, g.canonical⟩
  have htext (body : List Char) : f.text body = g.text body := by
    have hbody := happly (String.ofList body)
    rw [apply, apply, f.flatMap_segments, g.flatMap_segments, String.toList_ofList] at hbody
    exact String.ofList_inj.mp hbody
  rw [Frame.eq_of_text_eq htext]

/-- A line feed that is written in two ways, and one on the other side of the body. -/
theorem apply_eq_of_line_feed :
    ∃ s t u, parse "%n50%%: %s" = .ok s ∧ parse "\n50%%: %s" = .ok t ∧
      parse "%s%n50%%: " = .ok u ∧ (∀ body, s.apply body = t.apply body) ∧
      (¬ ∀ body, s.apply body = u.apply body) ∧ Canonical s := by
  have hs : parse "%n50%%: %s" = .ok ⟨[.literal "\n50%: ".toList, .body]⟩ := rfl
  have ht : parse "\n50%%: %s" = .ok ⟨[.literal "\n50%: ".toList, .body]⟩ := rfl
  have hu : parse "%s%n50%%: " = .ok ⟨[.body, .literal "\n50%: ".toList]⟩ := rfl
  obtain ⟨hsame, hcanonical, _⟩ := eq_iff_apply_eq hs ht
  obtain ⟨hother, _⟩ := eq_iff_apply_eq hs hu
  exact ⟨_, _, _, hs, ht, hu, hsame.mp rfl, fun h => absurd (hother.mpr h) (by decide),
    hcanonical⟩

end QueryAudit.Template
