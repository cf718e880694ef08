import Mathlib.Data.List.Chain
import QueryAudit.Proofs.Text.Span
import QueryAudit.Text.Blank

/-!
# Collapsed texts

Collapsing a text leaves single spaces between its words.  `collapse_eq_self_iff`
says which texts it leaves alone, and `collapsed_collapse` that it always gives one.
-/

namespace QueryAudit.Text

/-- Blanks are single spaces between other characters. -/
structure Collapsed (s : List Char) : Prop where
  space : ∀ c ∈ s, isBlank c = true → c = ' '
  single : s.IsChain fun c d => ¬ (isBlank c = true ∧ isBlank d = true)
  first : ∀ c ∈ s.head?, isBlank c = false
  last : ∀ c ∈ s.getLast?, isBlank c = false

/-- Words are not empty and hold no blanks. -/
theorem of_mem_words {s w : List Char} (h : w ∈ words s) :
    w ≠ [] ∧ ∀ c ∈ w, isBlank c = false := by
  fun_induction words s with
  | case1 => cases h
  | case2 c s hc ih => exact ih h
  | case3 c s hc ih =>
      rcases List.mem_cons.mp h with rfl | h
      · refine ⟨by simp, ?_⟩
        intro d hd
        rcases List.mem_cons.mp hd with rfl | hd
        · simpa using hc
        · simpa using List.mem_takeWhile_imp hd
      · exact ih h

/-- Blanks in front change no words. -/
theorem words_cons_blank {c : Char} (h : isBlank c = true) (s : List Char) :
    words (c :: s) = words s := by
  rw [words, if_pos h]

/-- A word ends where a blank stands. -/
theorem words_append {w s : List Char} (hw : w ≠ []) (hall : ∀ c ∈ w, isBlank c = false)
    (hs : ∀ c ∈ s.head?, isBlank c = true) : words (w ++ s) = w :: words s := by
  obtain ⟨c, w, rfl⟩ := List.exists_cons_of_ne_nil hw
  have hc : ¬ isBlank c = true := by simp [hall c List.mem_cons_self]
  have hspan : ∀ d ∈ w, (!isBlank d) = true := by
    intro d hd
    simp [hall d (List.mem_cons_of_mem c hd)]
  have hstop : StopsAt (!isBlank ·) s := by
    intro d hd
    simp [hs d hd]
  rw [List.cons_append, words, if_neg hc, takeWhile_append_of_stopsAt hspan hstop,
    dropWhile_append_of_stopsAt hspan hstop]

/-- Trimming leaves a text without blanks alone. -/
theorem trim_of_forall {s : List Char} (h : ∀ c ∈ s, isBlank c = false) : trim s = s := by
  have hkeep {t : List Char} (ht : ∀ c ∈ t, isBlank c = false) : t.dropWhile isBlank = t := by
    cases t with
    | nil => rfl
    | cons c t => rw [List.dropWhile_cons_of_neg (by simp [ht c List.mem_cons_self])]
  rw [trim, hkeep h, trimEnd, hkeep (by simpa using h), List.reverse_reverse]

/-- Blanks in front of a text change no words. -/
theorem words_append_of_forall {b : List Char} (h : ∀ c ∈ b, isBlank c = true) (s : List Char) :
    words (b ++ s) = words s := by
  induction b with
  | nil => rfl
  | cons c b ih =>
      obtain ⟨hc, hb⟩ := List.forall_mem_cons.mp h
      rw [List.cons_append, words_cons_blank hc, ih hb]

/-- A blank sets the words in front of it and those behind it apart. -/
theorem words_append_cons_blank {c : Char} (hc : isBlank c = true) (s t : List Char) :
    words (s ++ c :: t) = words s ++ words t := by
  fun_induction words s with
  | case1 => exact words_cons_blank hc t
  | case2 d s hd ih => rw [List.cons_append, words_cons_blank hd, ih]
  | case3 d s hd ih =>
      have hsplit : d :: s ++ c :: t =
          (d :: s.takeWhile (!isBlank ·)) ++ (s.dropWhile (!isBlank ·) ++ c :: t) := by
        simp only [List.cons_append, ← List.append_assoc, List.takeWhile_append_dropWhile]
      have hword : d :: s.takeWhile (!isBlank ·) ∈ words (d :: s) := by simp [words, hd]
      have hstop : ∀ e ∈ (s.dropWhile (!isBlank ·) ++ c :: t).head?, isBlank e = true := by
        intro e he
        cases hr : s.dropWhile (!isBlank ·) with
        | nil =>
            rw [hr] at he
            obtain rfl : c = e := Option.some.inj he
            exact hc
        | cons f r =>
            rw [hr] at he
            obtain rfl : f = e := Option.some.inj he
            simpa using stopsAt_dropWhile (!isBlank ·) s f (by rw [hr]; rfl)
      rw [hsplit, words_append (by simp) (of_mem_words hword).2 hstop, ih, List.cons_append]

/-- Around the first word of a text stand blanks only, or its end. -/
theorem exists_of_words_eq_cons {s w : List Char} {ws : List (List Char)}
    (h : words s = w :: ws) :
    ∃ b r, s = b ++ w ++ r ∧ (∀ c ∈ b, isBlank c = true) ∧ ∀ c ∈ r.head?, isBlank c = true := by
  fun_induction words s with
  | case1 => cases h
  | case2 c s hc ih =>
      obtain ⟨b, r, rfl, hb, hr⟩ := ih h
      exact ⟨c :: b, r, rfl, List.forall_mem_cons.mpr ⟨hc, hb⟩, hr⟩
  | case3 c s hc =>
      obtain ⟨rfl, _⟩ := List.cons.inj h
      refine ⟨[], s.dropWhile (!isBlank ·), by simp [List.takeWhile_append_dropWhile], by simp, ?_⟩
      intro d hd
      simpa using stopsAt_dropWhile (!isBlank ·) s d hd

/-- A text without blanks is collapsed. -/
theorem collapsed_of_forall {w : List Char} (h : ∀ c ∈ w, isBlank c = false) :
    Collapsed w where
  space := by
    intro c hc hblank
    rw [h c hc] at hblank
    cases hblank
  single := by
    apply List.isChain_iff_getElem.mpr
    intro i hi
    simp [h _ (List.getElem_mem _)]
  first := fun c hc => h c (List.mem_of_head? hc)
  last := fun c hc => h c (List.mem_of_getLast? hc)

/-- A word, a space and a collapsed text are a collapsed text. -/
theorem Collapsed.append {w s : List Char} (hw : w ≠ []) (hall : ∀ c ∈ w, isBlank c = false)
    (hs : s ≠ []) (h : Collapsed s) : Collapsed (w ++ ' ' :: s) := by
  have hword := collapsed_of_forall hall
  refine ⟨?_, ?_, ?_, ?_⟩
  · intro c hc hblank
    rcases List.mem_append.mp hc with hc | hc
    · exact hword.space c hc hblank
    · rcases List.mem_cons.mp hc with rfl | hc
      · rfl
      · exact h.space c hc hblank
  · rw [List.isChain_append, List.isChain_cons]
    refine ⟨hword.single, ⟨?_, h.single⟩, ?_⟩
    · intro d hd
      simp [h.first d hd]
    · intro c hc d _
      simp [hword.last c hc]
  · intro c hc
    rw [List.head?_append_of_ne_nil w hw] at hc
    exact hword.first c hc
  · intro c hc
    rw [List.getLast?_append_of_ne_nil _ (by simp)] at hc
    obtain ⟨d, s, rfl⟩ := List.exists_cons_of_ne_nil hs
    exact h.last c (by simpa using hc)

/-- The words of a text, joined by spaces, are a collapsed text. -/
theorem collapsed_intercalate {ws : List (List Char)}
    (h : ∀ w ∈ ws, w ≠ [] ∧ ∀ c ∈ w, isBlank c = false) :
    Collapsed ([' '].intercalate ws) := by
  induction ws with
  | nil => exact collapsed_of_forall (by simp)
  | cons w ws ih =>
      obtain ⟨hw, hall⟩ := h w List.mem_cons_self
      have hrest := ih fun u hu => h u (List.mem_cons_of_mem w hu)
      cases ws with
      | nil => simpa using collapsed_of_forall hall
      | cons u us =>
          have hne : [' '].intercalate (u :: us) ≠ [] := by
            have hu := (h u (by simp)).1
            cases us <;> simp [hu]
          have happend := hrest.append hw hall hne
          simpa using happend

/-- **Collapsing gives a collapsed text.** -/
theorem collapsed_collapse (s : List Char) : Collapsed (collapse s) :=
  collapsed_intercalate fun _ hw => of_mem_words hw

/-- What follows a word of a collapsed text is a space and a collapsed text. -/
theorem Collapsed.of_append {w r : List Char} (h : Collapsed (w ++ r))
    (hr : ∀ c ∈ r.head?, isBlank c = true) :
    r = [] ∨ ∃ u, r = ' ' :: u ∧ u ≠ [] ∧ Collapsed u := by
  cases r with
  | nil => exact .inl rfl
  | cons d u =>
      have hd := hr d rfl
      obtain rfl := h.space d (by simp) hd
      have hchain := (List.isChain_append.mp h.single).2.1
      have hu : u ≠ [] := by
        intro heq
        subst heq
        have hlast := h.last ' ' (by simp)
        rw [hd] at hlast
        cases hlast
      refine .inr ⟨u, rfl, hu, ⟨?_, ?_, ?_, ?_⟩⟩
      · exact fun c hc => h.space c (by simp [hc])
      · exact hchain.tail
      · intro c hc
        have hpair := (List.isChain_cons.mp hchain).1 c hc
        simpa [hd] using hpair
      · intro c hc
        apply h.last c
        obtain ⟨e, u, rfl⟩ := List.exists_cons_of_ne_nil hu
        rw [List.getLast?_append_of_ne_nil _ (by simp)]
        simpa using hc

/-- A collapsed text is left alone. -/
theorem Collapsed.collapse_eq {s : List Char} (h : Collapsed s) : collapse s = s := by
  induction hn : s.length using Nat.strongRecOn generalizing s with
  | _ n ih =>
      cases s with
      | nil => simp [collapse, words]
      | cons c t =>
          have hc : isBlank c = false := h.first c rfl
          obtain ⟨w, r, hs, hw, hall, hr⟩ : ∃ w r, c :: t = w ++ r ∧ w ≠ [] ∧
              (∀ d ∈ w, isBlank d = false) ∧ ∀ d ∈ r.head?, isBlank d = true := by
            refine ⟨_, _, (List.takeWhile_append_dropWhile (p := (!isBlank ·))).symm, ?_, ?_, ?_⟩
            · simp [hc]
            · intro d hd
              simpa using List.mem_takeWhile_imp hd
            · intro d hd
              simpa using stopsAt_dropWhile (!isBlank ·) (c :: t) d hd
          rw [hs] at h ⊢
          rcases h.of_append hr with rfl | ⟨u, rfl, hu, hcollapsed⟩
          · rw [collapse, words_append hw hall hr]
            simp [words]
          · have hlen : u.length < n := by
              rw [← hn, hs]
              simp only [List.length_append, List.length_cons]
              omega
            have hrest : collapse u = u := ih u.length hlen hcollapsed rfl
            rw [collapse, words_append hw hall hr, words_cons_blank (by decide)]
            cases hwords : words u with
            | nil =>
                rw [collapse, hwords] at hrest
                exact absurd hrest.symm hu
            | cons v vs =>
                rw [collapse, hwords] at hrest
                simp [← hrest]

/-- **Collapsing leaves exactly the collapsed texts alone.** -/
theorem collapse_eq_self_iff {s : List Char} : collapse s = s ↔ Collapsed s :=
  ⟨fun h => h ▸ collapsed_collapse s, Collapsed.collapse_eq⟩

end QueryAudit.Text
