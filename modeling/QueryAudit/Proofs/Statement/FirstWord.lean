import QueryAudit.Proofs.Statement.Lead
import QueryAudit.Proofs.Statement.Name
import QueryAudit.Proofs.Text.Collapse

/-!
# The first word of a statement

A text that cannot be read as tokens is judged by its first word.  That finds a verb exactly
if the text *opens bare*: with blanks, opening parentheses in a row, and the verb with a blank
behind it (`kindOfFirstWord_eq_iff`).  A text that opens bare and can be read as tokens has
the same kind, so its kind is settled whatever follows, `classify_of_leading_verb`.

Of any other text the first word tells nothing.  When a string that is not closed follows
such a statement, its kind is lost: a comment, a blank behind a parenthesis, a symbol behind
the verb or a `WITH` is enough (`classify_of_open_string`).
-/

namespace QueryAudit.Statement

open Sql Text

/-- Blanks, opening parentheses and the verb of a kind in a row, and a blank or the end. -/
inductive OpensBare (kind : Kind) : List Char → Prop where
  | intro {w verb r : List Char} (k : Nat) (hw : ∀ c ∈ w, isBlank c = true)
      (hverb : sameIgnoringCase verb kind.name.toList = true)
      (hr : ∀ c ∈ r.head?, isBlank c = true) :
      OpensBare kind (w ++ (List.replicate k '(' ++ verb) ++ r)

/-! ## Verbs as words -/

/-- A character whose upper case is a capital letter is a letter. -/
theorem isAlpha_of_toUpper {c : Char} (h : c.toUpper.isUpper = true) : c.isAlpha = true := by
  rcases toUpper_cases c with hsame | ⟨_, hplace⟩
  · rw [hsame] at h
    exact Bool.or_eq_true_iff.mpr (.inl h)
  · have hcapital : 65 ≤ c.toUpper.toNat ∧ c.toUpper.toNat ≤ 90 := of_decide_eq_true h
    have hlow : 97 ≤ c.toNat := by omega
    have hhigh : c.toNat ≤ 122 := by omega
    exact Bool.or_eq_true_iff.mpr
      (.inr (Bool.and_eq_true_iff.mpr ⟨decide_eq_true hlow, decide_eq_true hhigh⟩))

/-- The name of a kind is made of letters, in any case of them. -/
theorem isAlpha_of_mem_verb {verb : List Char} {kind : Kind}
    (h : sameIgnoringCase verb kind.name.toList = true) : ∀ c ∈ verb, c.isAlpha = true := by
  intro c hc
  have hname : kind.name.toList.all (·.toUpper.isUpper) = true := by cases kind <;> decide
  rw [sameIgnoringCase, beq_iff_eq] at h
  have hmem : c.toUpper ∈ kind.name.toList.map Char.toUpper := h ▸ List.mem_map_of_mem hc
  obtain ⟨d, hd, hupper⟩ := List.mem_map.mp hmem
  exact isAlpha_of_toUpper (hupper ▸ List.all_eq_true.mp hname d hd)

/-- It is not empty. -/
theorem verb_ne_nil {verb : List Char} {kind : Kind}
    (h : sameIgnoringCase verb kind.name.toList = true) : verb ≠ [] := by
  rintro rfl
  cases kind <;> exact absurd h (by decide)

/-- It is a name. -/
theorem isOrdinaryName_verb {verb : List Char} {kind : Kind}
    (h : sameIgnoringCase verb kind.name.toList = true) : isOrdinaryName verb = true := by
  have halpha := isAlpha_of_mem_verb h
  cases verb with
  | nil => exact absurd rfl (verb_ne_nil h)
  | cons c verb =>
      rw [isOrdinaryName, Bool.and_eq_true, List.all_eq_true]
      refine ⟨halpha c List.mem_cons_self, fun d hd => ?_⟩
      simp [Char.isAlphanum, halpha d (List.mem_cons_of_mem c hd)]

/-- The parentheses and the verb hold no blank. -/
theorem isBlank_of_mem_bare {verb : List Char} {kind : Kind} (k : Nat)
    (h : sameIgnoringCase verb kind.name.toList = true) :
    ∀ c ∈ List.replicate k '(' ++ verb, isBlank c = false := by
  intro c hc
  rcases List.mem_append.mp hc with hc | hc
  · obtain rfl := List.eq_of_mem_replicate hc
    decide
  · exact (starts_of_isAlpha (isAlpha_of_mem_verb h c hc)).1

/-- Without the parentheses in front the verb is left. -/
theorem dropWhile_bare {verb : List Char} {kind : Kind} (k : Nat)
    (h : sameIgnoringCase verb kind.name.toList = true) :
    (List.replicate k '(' ++ verb).dropWhile (· == '(') = verb := by
  rw [List.dropWhile_append_of_pos (by simp)]
  cases verb with
  | nil => rfl
  | cons c verb =>
      have hc := isAlpha_of_mem_verb h c List.mem_cons_self
      refine List.dropWhile_cons_of_neg fun hparen => ?_
      obtain rfl : c = '(' := by simpa using hparen
      cases hc

/-- A text without blanks names a kind exactly if it is the name of it, in any case of
letters. -/
theorem ofName?_eq_some_iff {name : List Char} {kind : Kind}
    (h : ∀ c ∈ name, isBlank c = false) :
    Kind.ofName? name = some kind ↔ sameIgnoringCase name kind.name.toList = true := by
  rw [Kind.ofName?, trim_of_forall h]
  constructor
  · intro hfind
    have hsame := List.find?_some hfind
    rw [sameIgnoringCase, beq_iff_eq] at hsame ⊢
    exact hsame.symm
  · intro hsame
    -- no two kinds have names that differ in their case only
    have hunique : ∀ kind ∈ Kind.all, Kind.all.find? (fun named =>
        named.name.toList.map Char.toUpper == kind.name.toList.map Char.toUpper) = some kind := by
      decide
    rw [sameIgnoringCase, beq_iff_eq] at hsame
    simp only [sameIgnoringCase, hsame]
    exact hunique kind (Kind.mem_all kind)

/-! ## By the first word -/

/-- **The first word tells the kind of exactly the texts that open bare.** -/
theorem kindOfFirstWord_eq_iff {s : List Char} {kind : Kind} (hkind : kind ≠ .other) :
    kindOfFirstWord s = kind ↔ OpensBare kind s := by
  constructor
  · intro h
    unfold kindOfFirstWord at h
    split at h
    · exact absurd h.symm hkind
    · next word rest hwords =>
        obtain ⟨b, r, rfl, hb, hr⟩ := exists_of_words_eq_cons hwords
        have hword := (of_mem_words (hwords ▸ List.mem_cons_self)).2
        have hname : ∀ c ∈ word.dropWhile (· == '('), isBlank c = false :=
          fun c hc => hword c ((List.dropWhile_suffix _).subset hc)
        have hsome : Kind.ofName? (word.dropWhile (· == '(')) = some kind := by
          cases hof : Kind.ofName? (word.dropWhile (· == '(')) with
          | none =>
              rw [hof] at h
              exact absurd h.symm hkind
          | some named =>
              rw [hof] at h
              exact congrArg some h
        have hparens : word.takeWhile (· == '(') =
            List.replicate (word.takeWhile (· == '(')).length '(' :=
          List.eq_replicate_length.mpr fun c hc => by simpa using List.mem_takeWhile_imp hc
        rw [← List.takeWhile_append_dropWhile (p := (· == '(')) (l := word), hparens]
        exact .intro _ hb ((ofName?_eq_some_iff hname).mp hsome) hr
  · rintro ⟨k, hw, hverb, hr⟩
    rename_i w verb r
    have hname : ∀ c ∈ verb, isBlank c = false :=
      fun c hc => isBlank_of_mem_bare k hverb c (List.mem_append_right _ hc)
    have hne : List.replicate k '(' ++ verb ≠ [] := by simp [verb_ne_nil hverb]
    have hwords : words (w ++ (List.replicate k '(' ++ verb) ++ r) =
        (List.replicate k '(' ++ verb) :: words r := by
      rw [List.append_assoc, words_append_of_forall hw,
        words_append hne (isBlank_of_mem_bare k hverb) hr]
    simp only [kindOfFirstWord, hwords]
    rw [dropWhile_bare k hverb, (ofName?_eq_some_iff hname).mpr hverb, Option.getD_some]

/-! ## By the tokens -/

/-- Blanks are layout. -/
theorem layout_of_forall {w : List Char} (h : ∀ c ∈ w, isBlank c = true) : Layout w := by
  induction w with
  | nil => exact .nil
  | cons c w ih =>
      obtain ⟨hc, hw⟩ := List.forall_mem_cons.mp h
      exact .blank hc (ih hw)

/-- Opening parentheses may stand behind layout. -/
theorem lead_parens {w : List Char} (hw : Layout w) (k : Nat) :
    Lead k (w ++ List.replicate k '(') := by
  induction k generalizing w with
  | zero => simpa using Lead.layout hw
  | succ k ih => exact .paren hw (ih .nil)

/-- **The tokens of a text that opens bare tell the same kind.** -/
theorem OpensBare.kindOfTokens_eq {s : List Char} {kind : Kind} (h : OpensBare kind s)
    (hkind : kind ≠ .other) {ts : List Token} (hts : tokenize s = some ts) :
    kindOfTokens 0 ts = kind := by
  obtain ⟨k, hw, hverb, hr⟩ := h
  rename_i w verb r
  have hstop : StopsAt isWordPart r := fun c hc => isWordPart_of_isBlank (hr c hc)
  have hquote : ∀ c ∈ r.head?, c ∉ ['\'', '"', '&'] := by
    intro c hc hmem
    have hblank := hr c hc
    simp only [List.mem_cons, List.not_mem_nil, or_false] at hmem
    rcases hmem with rfl | rfl | rfl <;> exact absurd hblank (by decide)
  have hread := (lead_parens (layout_of_forall hw) k).map_kindOfTokens 0 (verb ++ r)
  rw [tokenize_name (isOrdinaryName_verb hverb) hstop hquote] at hread
  simp only [List.append_assoc] at hts hread
  rw [hts, Option.map_map, Option.map_some] at hread
  obtain ⟨us, _, hus⟩ := Option.map_eq_some_iff.mp hread.symm
  exact hus.symm.trans (kindOfTokens_verb (verbKind?_of_sameIgnoringCase hkind hverb) _ us)

/-- The kind of a text that opens bare is that of its verb. -/
theorem OpensBare.kindOfChars_eq {s : List Char} {kind : Kind} (h : OpensBare kind s)
    (hkind : kind ≠ .other) : kindOfChars s = kind := by
  unfold kindOfChars
  split
  · next hts => exact h.kindOfTokens_eq hkind hts
  · exact (kindOfFirstWord_eq_iff hkind).mpr h

/-- **A verb with a blank behind it settles the kind**, whatever follows.  Only blanks and
opening parentheses stand in front of it. -/
theorem classify_of_leading_verb {w verb r : String} {x : Char} {kind : Kind} (k : Nat)
    (hw : ∀ c ∈ w.toList, isBlank c = true) (hkind : kind ≠ .other)
    (hverb : sameIgnoringCase verb.toList kind.name.toList = true) (hx : isBlank x = true) :
    classify (w ++ String.ofList (List.replicate k '(') ++ verb ++ String.singleton x ++ r) =
      kind := by
  have hblank : ∀ c ∈ (x :: r.toList).head?, isBlank c = true := by
    intro c hc
    obtain rfl : x = c := Option.some.inj hc
    exact hx
  have htext : (w ++ String.ofList (List.replicate k '(') ++ verb ++ String.singleton x ++
      r).toList = w.toList ++ (List.replicate k '(' ++ verb.toList) ++ x :: r.toList := by
    simp
  rw [classify, htext]
  exact (OpensBare.intro k hw hverb hblank).kindOfChars_eq hkind

/-- Blanks of several forms, and a string and a comment that are not closed. -/
theorem classify_of_delete_open :
    classify ("\u3000\r\n" ++ String.ofList (List.replicate 2 '(') ++ "DeLeTe" ++
      String.singleton '\u0085' ++ "FROM a /* 'b") = .delete := by
  have hw : ∀ c ∈ "\u3000\r\n".toList, isBlank c = true := List.all_eq_true.mp (by decide)
  exact classify_of_leading_verb 2 hw (by decide) (by decide) (by decide)

/-! ## A string that is not closed -/

/-- A string that is not closed cannot be read. -/
theorem tokenize_open_string {u : List Char} (hu : '\'' ∉ u) : tokenize ('\'' :: u) = none := by
  have hread : quotedBy '\'' u = none := by
    rw [Option.eq_none_iff_forall_ne_some]
    rintro ⟨content, rest⟩ h
    obtain ⟨rfl, _⟩ := quotedBy_eq_some_iff.mp h
    simp at hu
  have hscan : scan '\'' u = withContent (.literal .plain) (quotedBy '\'' u) := rfl
  rw [hread] at hscan
  exact tokenize_cons_none hscan

/-- It is not the first word that names a kind. -/
theorem kindOfFirstWord_open_string (s u : List Char) :
    kindOfFirstWord (s ++ ' ' :: '\'' :: u) = kindOfFirstWord s := by
  have hstring : words ('\'' :: u) =
      ('\'' :: u.takeWhile (!isBlank ·)) :: words (u.dropWhile (!isBlank ·)) := by
    rw [words, if_neg (by decide)]
  have hword := (of_mem_words (hstring ▸ List.mem_cons_self)).2
  have hnone : Kind.ofName? ('\'' :: u.takeWhile (!isBlank ·)) = none := by
    rw [Option.eq_none_iff_forall_ne_some]
    intro kind hkind
    exact absurd (isAlpha_of_mem_verb ((ofName?_eq_some_iff hword).mp hkind) '\'' (by simp))
      (by decide)
  rw [kindOfFirstWord, kindOfFirstWord, words_append_cons_blank (by decide), hstring]
  cases words s with
  | nil => exact congrArg (Option.getD · .other) hnone
  | cons => rfl

/-- Behind a string that is not closed the first word of the text decides. -/
theorem kindOfChars_open_string {s u : List Char} {ts : List Token} (hs : tokenize s = some ts)
    (hend : ¬ EndsInComment ts) (hu : '\'' ∉ u) :
    kindOfChars (s ++ ' ' :: '\'' :: u) = kindOfFirstWord s := by
  rw [kindOfChars, tokenize_append_space hs hend, tokenize_open_string hu]
  exact kindOfFirstWord_open_string s u

/-- **A string that is not closed takes the kind away from all statements but those that open
bare**: these keep it, and all others become none of the four. -/
theorem classify_of_open_string {t u : String} {ts : List Token}
    (ht : tokenize t.toList = some ts) (hend : ¬ EndsInComment ts) (hu : '\'' ∉ u.toList) :
    (∀ kind, kind ≠ .other → (classify (t ++ " '" ++ u) = kind ↔ OpensBare kind t.toList)) ∧
      (classify (t ++ " '" ++ u) = classify t ↔
        classify t = .other ∨ ∃ kind, kind ≠ .other ∧ OpensBare kind t.toList) := by
  have htext : (t ++ " '" ++ u).toList = t.toList ++ ' ' :: '\'' :: u.toList := by simp
  have hopen : classify (t ++ " '" ++ u) = kindOfFirstWord t.toList := by
    rw [classify, htext, kindOfChars_open_string ht hend hu]
  rw [hopen]
  refine ⟨fun kind hkind => kindOfFirstWord_eq_iff hkind, ?_, ?_⟩
  · intro hsame
    by_cases hother : classify t = .other
    · exact .inl hother
    · exact .inr ⟨classify t, hother, (kindOfFirstWord_eq_iff hother).mp hsame⟩
  · rintro (hother | ⟨kind, hkind, hbare⟩)
    · by_contra hne
      rw [hother] at hne
      -- the first word would name a kind, and the tokens tell the same
      have hbare := (kindOfFirstWord_eq_iff hne).mp rfl
      exact hne ((hbare.kindOfChars_eq hne).symm.trans hother)
    · rw [(kindOfFirstWord_eq_iff hkind).mpr hbare]
      exact (hbare.kindOfChars_eq hkind).symm

/-- A comment in front of the verb is enough to lose it. -/
theorem classify_of_open_string_ne :
    ∃ ts, tokenize "/* all */ SELECT a FROM b WHERE c =".toList = some ts ∧
      ¬ EndsInComment ts ∧ '\'' ∉ "d".toList ∧
      classify ("/* all */ SELECT a FROM b WHERE c =" ++ " '" ++ "d") ≠
        classify "/* all */ SELECT a FROM b WHERE c =" := by
  exact ⟨(tokenize "/* all */ SELECT a FROM b WHERE c =".toList).getD [], by decide +kernel,
    by decide +kernel, by decide, by decide +kernel⟩

/-- Two parentheses in a row do not hide the verb. -/
theorem classify_of_open_string_in_parens :
    ∃ ts, tokenize "\t((select a FROM b WHERE c =".toList = some ts ∧ ¬ EndsInComment ts ∧
      OpensBare .select "\t((select a FROM b WHERE c =".toList ∧
      classify ("\t((select a FROM b WHERE c =" ++ " '" ++ "d)") =
        classify "\t((select a FROM b WHERE c =" := by
  have htokens : tokenize "\t((select a FROM b WHERE c =".toList =
      some ((tokenize "\t((select a FROM b WHERE c =".toList).getD []) := by
    decide +kernel
  have hend : ¬ EndsInComment ((tokenize "\t((select a FROM b WHERE c =".toList).getD []) := by
    decide +kernel
  have hbare : OpensBare .select "\t((select a FROM b WHERE c =".toList :=
    @OpensBare.intro .select ['\t'] "select".toList " a FROM b WHERE c =".toList 2
      (List.all_eq_true.mp (by decide)) (by decide) (by simp; decide)
  obtain ⟨_, hsame⟩ := @classify_of_open_string _ "d)" _ htokens hend (by decide)
  exact ⟨_, htokens, hend, hbare, hsame.mpr (.inr ⟨.select, by decide, hbare⟩)⟩

end QueryAudit.Statement
