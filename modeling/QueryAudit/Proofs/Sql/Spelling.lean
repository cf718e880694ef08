import QueryAudit.Proofs.Sql.Tokenize

/-!
# The texts that a token is read from

A token need not be written as it was read.  `Spelled` lists the texts that a token
other than a literal can have been read from: its own written form, and the few
spellings that reading does away with.  None of them is shorter than the written form,
so writing the tokens of a text back never lengthens it.
-/

namespace QueryAudit.Sql

open Text

/-- The token can have been read from the text. -/
inductive Spelled : Token → List Char → Prop
  | written (token : Token) : Spelled token token.written
  | blank (c : Char) (h : isBlank c = true) : Spelled .space [c]
  | lineBreak : Spelled .space ['\r', '\n']
  | notEqual : Spelled (.symbol ['<', '>']) ['!', '=']
  | word (name : List Char) :
      Spelled (.quotedWord '\x60' name) (['\x60'] ++ doubled '\x60' name ++ ['\x60'])
  | bytes (letter mark : Char) (content : List Char) (hletter : letter.toUpper = 'B')
      (hmark : mark ∈ ['\'', '"']) :
      Spelled (.bytes mark content) ([letter, mark] ++ doubled mark content ++ [mark])
  | raw (letter mark : Char) (content : List Char) (hletter : letter.toUpper = 'R')
      (hmark : mark ∈ ['\'', '"']) :
      Spelled (.raw [mark] content) ([letter, mark] ++ doubled mark content ++ [mark])
  | rawTriple (letter mark : Char) (content : List Char) (hletter : letter.toUpper = 'R')
      (hmark : mark ∈ ['\'', '"']) :
      Spelled (.raw [mark, mark, mark] content)
        ([letter, mark, mark, mark] ++ content ++ [mark, mark, mark])
  | unicode (letter : Char) (content a : List Char) (hletter : letter.toUpper = 'U')
      (h : content.length ≤ a.length) :
      Spelled (.unicode content) ([letter, '&', '\''] ++ a ++ ['\''])

/-- **Writing does not lengthen.**  No spelling is shorter than the written form. -/
theorem Spelled.length_le {token : Token} {a : List Char} (h : Spelled token a) :
    token.written.length ≤ a.length := by
  cases h with
  | written | blank | lineBreak | notEqual => simp [Token.written]
  | word name =>
      have hlen := length_le_length_doubled '\x60' name
      simp only [Token.written, List.length_append, List.length_singleton]
      omega
  | bytes letter mark content | raw letter mark content =>
      have hlen := length_le_length_doubled mark content
      simp only [Token.written, List.length_append, List.length_cons, List.length_nil]
      omega
  | rawTriple letter mark content => simp [Token.written]
  | unicode letter content a _ h =>
      simp only [Token.written, List.length_append, List.length_cons, List.length_nil]
      omega

/-! ## The readers -/

/-- A block comment holds the text up to its end as it stands. -/
theorem blockComment_append {depth : Nat} {s content rest : List Char}
    (h : blockComment depth s = some (content, rest)) :
    s = content ++ ['*', '/'] ++ rest := by
  fun_induction blockComment depth s generalizing content with
  | case1 => simp at h
  | case2 depth s ih =>
      obtain ⟨c, hc, rfl⟩ := Delimited.prepend_eq_some_iff.mp h
      rw [ih hc]
      rfl
  | case3 s =>
      simp only [Option.some.injEq, Prod.mk.injEq] at h
      obtain ⟨rfl, rfl⟩ := h
      rfl
  | case4 s depth ih =>
      obtain ⟨c, hc, rfl⟩ := Delimited.prepend_eq_some_iff.mp h
      rw [ih hc]
      rfl
  | case5 depth c s _ _ ih =>
      obtain ⟨d, hd, rfl⟩ := Delimited.prepend_eq_some_iff.mp h
      rw [ih hd]
      rfl

/-- An escape stands for one character and takes at least as many. -/
theorem unicodeString_append {s content rest : List Char}
    (h : unicodeString s = some (content, rest)) :
    ∃ a, content.length ≤ a.length ∧ s = a ++ ['\''] ++ rest := by
  fun_induction unicodeString s generalizing content with
  | case1 => simp at h
  | case2 s ih =>
      obtain ⟨c, hc, rfl⟩ := Delimited.prepend_eq_some_iff.mp h
      obtain ⟨a, hlen, rfl⟩ := ih hc
      exact ⟨'\'' :: '\'' :: a, by simp; omega, rfl⟩
  | case3 s _ =>
      simp only [Option.some.injEq, Prod.mk.injEq] at h
      obtain ⟨rfl, rfl⟩ := h
      exact ⟨[], Nat.le_refl 0, rfl⟩
  | case4 => simp at h
  | case5 s d t hread _ ih =>
      obtain ⟨e, he, rfl⟩ := Delimited.prepend_eq_some_iff.mp h
      obtain ⟨a, hlen, rfl⟩ := ih he
      obtain ⟨b, rfl, _⟩ := unicodeEscape_steady hread
      exact ⟨'\\' :: (b ++ a), by simp; omega, by simp⟩
  | case6 c s _ _ _ ih =>
      obtain ⟨d, hd, rfl⟩ := Delimited.prepend_eq_some_iff.mp h
      obtain ⟨a, hlen, rfl⟩ := ih hd
      exact ⟨c :: a, by simp; omega, rfl⟩

/-- A raw string is spelled by its prefix, its marks and its content. -/
theorem rawToken_spelled {letter mark : Char} {s rest : List Char} {token : Token}
    (hletter : letter.toUpper = 'R') (hmark : mark ∈ ['\'', '"'])
    (h : rawToken mark s = some (token, rest)) :
    ∃ a, Spelled token a ∧ [letter, mark] ++ s = a ++ rest := by
  cases s with
  | nil => simp [rawToken] at h
  | cons c s =>
      by_cases hc : c = mark
      · subst hc
        by_cases hd : s.head? = some c
        · obtain ⟨t, rfl⟩ := List.head?_eq_some_iff.mp hd
          rw [rawToken_triple] at h
          obtain ⟨⟨content, r⟩, hfence, hr⟩ := Option.map_eq_some_iff.mp h
          simp only [Prod.mk.injEq] at hr
          obtain ⟨rfl, rfl⟩ := hr
          obtain ⟨rfl, _⟩ := fencedBy_steady (by simp) hfence
          exact ⟨_, .rawTriple letter c content hletter hmark, by simp⟩
        · rw [rawToken_empty hd] at h
          simp only [Option.some.injEq, Prod.mk.injEq] at h
          obtain ⟨rfl, rfl⟩ := h
          exact ⟨_, .raw letter c [] hletter hmark, rfl⟩
      · rw [rawToken_plain hc] at h
        obtain ⟨⟨content, r⟩, hquoted, hr⟩ := Option.map_eq_some_iff.mp h
        simp only [Prod.mk.injEq] at hr
        obtain ⟨rfl, rfl⟩ := hr
        obtain ⟨hs, _⟩ := quotedBy_eq_some_iff.mp hquoted
        exact ⟨_, .raw letter mark content hletter hmark, by simp [hs]⟩

/-- A token behind a dollar sign is spelled as it is written. -/
theorem dollarToken_append {s rest : List Char} {token : Token}
    (h : dollarToken s = some (token, rest)) : '$' :: s = token.written ++ rest := by
  rw [dollarToken_eq] at h
  have hs : s.takeWhile isTagChar ++ s.dropWhile isTagChar = s :=
    List.takeWhile_append_dropWhile
  split at h
  next t ht =>
    obtain ⟨content, hc, rfl⟩ := withContent_eq_some h
    obtain ⟨rfl, _⟩ := fencedBy_steady (by simp) hc
    rw [ht] at hs
    generalize s.takeWhile isTagChar = tag at hs ⊢
    rw [← hs]
    simp [Token.written]
  next =>
    obtain ⟨rfl, rfl⟩ := parts_of_eq_some h
    simp [Token.written, hs]

/-- A word is spelled as it is written. -/
theorem wordFrom_append (start s : List Char) :
    start ++ s = (wordFrom start s).1.written ++ (wordFrom start s).2 := by
  simp [wordFrom, Token.written, List.takeWhile_append_dropWhile]

/-- A marked word is spelled as it is written. -/
theorem markedWord_append (mark s : List Char) :
    mark ++ s = (markedWord mark s).1.written ++ (markedWord mark s).2 := by
  cases s with
  | nil => rfl
  | cons c s =>
      rw [markedWord, ← wordFrom_append]
      simp

/-- What starts with a number sign is spelled as it is written. -/
theorem hashToken_append (s : List Char) :
    '#' :: s = (hashToken s).1.written ++ (hashToken s).2 := by
  unfold hashToken
  split
  case h_5 => exact markedWord_append ['#'] _
  all_goals rfl

/-- What starts with an at sign is spelled as it is written. -/
theorem atToken_append (s : List Char) :
    '@' :: s = (atToken s).1.written ++ (atToken s).2 := by
  unfold atToken
  split
  case h_4 => exact markedWord_append ['@', '@'] _
  case h_5 =>
    split
    · rfl
    · exact markedWord_append ['@'] _
  all_goals rfl

/-- A placeholder is spelled as it is written. -/
theorem questionToken_append (s : List Char) :
    '?' :: s = (questionToken s).1.written ++ (questionToken s).2 := by
  simp [questionToken, Token.written, List.takeWhile_append_dropWhile]

/-- An operator is spelled as it is written, but for one way to say "not equal". -/
theorem operator_spelled (c : Char) (s : List Char) :
    ∃ a, Spelled (operator c s).1 a ∧ c :: s = a ++ (operator c s).2 := by
  unfold operator
  split
  next op hop =>
    obtain ⟨hmem, ⟨t, ht⟩, _⟩ := find?_operators_eq_some_iff.mp hop
    have hlen := two_le_length_of_mem_operators hmem
    have hrest : s.drop (op.length - 1) = t := by
      have hdrop := congrArg (List.drop op.length) ht
      rw [List.drop_left] at hdrop
      obtain ⟨n, hn⟩ : ∃ n, op.length = n + 1 := ⟨op.length - 1, by omega⟩
      rw [hn, List.drop_succ_cons] at hdrop
      rw [hn, Nat.add_sub_cancel, ← hdrop]
    refine ⟨op, ?_, by rw [hrest, ht]⟩
    by_cases hne : op = ['!', '=']
    · subst hne
      exact .notEqual
    · rw [symbolOf, if_neg hne]
      exact .written (.symbol op)
  next => exact ⟨[c], .written (.symbol [c]), rfl⟩

/-- What starts with a mark is spelled as it is written, but for one operator. -/
theorem scanMark_spelled {c : Char} {s rest : List Char} {token : Token}
    (h : scanMark c s = some (token, rest)) :
    ∃ a, Spelled token a ∧ c :: s = a ++ rest := by
  unfold scanMark at h
  split at h
  case h_1 t =>
    obtain ⟨rfl, rfl⟩ := parts_of_eq_some h
    exact ⟨_, .written _, by simp [Token.written, lineComment_append]⟩
  case h_2 t =>
    obtain ⟨content, hc, rfl⟩ := withContent_eq_some h
    exact ⟨_, .written _, by simp [Token.written, blockComment_append hc]⟩
  case h_3 =>
    obtain ⟨rfl, rfl⟩ := parts_of_eq_some h
    exact ⟨_, .written _, hashToken_append s⟩
  case h_4 =>
    obtain ⟨rfl, rfl⟩ := parts_of_eq_some h
    exact ⟨_, .written _, atToken_append s⟩
  case h_5 =>
    obtain ⟨rfl, rfl⟩ := parts_of_eq_some h
    exact ⟨_, .written _, questionToken_append s⟩
  case h_6 => exact ⟨_, .written _, dollarToken_append h⟩
  case h_7 =>
    obtain ⟨rfl, rfl⟩ := parts_of_eq_some h
    exact operator_spelled c s

/-- A character that is not its own upper case is a small letter, 32 places behind its
capital. -/
theorem toUpper_cases (c : Char) :
    c.toUpper = c ∨ c.toUpper.isUpper = true ∧ c.toNat = c.toUpper.toNat + 32 := by
  by_cases hc : 'a'.val ≤ c.val ∧ c.val ≤ 'z'.val
  · have hlo : 97 ≤ c.val.toNat := hc.1
    have hhi : c.val.toNat ≤ 122 := hc.2
    have hupper : c.toUpper = ⟨c.val + ('A'.val - 'a'.val), _⟩ := dif_pos hc
    have hval : c.toUpper.val.toNat = c.val.toNat - 32 := by
      rw [hupper, UInt32.toNat_add,
        show ('A'.val - 'a'.val).toNat = 2 ^ 32 - 32 from rfl]
      omega
    have hA : 'A'.val ≤ c.toUpper.val := by
      change 65 ≤ c.toUpper.val.toNat
      omega
    have hZ : c.toUpper.val ≤ 'Z'.val := by
      change c.toUpper.val.toNat ≤ 90
      omega
    have hplace : c.val.toNat = c.toUpper.val.toNat + 32 := by omega
    exact .inr ⟨decide_eq_true ⟨hA, hZ⟩, hplace⟩
  · exact .inl (dif_neg hc)

/-- Only a letter has another upper case. -/
theorem eq_of_toUpper_eq {c q : Char} (h : c.toUpper = q) (hq : q.isUpper = false) : c = q := by
  rcases toUpper_cases c with hc | ⟨hupper, _⟩
  · rw [← h, hc]
  · rw [h, hq] at hupper
    cases hupper

/-- A quoted token that is no literal is spelled by its opening, its content and its
mark. -/
theorem Opening.read_spelled {c : Char} {s t rest : List Char} {o : Opening} {token : Token}
    (ho : opening? c s = some (o, t)) (h : o.read t = some (token, rest))
    (hliteral : token.isLiteral = false) : ∃ a, Spelled token a ∧ c :: s = a ++ rest := by
  unfold opening? at ho
  split at ho <;> simp only [Option.some.injEq, Prod.mk.injEq, reduceCtorEq] at ho
  all_goals obtain ⟨rfl, rfl⟩ := ho
  case h_2 hc =>
    obtain ⟨content, hread, rfl⟩ := withContent_eq_some h
    obtain ⟨hs, _⟩ := quotedBy_eq_some_iff.mp hread
    refine ⟨_, .word content, ?_⟩
    rw [eq_of_toUpper_eq hc (by decide)]
    simp [hs]
  case h_7 hc | h_8 hc =>
    obtain ⟨content, hread, rfl⟩ := withContent_eq_some h
    obtain ⟨hs, _⟩ := quotedBy_eq_some_iff.mp hread
    exact ⟨_, .bytes c _ content hc (by decide), by simp [hs]⟩
  case h_9 hc | h_10 hc => exact rawToken_spelled hc (by decide) h
  case h_11 hc =>
    obtain ⟨content, hread, rfl⟩ := withContent_eq_some h
    obtain ⟨a, hlen, rfl⟩ := unicodeString_append hread
    exact ⟨_, .unicode c content a hc hlen, by simp⟩
  -- the other openings start literals
  all_goals
    obtain ⟨content, _, rfl⟩ := withContent_eq_some h
    cases hliteral

/-- **Every token but a literal has one of its spellings.** -/
theorem scan_spelled {c : Char} {s rest : List Char} {token : Token}
    (h : scan c s = some (token, rest)) (hliteral : token.isLiteral = false) :
    ∃ a, Spelled token a ∧ c :: s = a ++ rest := by
  unfold scan at h
  split at h
  · next hblank =>
      obtain ⟨rfl, rfl⟩ := parts_of_eq_some h
      unfold afterBlank
      split
      · exact ⟨_, .lineBreak, rfl⟩
      · exact ⟨[c], .blank c hblank, rfl⟩
  split at h
  · next ho => exact Opening.read_spelled ho h hliteral
  split at h
  · obtain ⟨rfl, rfl⟩ := parts_of_eq_some h
    exact ⟨_, .written _, wordFrom_append [c] s⟩
  split at h
  · obtain ⟨rfl, rfl⟩ := parts_of_eq_some h
    unfold numeral at hliteral ⊢
    split at hliteral
    · split at hliteral
      · next hs => exact ⟨_, .written _, by simp [hs, Token.written]⟩
      · cases hliteral
    · cases hliteral
    · cases hliteral
  · exact scanMark_spelled h

end QueryAudit.Sql
