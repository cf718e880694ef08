import QueryAudit.Proofs.Sql.Escape
import QueryAudit.Proofs.Sql.Symbol
import QueryAudit.Sql.Tokenize

/-!
# What a token owes to the text behind it

`scan` takes the longest token that a text starts with, so a token may change with
the text behind it.  `scan_steady` says how little of that text counts: a token is
read the same in front of two texts that are `Alike`.
-/

namespace QueryAudit.Sql

open Text

/-- A token made of a content is read the same where the content is. -/
theorem Steady.withContent {read : List Char → Delimited} {s content rest : List Char}
    {fits : List Char → Prop} (h : Steady read s content rest fits)
    (make : List Char → Token) :
    Steady (fun t => Sql.withContent make (read t)) s (make content) rest fits := by
  obtain ⟨a, ha, hread⟩ := h
  refine ⟨a, ha, ?_⟩
  intro v hv
  simp [Sql.withContent, hread v hv]

/-! ## Raw strings -/

/-- Two marks in front of any other character are the empty raw string. -/
theorem rawToken_empty {mark : Char} {v : List Char} (h : v.head? ≠ some mark) :
    rawToken mark (mark :: v) = some (.raw [mark] [], v) := by
  cases v with
  | nil => simp [rawToken]
  | cons d v =>
      have hd : d ≠ mark := by simpa using h
      simp [rawToken, hd]

/-- A single mark opens an ordinary string. -/
theorem rawToken_plain {mark c : Char} (h : c ≠ mark) (s : List Char) :
    rawToken mark (c :: s) =
      (quotedBy mark (c :: s)).map fun (content, rest) => (.raw [mark] content, rest) := by
  cases s with
  | nil => simp [rawToken, quotedBy, h]
  | cons d s => simp [rawToken, h]

/-- Three marks open a string that the next three close. -/
theorem rawToken_triple (mark : Char) (s : List Char) :
    rawToken mark (mark :: mark :: s) =
      (fencedBy [mark, mark, mark] s).map fun (content, rest) =>
        (.raw [mark, mark, mark] content, rest) := by
  simp [rawToken]

/-- A raw string is read the same in front of every text that does not go on with its
mark. -/
theorem rawToken_steady {mark : Char} {s rest : List Char} {token : Token}
    (h : rawToken mark s = some (token, rest)) :
    Steady (rawToken mark) s token rest (KeepsOff mark rest) := by
  cases s with
  | nil => simp [rawToken] at h
  | cons c s =>
      by_cases hc : c = mark
      · subst hc
        by_cases hd : s.head? = some c
        · obtain ⟨t, rfl⟩ := List.head?_eq_some_iff.mp hd
          rw [rawToken_triple] at h
          obtain ⟨⟨content, r⟩, hfence, hr⟩ := Option.map_eq_some_iff.mp h
          simp only [Prod.mk.injEq] at hr
          obtain ⟨rfl, rfl⟩ := hr
          obtain ⟨rfl, hread⟩ := fencedBy_steady (by simp) hfence
          refine ⟨c :: c :: (content ++ [c, c, c]), by simp, ?_⟩
          intro v _
          rw [List.cons_append, List.cons_append, rawToken_triple, List.append_assoc, hread v]
          rfl
        · rw [rawToken_empty hd] at h
          simp only [Option.some.injEq, Prod.mk.injEq] at h
          obtain ⟨rfl, rfl⟩ := h
          exact ⟨[c], rfl, fun v hv => rawToken_empty (hv hd)⟩
      · rw [rawToken_plain hc] at h
        obtain ⟨⟨content, r⟩, hquoted, hr⟩ := Option.map_eq_some_iff.mp h
        simp only [Prod.mk.injEq] at hr
        obtain ⟨rfl, rfl⟩ := hr
        obtain ⟨a, ha, hread⟩ := quotedBy_steady hquoted
        cases a with
        | nil =>
            -- the closing mark was read
            obtain ⟨hs, _⟩ := quotedBy_eq_some_iff.mp hquoted
            have hlen := congrArg List.length (ha.symm.trans hs)
            simp only [List.nil_append, List.length_append, List.length_cons] at hlen
            omega
        | cons d a =>
            obtain ⟨rfl, rfl⟩ := List.cons.inj ha
            refine ⟨c :: a, rfl, ?_⟩
            intro v hv
            rw [List.cons_append, rawToken_plain hc, ← List.cons_append, hread v hv]
            rfl

/-! ## Quoted tokens -/

/-- An opening is told by its own characters. -/
theorem opening?_steady {c : Char} {s rest : List Char} {o : Opening}
    (h : opening? c s = some (o, rest)) :
    Steady (opening? c) s o rest fun _ => True := by
  unfold opening? at h
  split at h <;> simp only [Option.some.injEq, Prod.mk.injEq, reduceCtorEq] at h
  all_goals obtain ⟨rfl, rfl⟩ := h
  case h_1 hc | h_2 hc | h_3 hc => exact ⟨[], rfl, fun v _ => by simp [opening?, hc]⟩
  case h_4 hc | h_5 hc | h_6 hc | h_7 hc | h_9 hc =>
    exact ⟨['\''], rfl, fun v _ => by simp [opening?, hc]⟩
  case h_8 hc | h_10 hc => exact ⟨['"'], rfl, fun v _ => by simp [opening?, hc]⟩
  case h_11 hc => exact ⟨['&', '\''], rfl, fun v _ => by simp [opening?, hc]⟩

/-- What opens nothing in front of one text opens nothing in front of another that has
no quote where the first has none. -/
theorem opening?_eq_none_of_follows {c : Char} {s t : List Char} (h : opening? c s = none)
    (hst : Follows s t) (hquote : ['&', '\''] <+: t → ['&', '\''] <+: s) :
    opening? c t = none := by
  have hhead {q : Char} (hq : q ∉ [' ', ';', '?', '<', 'B', 'R', 'U']) (ht : t.head? = some q) :
      ∃ s', s = q :: s' := by
    by_contra hno
    exact hst.head?_ne hq (fun hs => hno (List.head?_eq_some_iff.mp hs)) ht
  cases ht : opening? c t with
  | none => rfl
  | some x =>
      exfalso
      unfold opening? at ht
      split at ht
      case h_1 hc | h_2 hc | h_3 hc => simp [opening?, hc] at h
      case h_4 hc | h_5 hc | h_6 hc | h_7 hc | h_9 hc =>
        obtain ⟨s', rfl⟩ := hhead (q := '\'') (by decide) rfl
        simp [opening?, hc] at h
      case h_8 hc | h_10 hc =>
        obtain ⟨s', rfl⟩ := hhead (q := '"') (by decide) rfl
        simp [opening?, hc] at h
      case h_11 hc =>
        obtain ⟨s', rfl⟩ := hquote ⟨_, rfl⟩
        simp [opening?, hc] at h
      case h_12 => cases ht

/-- The mark that closes a quoted token. -/
def Opening.mark : Opening → Char
  | .word mark | .bytes mark | .raw mark => mark
  | .literal _ | .unicode => '\''

/-- A quoted token is read the same in front of every text that does not go on with its
mark. -/
theorem Opening.read_steady {o : Opening} {s rest : List Char} {token : Token}
    (h : o.read s = some (token, rest)) :
    Steady o.read s token rest (KeepsOff o.mark rest) := by
  cases o with
  | word mark | bytes mark =>
      obtain ⟨content, hc, rfl⟩ := withContent_eq_some h
      exact (quotedBy_steady hc).withContent _
  | literal kind =>
      cases kind with
      | plain | national =>
          obtain ⟨content, hc, rfl⟩ := withContent_eq_some h
          exact (quotedBy_steady hc).withContent _
      | escaped =>
          obtain ⟨content, hc, rfl⟩ := withContent_eq_some h
          obtain ⟨a, _, ha, hread⟩ := escapedString_steady hc
          exact Steady.withContent ⟨a, ha, hread⟩ _
      | hex =>
          obtain ⟨content, hc, rfl⟩ := withContent_eq_some h
          exact (hexString_steady hc).withContent _
  | raw mark => exact rawToken_steady h
  | unicode =>
      obtain ⟨content, hc, rfl⟩ := withContent_eq_some h
      exact (unicodeString_steady hc).withContent _

/-- The mark that closes a quoted token is a quote. -/
theorem opening?_mark {c : Char} {s rest : List Char} {o : Opening}
    (h : opening? c s = some (o, rest)) : o.mark ∈ ['\'', '"', '\x60'] := by
  unfold opening? at h
  split at h <;> simp only [Option.some.injEq, Prod.mk.injEq, reduceCtorEq] at h
  all_goals
    obtain ⟨rfl, rfl⟩ := h
    simp [Opening.mark]

/-! ## Marks and blanks -/

/-- What stands behind the tag decides. -/
theorem dollarToken_eq (s : List Char) :
    dollarToken s = match s.dropWhile isTagChar with
      | '$' :: t =>
        withContent (.dollar (['$'] ++ s.takeWhile isTagChar ++ ['$']))
          (fencedBy (['$'] ++ s.takeWhile isTagChar ++ ['$']) t)
      | rest => some (.placeholder ('$' :: s.takeWhile isTagChar), rest) := rfl

/-- A tag without a second dollar sign is a placeholder. -/
theorem dollarToken_tag {tag v : List Char} (htag : ∀ c ∈ tag, isTagChar c = true)
    (hstop : StopsAt isTagChar v) (hdollar : v.head? ≠ some '$') :
    dollarToken (tag ++ v) = some (.placeholder ('$' :: tag), v) := by
  rw [dollarToken_eq, takeWhile_append_of_stopsAt htag hstop,
    dropWhile_append_of_stopsAt htag hstop]
  cases v with
  | nil => rfl
  | cons c v =>
      have hc : c ≠ '$' := by simpa using hdollar
      split
      · next ht => exact absurd (List.cons.inj ht).1 hc
      · rfl

/-- A tag between dollar signs opens a text that it closes. -/
theorem dollarToken_fence {tag : List Char} (htag : ∀ c ∈ tag, isTagChar c = true)
    (t : List Char) :
    dollarToken (tag ++ '$' :: t) =
      withContent (.dollar (['$'] ++ tag ++ ['$'])) (fencedBy (['$'] ++ tag ++ ['$']) t) := by
  have hstop : StopsAt isTagChar ('$' :: t) := stopsAt_cons.mpr (by decide)
  rw [dollarToken_eq, takeWhile_append_of_stopsAt htag hstop,
    dropWhile_append_of_stopsAt htag hstop]
  rfl

/-- A placeholder ends where a tag does, and a fenced text behind its fence. -/
theorem dollarToken_steady {s rest : List Char} {token : Token}
    (h : dollarToken s = some (token, rest)) :
    Steady dollarToken s token rest (Follows rest) := by
  have htag : ∀ c ∈ s.takeWhile isTagChar, isTagChar c = true :=
    fun c hc => List.mem_takeWhile_imp hc
  have hstop := stopsAt_dropWhile isTagChar s
  obtain ⟨tag, r, rfl, htake, hdrop⟩ : ∃ tag r, s = tag ++ r ∧ s.takeWhile isTagChar = tag ∧
      s.dropWhile isTagChar = r :=
    ⟨_, _, List.takeWhile_append_dropWhile.symm, rfl, rfl⟩
  rw [htake] at htag
  rw [hdrop] at hstop
  by_cases hdollar : r.head? = some '$'
  · obtain ⟨t, rfl⟩ := List.head?_eq_some_iff.mp hdollar
    rw [dollarToken_fence htag] at h
    obtain ⟨content, hc, rfl⟩ := withContent_eq_some h
    obtain ⟨rfl, hread⟩ := fencedBy_steady (by simp) hc
    refine ⟨tag ++ '$' :: (content ++ (['$'] ++ tag ++ ['$'])), by simp, ?_⟩
    intro v _
    have hfront : tag ++ '$' :: (content ++ (['$'] ++ tag ++ ['$'])) ++ v =
        tag ++ '$' :: (content ++ ((['$'] ++ tag ++ ['$']) ++ v)) := by simp
    rw [hfront, dollarToken_fence htag, hread v]
    rfl
  · rw [dollarToken_tag htag hstop hdollar] at h
    simp only [Option.some.injEq, Prod.mk.injEq] at h
    obtain ⟨rfl, rfl⟩ := h
    refine ⟨tag, rfl, ?_⟩
    intro v hv
    exact dollarToken_tag htag (hv _ isClass_isTagChar hstop) (hv.head?_ne (by decide) hdollar)

/-- A carriage return takes a line feed along, if one stands there. -/
theorem afterBlank_of_head?_ne {c : Char} {s : List Char} (h : s.head? ≠ some '\n') :
    afterBlank c s = s := by
  unfold afterBlank
  split
  · exact absurd rfl h
  · rfl

/-- A blank is read the same in front of every text that does not start with a new line
feed. -/
theorem afterBlank_steady (c : Char) (s : List Char) :
    Steady (fun t => some (Token.space, afterBlank c t)) s .space (afterBlank c s)
      (Follows (afterBlank c s)) := by
  by_cases hcr : c = '\r'
  · subst hcr
    by_cases hs : s.head? = some '\n'
    · obtain ⟨t, rfl⟩ := List.head?_eq_some_iff.mp hs
      exact ⟨['\n'], rfl, fun v _ => rfl⟩
    · rw [afterBlank_of_head?_ne hs]
      refine ⟨[], rfl, ?_⟩
      intro v hv
      simp only [List.nil_append, afterBlank_of_head?_ne (hv.head?_ne (by decide) hs)]
  · have hsame (t : List Char) : afterBlank c t = t := by
      unfold afterBlank
      split
      · exact absurd rfl hcr
      · rfl
    rw [hsame]
    exact ⟨[], rfl, fun v _ => by simp only [List.nil_append, hsame]⟩

/-! ## Comments and operators -/

/-- A minus sign without a second one, and any other character that starts no comment,
placeholder or marked word, starts an operator. -/
theorem scanMark_operator {c : Char} {s : List Char} (hline : c = '-' → s.head? ≠ some '-')
    (hblock : c = '/' → s.head? ≠ some '*') (hc : c ∉ ['#', '@', '?', '$']) :
    scanMark c s = some (operator c s) := by
  simp only [List.mem_cons, List.not_mem_nil, or_false, not_or] at hc
  obtain ⟨h1, h2, h3, h4⟩ := hc
  unfold scanMark
  split
  · exact absurd rfl (hline rfl)
  · exact absurd rfl (hblock rfl)
  · exact absurd rfl h1
  · exact absurd rfl h2
  · exact absurd rfl h3
  · exact absurd rfl h4
  · rfl

/-! ## Tokens -/

/-- The marks that are symbols only where no word can start with them. -/
def loneMarks : List Token := [.symbol ['#'], .symbol ['@'], .symbol ['@', '@']]

/-- **What a token asks of the text behind it.**  In front of a text `v` that is alike
to the text `r` behind a token, the token ends where it ended.  The character behind it
must not belong to a class that did not go on before; the other fields are the cases in
which more than that class counts, or less. -/
structure Alike (token : Token) (r v : List Char) : Prop where
  follows : Follows r v
  quote : ['&', '\''] <+: v → ['&', '\''] <+: r
  exponent : token.isNumber = true → (exponent r).1 = [] → (Sql.exponent v).1 = []
  less : token = .symbol ['<'] → KeepsOff '<' r v
  lone : token ∈ loneMarks → KeepsLone r v
  comment : ∀ text, token = .lineComment text → r = [] → v = []

/-- The parts of a token that is certain to be read. -/
theorem parts_of_eq_some {p : Token × List Char} {token : Token} {rest : List Char}
    (h : some p = some (token, rest)) : token = p.1 ∧ rest = p.2 := by
  cases h
  exact ⟨rfl, rfl⟩

/-- **A mark reads the same token in front of alike texts.** -/
theorem scanMark_steady {c : Char} {s rest : List Char} {token : Token}
    (h : scanMark c s = some (token, rest)) :
    Steady (scanMark c) s token rest (Alike token rest) := by
  by_cases hline : c = '-' ∧ s.head? = some '-'
  · obtain ⟨rfl, hs⟩ := hline
    obtain ⟨t, rfl⟩ := List.head?_eq_some_iff.mp hs
    cases h
    refine ⟨'-' :: (lineComment t).1, by simp [lineComment_append], ?_⟩
    intro v hv
    have hread := lineComment_steady t v (hv.comment _ rfl)
    simp [scanMark, hread]
  by_cases hblock : c = '/' ∧ s.head? = some '*'
  · obtain ⟨rfl, hs⟩ := hblock
    obtain ⟨t, rfl⟩ := List.head?_eq_some_iff.mp hs
    obtain ⟨content, hc, rfl⟩ := withContent_eq_some h
    obtain ⟨a, _, rfl, hread⟩ := blockComment_steady hc
    refine ⟨'*' :: a, rfl, ?_⟩
    intro v _
    exact congrArg (withContent .blockComment) (hread v)
  by_cases hc : c ∈ ['#', '@', '?', '$']
  · simp only [List.mem_cons, List.not_mem_nil, or_false] at hc
    rcases hc with rfl | rfl | rfl | rfl
    · obtain ⟨rfl, rfl⟩ := parts_of_eq_some h
      refine ((hashToken_steady s).front (a := []) fun t => rfl).mono ?_
      intro v hv
      exact ⟨hv.follows, fun ht => hv.lone (by simp [loneMarks, ht])⟩
    · obtain ⟨rfl, rfl⟩ := parts_of_eq_some h
      refine ((atToken_steady s).front (a := []) fun t => rfl).mono ?_
      intro v hv
      refine ⟨hv.follows, fun ht => hv.lone ?_⟩
      rcases ht with ht | ht <;> simp [loneMarks, ht]
    · obtain ⟨rfl, rfl⟩ := parts_of_eq_some h
      exact ((questionToken_steady s).front (a := []) fun t => rfl).mono fun v hv => hv.follows
    · exact ((dollarToken_steady h).front (a := []) fun t => rfl).mono fun v hv => hv.follows
  have hoperator {t : List Char} (hst : Follows s t) : scanMark c t = some (operator c t) :=
    scanMark_operator
      (fun hc => hst.head?_ne (by decide) fun hs => hline ⟨hc, hs⟩)
      (fun hc => hst.head?_ne (by decide) fun hs => hblock ⟨hc, hs⟩) hc
  rw [hoperator (follows_of_head? rfl)] at h
  obtain ⟨rfl, rfl⟩ := parts_of_eq_some h
  obtain ⟨a, ha, hread⟩ := operator_steady c s
  refine ⟨a, ha, ?_⟩
  intro v hv
  rw [hoperator (by rw [ha]; exact hv.follows.append a)]
  exact hread v ⟨hv.follows, hv.less⟩

/-- A quote that is new behind some characters is new in the text. -/
theorem Follows.quote_append {r v : List Char} (h : Follows r v)
    (hquote : ['&', '\''] <+: v → ['&', '\''] <+: r) (a : List Char) :
    ['&', '\''] <+: a ++ v → ['&', '\''] <+: a ++ r := by
  rcases a with _ | ⟨x, _ | ⟨y, a⟩⟩
  · exact hquote
  · intro hopen
    obtain ⟨w, hw⟩ := hopen
    obtain ⟨rfl, rfl⟩ := List.cons.inj hw
    by_contra hno
    refine h.head?_ne (x := '\'') (by decide) ?_ rfl
    intro hr
    obtain ⟨u, rfl⟩ := List.head?_eq_some_iff.mp hr
    exact hno ⟨u, rfl⟩
  · intro hopen
    obtain ⟨w, hw⟩ := hopen
    obtain ⟨rfl, htail⟩ := List.cons.inj hw
    obtain ⟨rfl, _⟩ := List.cons.inj htail
    exact ⟨a ++ r, rfl⟩

/-- **Only the beginning of what follows counts.**  A token is read the same in front of
every text that is alike to the text behind it. -/
theorem scan_steady {c : Char} {s rest : List Char} {token : Token}
    (h : scan c s = some (token, rest)) :
    Steady (scan c) s token rest (Alike token rest) := by
  by_cases hblank : isBlank c = true
  · rw [scan, if_pos hblank] at h
    cases h
    refine ((afterBlank_steady c s).front (a := []) ?_).mono fun v hv => hv.follows
    intro t
    rw [List.nil_append, scan, if_pos hblank]
  rw [scan, if_neg hblank] at h
  cases ho : opening? c s with
  | some q =>
      obtain ⟨o, t⟩ := q
      rw [ho] at h
      have hmark : o.mark ∉ [' ', ';', '?', '<', 'B', 'R', 'U'] := by
        have hm := opening?_mark ho
        simp only [List.mem_cons, List.not_mem_nil, or_false] at hm
        rcases hm with hm | hm | hm <;> rw [hm] <;> decide
      obtain ⟨a, rfl, hopen⟩ := opening?_steady ho
      obtain ⟨b, rfl, hread⟩ := Opening.read_steady h
      refine ⟨a ++ b, by simp, ?_⟩
      intro v hv
      rw [scan, if_neg hblank, List.append_assoc, hopen _ trivial]
      exact hread v (hv.follows.head?_ne hmark)
  | none =>
      rw [ho] at h
      -- the three readers that are left do not open quotes in front of an alike text
      have hread {a v : List Char} (hs : s = a ++ rest) (hv : Alike token rest v) :
          opening? c (a ++ v) = none := by
        rw [hs] at ho
        exact opening?_eq_none_of_follows ho (hv.follows.append a)
          (hv.follows.quote_append hv.quote a)
      by_cases hword : isWordStart c = true
      · rw [if_pos hword] at h
        obtain ⟨rfl, rfl⟩ := parts_of_eq_some h
        obtain ⟨a, ha, hsame⟩ := wordFrom_steady [c] s
        refine ⟨a, ha, ?_⟩
        intro v hv
        rw [scan, if_neg hblank, hread ha hv, if_pos hword]
        exact hsame v hv.follows
      · rw [if_neg hword] at h
        by_cases hnum : (c.isDigit || c == '.') = true
        · rw [if_pos hnum] at h
          obtain ⟨rfl, rfl⟩ := parts_of_eq_some h
          obtain ⟨a, ha, hsame⟩ := numeral_steady c s
          refine ⟨a, ha, ?_⟩
          intro v hv
          rw [scan, if_neg hblank, hread ha hv, if_neg hword, if_pos hnum]
          exact hsame v ⟨hv.follows, hv.exponent⟩
        · rw [if_neg hnum] at h
          obtain ⟨a, ha, hsame⟩ := scanMark_steady h
          refine ⟨a, ha, ?_⟩
          intro v hv
          rw [scan, if_neg hblank, hread ha hv, if_neg hword, if_neg hnum]
          exact hsame v hv

/-- A text that goes on behind another is alike to it. -/
theorem alike_of_head? {token : Token} {r v : List Char} (hr : r ≠ [])
    (hhead : v.head? = r.head?) (hquote : ['&', '\''] <+: v → ['&', '\''] <+: r)
    (hexp : token.isNumber = true → (exponent r).1 = [] → (exponent v).1 = []) :
    Alike token r v where
  follows := follows_of_head? hhead
  quote := hquote
  exponent := hexp
  less := fun _ hr => by rwa [hhead]
  lone := fun _ => .inr (.inr hhead)
  comment := fun _ _ hnil => absurd hnil hr

end QueryAudit.Sql
