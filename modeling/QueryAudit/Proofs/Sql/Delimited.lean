import QueryAudit.Proofs.Text.Span
import QueryAudit.Sql.Delimited

/-!
# What closes a delimited text

A reader of delimited text stops at the first mark that closes it, so what it
reads cannot depend on the text behind the mark, except for the one character
that would make the mark a doubled one.  `Steady` says this for any reader: it
takes the same characters, with the same result, in front of every text that
`fits`.  `quotedBy_eq_some_iff` says more for plain quotes: they hold the
content with its marks doubled, and nothing else.
-/

namespace QueryAudit.Sql

open Text

/-- The reader takes the same characters, and reads the same from them, in front
of every text that fits. -/
def Steady {α : Type} (read : List Char → Option (α × List Char)) (s : List Char) (x : α)
    (rest : List Char) (fits : List Char → Prop) : Prop :=
  ∃ a, s = a ++ rest ∧ ∀ v, fits v → read (a ++ v) = some (x, v)

/-- The second text starts with the mark only if the first does. -/
def KeepsOff (mark : Char) (r v : List Char) : Prop :=
  r.head? ≠ some mark → v.head? ≠ some mark

/-- A steady reader is steady in front of fewer texts. -/
theorem Steady.mono {α : Type} {read : List Char → Option (α × List Char)}
    {s rest : List Char} {x : α} {fits fits' : List Char → Prop}
    (h : Steady read s x rest fits) (hf : ∀ v, fits' v → fits v) :
    Steady read s x rest fits' := by
  obtain ⟨a, ha, hread⟩ := h
  exact ⟨a, ha, fun v hv => hread v (hf v hv)⟩

/-- Characters in front that choose the reader leave it steady. -/
theorem Steady.front {α : Type} {read read' : List Char → Option (α × List Char)}
    {a s rest : List Char} {x : α} {fits : List Char → Prop}
    (h : Steady read s x rest fits) (hstep : ∀ t, read' (a ++ t) = read t) :
    Steady read' (a ++ s) x rest fits := by
  obtain ⟨b, hb, hread⟩ := h
  refine ⟨a ++ b, by rw [hb, List.append_assoc], ?_⟩
  intro v hv
  rw [List.append_assoc, hstep, hread v hv]

/-- Characters in front that only add to the content leave a reader steady. -/
theorem Steady.prepend {read : List Char → Delimited} {add s content rest : List Char}
    {fits : List Char → Prop} (h : Steady read s content rest fits) (front : List Char)
    (hstep : ∀ t, read (front ++ t) = (read t).prepend add) :
    Steady read (front ++ s) (add ++ content) rest fits := by
  obtain ⟨a, ha, hread⟩ := h
  refine ⟨front ++ a, by rw [ha, List.append_assoc], ?_⟩
  intro v hv
  rw [List.append_assoc, hstep, hread v hv]
  rfl

/-- What a reading with characters added to its content comes from. -/
theorem Delimited.prepend_eq_some_iff {front content rest : List Char} {d : Delimited} :
    d.prepend front = some (content, rest) ↔
      ∃ c, d = some (c, rest) ∧ content = front ++ c := by
  constructor
  · intro h
    obtain ⟨⟨c, r⟩, hd, hc⟩ := Option.map_eq_some_iff.mp h
    simp only [Prod.mk.injEq] at hc
    exact ⟨c, by rw [hd, hc.2], hc.1.symm⟩
  · intro h
    obtain ⟨c, rfl, rfl⟩ := h
    rfl

/-! ## Plain quotes -/

/-- A text with every mark in it doubled. -/
def doubled (mark : Char) (content : List Char) : List Char :=
  content.flatMap fun c => if c = mark then [c, c] else [c]

/-- Characters are doubled one by one. -/
theorem doubled_cons (mark c : Char) (content : List Char) :
    doubled mark (c :: content) =
      (if c = mark then [c, c] else [c]) ++ doubled mark content := rfl

/-- A text without the mark has nothing to double. -/
theorem doubled_eq_self {mark : Char} {content : List Char} (h : mark ∉ content) :
    doubled mark content = content := by
  induction content with
  | nil => rfl
  | cons c content ih =>
      have hc : c ≠ mark := fun hc => h (hc ▸ List.mem_cons_self)
      have hrest := ih fun hm => h (List.mem_cons_of_mem c hm)
      rw [doubled_cons, if_neg hc, hrest, List.singleton_append]

/-- Doubling makes no text shorter. -/
theorem length_le_length_doubled (mark : Char) (content : List Char) :
    content.length ≤ (doubled mark content).length := by
  induction content with
  | nil => exact Nat.le_refl 0
  | cons c content ih =>
      rw [doubled_cons, List.length_append, List.length_cons]
      split <;> simp only [List.length_cons, List.length_nil] <;> omega

/-- A mark that is not doubled closes the quotes. -/
theorem quotedBy_close {mark : Char} {rest : List Char} (h : rest.head? ≠ some mark) :
    quotedBy mark (mark :: rest) = some ([], rest) := by
  cases rest with
  | nil => simp [quotedBy]
  | cons d rest =>
      have hd : d ≠ mark := by simpa using h
      simp [quotedBy, hd]

/-- Any other character belongs to the content. -/
theorem quotedBy_other {mark c : Char} (hc : c ≠ mark) (s : List Char) :
    quotedBy mark (c :: s) = (quotedBy mark s).prepend [c] := by
  cases s with
  | nil => simp [quotedBy, hc, Delimited.prepend]
  | cons d s => simp [quotedBy, hc]

/-- **Quotes hold the content with its marks doubled.**  They are closed by a mark
that is not followed by another one. -/
theorem quotedBy_eq_some_iff {mark : Char} {s content rest : List Char} :
    quotedBy mark s = some (content, rest) ↔
      s = doubled mark content ++ mark :: rest ∧ rest.head? ≠ some mark := by
  constructor
  · intro h
    fun_induction quotedBy mark s generalizing content with
    | case1 => simp at h
    | case2 =>
        simp only [Option.some.injEq, Prod.mk.injEq] at h
        obtain ⟨rfl, rfl⟩ := h
        exact ⟨rfl, by simp⟩
    | case3 => simp at h
    | case4 s ih =>
        obtain ⟨c, hc, rfl⟩ := Delimited.prepend_eq_some_iff.mp h
        obtain ⟨rfl, hrest⟩ := ih hc
        exact ⟨by simp [doubled_cons], hrest⟩
    | case5 d s hd =>
        simp only [Option.some.injEq, Prod.mk.injEq] at h
        obtain ⟨rfl, rfl⟩ := h
        exact ⟨rfl, by simpa using hd⟩
    | case6 c d s hc ih =>
        obtain ⟨content', hcontent, rfl⟩ := Delimited.prepend_eq_some_iff.mp h
        obtain ⟨hs, hrest⟩ := ih hcontent
        refine ⟨?_, hrest⟩
        rw [hs]
        simp [doubled_cons, hc]
  · intro h
    obtain ⟨rfl, hrest⟩ := h
    induction content with
    | nil => exact quotedBy_close hrest
    | cons c content ih =>
        by_cases hc : c = mark
        · subst hc
          rw [doubled_cons, if_pos rfl, List.append_assoc, List.cons_append, List.cons_append,
            quotedBy, if_pos rfl, if_pos rfl, List.nil_append, ih]
          rfl
        · have hsingle : doubled mark (c :: content) = c :: doubled mark content := by
            simp [doubled, hc]
          rw [hsingle, List.cons_append, quotedBy_other hc, ih]
          rfl

/-- Quotes read the same in front of every text that does not double their end. -/
theorem quotedBy_steady {mark : Char} {s content rest : List Char}
    (h : quotedBy mark s = some (content, rest)) :
    Steady (quotedBy mark) s content rest (KeepsOff mark rest) := by
  obtain ⟨rfl, hrest⟩ := quotedBy_eq_some_iff.mp h
  refine ⟨doubled mark content ++ [mark], by simp, ?_⟩
  intro v hv
  exact quotedBy_eq_some_iff.mpr ⟨by simp, hv hrest⟩

/-! ## Fences -/

/-- What a long enough text starts with does not depend on what follows it. -/
theorem isPrefixOf_append_iff {fence a : List Char} (h : fence.length ≤ a.length)
    (v : List Char) : fence.isPrefixOf (a ++ v) = true ↔ fence <+: a := by
  rw [List.isPrefixOf_iff_prefix]
  exact ⟨fun hp => List.prefix_of_prefix_length_le hp (List.prefix_append a v) h,
    fun hp => hp.trans (List.prefix_append a v)⟩

/-- A fence that stands at the front closes. -/
theorem fencedBy_close {fence : List Char} (h : fence ≠ []) (v : List Char) :
    fencedBy fence (fence ++ v) = some ([], v) := by
  obtain ⟨f, fs, rfl⟩ := List.exists_cons_of_ne_nil h
  have hp : (f :: fs).isPrefixOf (f :: (fs ++ v)) = true :=
    (isPrefixOf_append_iff (Nat.le_refl _) v).mpr (List.prefix_refl _)
  rw [List.cons_append, fencedBy, if_pos hp]
  simp

/-- A fenced text is its content and the fence, and it reads the same in front of
every text. -/
theorem fencedBy_steady {fence s content rest : List Char} (hf : fence ≠ [])
    (h : fencedBy fence s = some (content, rest)) :
    s = content ++ (fence ++ rest) ∧
      ∀ v, fencedBy fence (content ++ (fence ++ v)) = some (content, v) := by
  induction s generalizing content with
  | nil => simp [fencedBy] at h
  | cons c s ih =>
      rw [fencedBy] at h
      split at h
      · next hp =>
          simp only [Option.some.injEq, Prod.mk.injEq] at h
          obtain ⟨rfl, rfl⟩ := h
          obtain ⟨t, ht⟩ := List.isPrefixOf_iff_prefix.mp hp
          refine ⟨?_, fun v => fencedBy_close hf v⟩
          rw [← ht]
          simp
      · next hp =>
          obtain ⟨content', hc, rfl⟩ := Delimited.prepend_eq_some_iff.mp h
          obtain ⟨hs, hread⟩ := ih hc
          refine ⟨by rw [hs]; rfl, ?_⟩
          intro v
          -- the fence fits into what stands before `v`, so `v` cannot bring it forward
          have hno (w : List Char) : fence.isPrefixOf (c :: (content' ++ (fence ++ w))) = true ↔
              fence <+: c :: (content' ++ fence) := by
            simpa using @isPrefixOf_append_iff fence (c :: (content' ++ fence))
              (by simp; omega) w
          have hv : ¬ fence.isPrefixOf (c :: (content' ++ (fence ++ v))) = true := by
            rw [hno v, ← hno rest, ← hs]
            exact hp
          rw [List.singleton_append, List.cons_append, fencedBy, if_neg hv, hread v]
          rfl

/-! ## Hexadecimal strings -/

/-- A quote that is not doubled closes a hexadecimal string. -/
theorem hexString_close {rest : List Char} (h : rest.head? ≠ some '\'') :
    hexString ('\'' :: rest) = some ([], rest) := by
  cases rest with
  | nil => rfl
  | cons d rest =>
      have hd : d ≠ '\'' := by simpa using h
      simp [hexString, hd]

/-- Any character but the quote and the backslash is read for itself. -/
theorem hexString_other {c : Char} (hq : c ≠ '\'') (hb : c ≠ '\\') (s : List Char) :
    hexString (c :: s) = (hexString s).prepend [c] := by
  cases s <;> simp [hexString, hq, hb]

/-- A hexadecimal string reads the same in front of every text that does not double
its last quote. -/
theorem hexString_steady {s content rest : List Char}
    (h : hexString s = some (content, rest)) :
    Steady hexString s content rest (KeepsOff '\'' rest) := by
  fun_induction hexString s generalizing content with
  | case1 => simp at h
  | case2 s ih =>
      obtain ⟨c, hc, rfl⟩ := Delimited.prepend_eq_some_iff.mp h
      exact (ih hc).prepend ['\'', '\''] fun t => rfl
  | case3 s hs =>
      simp only [Option.some.injEq, Prod.mk.injEq] at h
      obtain ⟨rfl, rfl⟩ := h
      have hne : s.head? ≠ some '\'' := by
        intro hhead
        obtain ⟨t, rfl⟩ := List.head?_eq_some_iff.mp hhead
        exact hs t rfl
      exact ⟨['\''], rfl, fun v hv => hexString_close (hv hne)⟩
  | case4 c s ih =>
      obtain ⟨d, hd, rfl⟩ := Delimited.prepend_eq_some_iff.mp h
      exact (ih hd).prepend ['\\', c] fun t => by simp [hexString]
  | case5 c s h1 h2 h3 ih =>
      obtain ⟨d, hd, rfl⟩ := Delimited.prepend_eq_some_iff.mp h
      have hquote : c ≠ '\'' := h2
      have hslash : c ≠ '\\' := by
        intro heq
        subst heq
        cases s with
        | nil => simp [hexString] at hd
        | cons e s => exact h3 e s rfl rfl
      exact (ih hd).prepend [c] fun t => hexString_other hquote hslash t

/-! ## Comments -/

/-- A character that with the next one neither opens nor closes a comment belongs
to the text of the comment. -/
theorem blockComment_other {c d : Char} (ho : ¬ (c = '/' ∧ d = '*'))
    (hc : ¬ (c = '*' ∧ d = '/')) (depth : Nat) (s : List Char) :
    blockComment depth (c :: d :: s) = (blockComment depth (d :: s)).prepend [c] := by
  rw [blockComment]
  · intro t ht hd
    subst ht
    exact ho ⟨rfl, (List.cons.inj hd).1⟩
  · intro t ht hd
    subst ht
    exact hc ⟨rfl, (List.cons.inj hd).1⟩

/-- A block comment reads the same in front of every text. -/
theorem blockComment_steady {depth : Nat} {s content rest : List Char}
    (h : blockComment depth s = some (content, rest)) :
    ∃ a, a ≠ [] ∧ s = a ++ rest ∧
      ∀ v, blockComment depth (a ++ v) = some (content, v) := by
  fun_induction blockComment depth s generalizing content with
  | case1 => simp at h
  | case2 depth s ih =>
      obtain ⟨c, hc, rfl⟩ := Delimited.prepend_eq_some_iff.mp h
      obtain ⟨a, _, rfl, hread⟩ := ih hc
      exact ⟨'/' :: '*' :: a, by simp, rfl,
        fun v => by simp [blockComment, hread, Delimited.prepend]⟩
  | case3 s =>
      simp only [Option.some.injEq, Prod.mk.injEq] at h
      obtain ⟨rfl, rfl⟩ := h
      exact ⟨['*', '/'], by simp, rfl, fun v => by simp [blockComment]⟩
  | case4 s depth ih =>
      obtain ⟨c, hc, rfl⟩ := Delimited.prepend_eq_some_iff.mp h
      obtain ⟨a, _, rfl, hread⟩ := ih hc
      exact ⟨'*' :: '/' :: a, by simp, rfl,
        fun v => by simp [blockComment, hread, Delimited.prepend]⟩
  | case5 depth c s ho hcl ih =>
      obtain ⟨content', hc, rfl⟩ := Delimited.prepend_eq_some_iff.mp h
      obtain ⟨a, ha, rfl, hread⟩ := ih hc
      obtain ⟨d, a, rfl⟩ := List.exists_cons_of_ne_nil ha
      refine ⟨c :: d :: a, by simp, rfl, ?_⟩
      intro v
      have ho' : ¬ (c = '/' ∧ d = '*') := fun h => ho _ h.1 (by rw [h.2]; rfl)
      have hc' : ¬ (c = '*' ∧ d = '/') := fun h => hcl _ h.1 (by rw [h.2]; rfl)
      rw [List.cons_append, List.cons_append, blockComment_other ho' hc', ← List.cons_append,
        hread v]
      rfl

/-- A line comment reads the same in front of every text, unless it ends only with
the whole text. -/
theorem lineComment_steady (s v : List Char) (h : (lineComment s).2 = [] → v = []) :
    lineComment ((lineComment s).1 ++ v) = ((lineComment s).1, v) := by
  have hall : ∀ c ∈ s.takeWhile (· ≠ '\n'), decide (c ≠ '\n') = true :=
    fun c hc => List.mem_takeWhile_imp (p := (· ≠ '\n')) hc
  cases hd : s.dropWhile (· ≠ '\n') with
  | nil =>
      have hs : lineComment s = (s.takeWhile (· ≠ '\n'), []) := by
        unfold lineComment
        rw [hd]
      rw [hs] at h ⊢
      rw [h rfl]
      unfold lineComment
      rw [dropWhile_append_of_stopsAt hall (stopsAt_nil _),
        takeWhile_append_of_stopsAt hall (stopsAt_nil _)]
  | cons c rest =>
      have hc : StopsAt (· ≠ '\n') (c :: v) :=
        stopsAt_cons.mpr (stopsAt_cons.mp (hd ▸ stopsAt_dropWhile _ s))
      have hs : lineComment s = (s.takeWhile (· ≠ '\n') ++ [c], rest) := by
        unfold lineComment
        rw [hd]
      rw [hs]
      simp only [List.append_assoc, List.singleton_append]
      unfold lineComment
      rw [dropWhile_append_of_stopsAt hall hc, takeWhile_append_of_stopsAt hall hc]

/-- A line comment ends with its first line feed. -/
theorem lineComment_closed {a : List Char} (h : '\n' ∉ a) (v : List Char) :
    lineComment (a ++ '\n' :: v) = (a ++ ['\n'], v) := by
  have hall : ∀ c ∈ a, decide (c ≠ '\n') = true :=
    fun c hc => decide_eq_true fun heq => h (heq ▸ hc)
  have hstop : StopsAt (· ≠ '\n') ('\n' :: v) := stopsAt_cons.mpr (by decide)
  unfold lineComment
  rw [dropWhile_append_of_stopsAt hall hstop, takeWhile_append_of_stopsAt hall hstop]

/-- A line comment without a line feed goes on to the end. -/
theorem lineComment_open {a : List Char} (h : '\n' ∉ a) : lineComment a = (a, []) := by
  have hall : ∀ c ∈ a, decide (c ≠ '\n') = true :=
    fun c hc => decide_eq_true fun heq => h (heq ▸ hc)
  have hdrop := dropWhile_append_of_stopsAt hall (stopsAt_nil _)
  have htake := takeWhile_append_of_stopsAt hall (stopsAt_nil _)
  rw [List.append_nil] at hdrop htake
  unfold lineComment
  rw [hdrop, htake]

end QueryAudit.Sql
