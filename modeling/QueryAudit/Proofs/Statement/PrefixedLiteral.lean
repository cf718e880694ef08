import QueryAudit.Proofs.Sql.Prefixed
import QueryAudit.Proofs.Statement.LiteralHole
import QueryAudit.Proofs.Statement.ReadBack

/-!
# Strings behind a prefix in a shape

A string is a literal if it is plain or stands behind `N`, `E` or `X`.  Strings behind `B`,
`R` and `U&` are no literals: they are written back as they are, with what they hold.  So
two statements that differ in such a string have two shapes, and two that differ in a
literal have one (`shapeOfChars_prefixed_iff`).
-/

namespace QueryAudit.Statement

open Sql

/-- A text keeps everything up to its last character that does not vanish at the end. -/
theorem dropTrailing_append_cons {x : Char} (hx : isTrailing x = false) (a v : List Char) :
    dropTrailing (a ++ x :: v) = a ++ x :: dropTrailing v := by
  rw [dropTrailing, dropTrailing, List.reverse_append, List.reverse_cons, List.append_assoc,
    List.singleton_append, Text.dropWhile_append_cons hx]
  simp

/-- **A prefix hides what a string holds, or shows it.** -/
theorem hides_or_shows {k : List Char} {o : Opening} (h : OpensWith k o) :
    (∃ kind, o = .literal kind) ∨ ∃ front, ∀ content,
      (o.token content).written = front ++ (content ++ ['\'']) ∧
      (o.token content).isLiteral = false ∧ (o.token content).isOperand = false := by
  cases h with
  | national | escaped | hex => exact .inl ⟨_, rfl⟩
  | bytes => exact .inr ⟨['B', '\''], fun content => ⟨rfl, rfl, rfl⟩⟩
  | raw => exact .inr ⟨['R', '\''], fun content => ⟨rfl, rfl, rfl⟩⟩
  | unicode => exact .inr ⟨['U', '&', '\''], fun content => ⟨rfl, rfl, rfl⟩⟩

/-- A string behind a prefix is no gap and no minus sign. -/
theorem token_of_opensWith {k : List Char} {o : Opening} (h : OpensWith k o)
    (content : List Char) : (o.token content).isGap = false ∧ o.token content ≠ .minus := by
  cases h <;> exact ⟨rfl, nofun⟩

section

variable {p s k : List Char} {ts : List Token} {o : Opening}

/-- The tokens of a statement with a string behind a prefix. -/
theorem tokenize_around (hp : tokenize p = some ts) (hlast : ts.getLast? = some .space)
    (hs : EndsValue s) (hk : OpensWith k o) {content : List Char} (hcontent : Unquoted content) :
    tokenize (p ++ (k ++ '\'' :: (content ++ '\'' :: s))) =
      (tokenize s).map fun us => ts ++ o.token content :: us := by
  have hvalue : ∀ t ∈ ts.getLast?, t ∈ opensValue := by
    intro t ht
    rw [hlast] at ht
    obtain rfl := Option.some.inj ht
    decide
  rw [tokenize_append hp hvalue (hk.enters _), tokenize_prefixed hk hcontent hs, Option.map_map]
  rfl

/-- **What a string holds shows in the shape exactly if its prefix makes it no literal.** -/
theorem shapeOfChars_prefixed_iff (hp : tokenize p = some ts) (hlast : ts.getLast? = some .space)
    (hs : EndsValue s) (hk : OpensWith k o) {c c' : List Char} (hc : Unquoted c)
    (hc' : Unquoted c') (hread : (tokenize (p ++ (k ++ '\'' :: (c ++ '\'' :: s)))).isSome) :
    shapeOfChars (p ++ (k ++ '\'' :: (c ++ '\'' :: s))) =
        shapeOfChars (p ++ (k ++ '\'' :: (c' ++ '\'' :: s))) ↔
      (∃ kind, o = .literal kind) ∨ c = c' := by
  have htokens {c : List Char} (hc : Unquoted c) := tokenize_around hp hlast hs hk hc
  rw [htokens hc, Option.isSome_map] at hread
  obtain ⟨us, hus⟩ := Option.isSome_iff_exists.mp hread
  have hminus : ts.getLast? ≠ some .minus := by
    rw [hlast]
    decide
  have hshape {c : List Char} (hc : Unquoted c) :
      shapeOfChars (p ++ (k ++ '\'' :: (c ++ '\'' :: s))) =
        dropTrailing (Token.text (masked false (spacedBefore false (ts.dropWhile Token.isGap)) ++
          hidden (o.token c) :: masked ((o.token c).isLiteral || (o.token c).isOperand)
            (spaced false us))) := by
    obtain ⟨hgap, hne⟩ := token_of_opensWith hk c
    have hread := htokens hc
    rw [hus] at hread
    rw [shapeOfChars_of_tokenize hread, shapeTokens_append_token hminus hgap hne]
  rw [hshape hc, hshape hc']
  rcases hides_or_shows hk with ⟨kind, rfl⟩ | ⟨front, hshows⟩
  · exact ⟨fun _ => .inl ⟨kind, rfl⟩, fun _ => rfl⟩
  · have htext (c : List Char) (before after : List Token) :
        dropTrailing (Token.text (before ++ hidden (o.token c) :: after)) =
          Token.text before ++ (front ++ (c ++ '\'' :: dropTrailing (Token.text after))) := by
      obtain ⟨hwritten, hliteral, _⟩ := hshows c
      have hsplit : Token.text (before ++ hidden (o.token c) :: after) =
          (Token.text before ++ (front ++ c)) ++ '\'' :: Token.text after := by
        rw [hidden, hliteral, if_neg Bool.false_ne_true, Token.text_append]
        simp [Token.text, hwritten]
      rw [hsplit, dropTrailing_append_cons (by decide)]
      simp
    obtain ⟨_, hliteral, hoperand⟩ := hshows c
    obtain ⟨_, hliteral', hoperand'⟩ := hshows c'
    rw [htext, htext, hliteral, hliteral', hoperand, hoperand', List.append_cancel_left_eq,
      List.append_cancel_left_eq, List.append_cancel_right_eq]
    refine ⟨.inr, ?_⟩
    rintro (⟨kind, rfl⟩ | h)
    · cases hliteral
    · exact h

end

end QueryAudit.Statement
