import QueryAudit.Proofs.Statement.ReadBack

/-!
# The values of a statement

The values of a statement are what its shape hides: its literals, each with the sign that
belongs to it.  Its content is what is left of it without its gaps and without the spaces
and semicolons at its end, and its outline is what its shape is written with.

A mark in an outline hides a value, or it is a mark of the statement's own, a parameter.
Either way it is a slot, and with its slots filled the outline is the content again,
`fill_masked`.  So outline, parameters and values make up the content of a statement
(`contentOf_eq_iff`): what else two texts differ in is layout and spelling.
-/

namespace QueryAudit.Statement

open Sql

/-- The values that masking replaces; `operand` is its state. -/
def values (operand : Bool) : List Token → List (List Token)
  | [] => []
  | .minus :: .number text :: ts =>
    (if operand then [.number text] else [.minus, .number text]) :: values true ts
  | t :: ts =>
    if t.isLiteral then [t] :: values (operandAfter operand t) ts
    else values (operandAfter operand t) ts

/-- What stands in the places of the marks: values, and marks of the statement's own. -/
def slots (operand : Bool) : List Token → List (List Token)
  | [] => []
  | .minus :: .number text :: ts =>
    (if operand then [.number text] else [.minus, .number text]) :: slots true ts
  | t :: ts =>
    if t.isLiteral || t == mark then [t] :: slots (operandAfter operand t) ts
    else slots (operandAfter operand t) ts

/-- Is the slot a mark of the statement's own? -/
def isParameter (slot : List Token) : Bool := slot == [mark]

/-- Fills the places of the marks. -/
def fill : List Token → List (List Token) → List Token
  | [], _ => []
  | t :: ts, [] => t :: fill ts []
  | t :: ts, slot :: rest => if t = mark then slot ++ fill ts rest else t :: fill ts (slot :: rest)

/-- The tokens of a statement without its gaps but for single spaces, and without those
that vanish at its end. -/
def content (ts : List Token) : List Token := trimmed (spaced false (ts.dropWhile Token.isGap))

/-! ## Slots of tokens -/

/-- A mark takes the next slot. -/
theorem fill_mark (ts slot : List Token) (rest : List (List Token)) :
    fill (mark :: ts) (slot :: rest) = slot ++ fill ts rest := by
  rw [fill, if_pos rfl]

/-- Any other token stays. -/
theorem fill_token {t : Token} (ht : t ≠ mark) (ts : List Token) (rest : List (List Token)) :
    fill (t :: ts) rest = t :: fill ts rest := by
  cases rest with
  | nil => rfl
  | cons slot rest => rw [fill, if_neg ht]

/-- The values from a token on that is not the sign of a number. -/
theorem values_cons {operand : Bool} {t : Token} {ts : List Token}
    (h : ∀ text us, t = .minus → ts = .number text :: us → False) :
    values operand (t :: ts) =
      if t.isLiteral then [t] :: values (operandAfter operand t) ts
      else values (operandAfter operand t) ts := by
  rw [values]
  exact h

/-- The slots from such a token on. -/
theorem slots_cons {operand : Bool} {t : Token} {ts : List Token}
    (h : ∀ text us, t = .minus → ts = .number text :: us → False) :
    slots operand (t :: ts) =
      if t.isLiteral || t == mark then [t] :: slots (operandAfter operand t) ts
      else slots (operandAfter operand t) ts := by
  rw [slots]
  exact h

/-- **What masking hides is put back**, and so are the marks that were there before. -/
theorem fill_masked (operand : Bool) (ts : List Token) :
    fill (masked operand ts) (slots operand ts) = ts := by
  fun_induction masked operand ts with
  | case1 => rfl
  | case2 text ts ih =>
      rw [slots, if_pos rfl, fill_token (by decide), fill_mark, ih]
      rfl
  | case3 operand text ts hoperand ih =>
      rw [slots, if_neg hoperand, fill_mark, ih]
      rfl
  | case4 operand t ts hpair ih =>
      rw [slots_cons hpair]
      by_cases hmark : t = mark
      · rw [hmark] at ih ⊢
        rw [if_neg (by decide), if_pos (by decide), fill_mark, ih]
        rfl
      · rw [beq_eq_false_iff_ne.mpr hmark, Bool.or_false]
        cases t.isLiteral with
        | true =>
            rw [if_pos rfl, if_pos rfl, fill_mark, ih]
            rfl
        | false =>
            rw [if_neg Bool.false_ne_true, if_neg Bool.false_ne_true, fill_token hmark, ih]

/-- The values are the slots that are no parameters. -/
theorem filter_slots (operand : Bool) (ts : List Token) :
    (slots operand ts).filter (!isParameter ·) = values operand ts := by
  fun_induction values operand ts with
  | case1 => rfl
  | case2 operand text ts ih =>
      rw [slots, List.filter_cons, ih]
      cases operand <;> rfl
  | case3 operand t ts hpair ht ih =>
      have hmark : t ≠ mark := by
        rintro rfl
        cases ht
      rw [slots_cons hpair, ht, Bool.true_or, if_pos rfl,
        List.filter_cons_of_pos (by simpa [isParameter] using hmark), ih]
  | case4 operand t ts hpair ht ih =>
      rw [slots_cons hpair, Bool.eq_false_iff.mpr ht, Bool.false_or]
      cases hmark : t == mark with
      | true =>
          rw [if_pos rfl, List.filter_cons_of_neg (by simpa [isParameter] using hmark), ih]
      | false => rw [if_neg Bool.false_ne_true, ih]

/-- There is a slot for each mark. -/
theorem length_slots (operand : Bool) (ts : List Token) :
    (slots operand ts).length = (masked operand ts).count mark := by
  fun_induction masked operand ts with
  | case1 => rfl
  | case2 text ts ih =>
      rw [slots, List.length_cons, ih, List.count_cons_of_ne (by decide), List.count_cons_self]
  | case3 operand text ts _ ih => rw [slots, List.length_cons, ih, List.count_cons_self]
  | case4 operand t ts hpair ih =>
      rw [slots_cons hpair]
      cases t.isLiteral with
      | true => rw [Bool.true_or, if_pos rfl, if_pos rfl, List.length_cons, ih, List.count_cons_self]
      | false =>
          rw [Bool.false_or, if_neg Bool.false_ne_true, List.count_cons, ← ih]
          split <;> rfl

/-! ## The end of a statement -/

/-- A literal does not vanish at the end, and neither does what hides it. -/
theorem isEnding_hidden (t : Token) : isEnding (hidden t) = isEnding t := by
  cases ht : t.isLiteral with
  | false => rw [hidden, ht, if_neg Bool.false_ne_true]
  | true =>
      rw [hidden_of_isLiteral ht]
      cases t <;> first | rfl | cases ht

/-- A token that vanishes at the end is no literal. -/
theorem isLiteral_of_isEnding {t : Token} (h : isEnding t = true) : t.isLiteral = false := by
  rw [isEnding, Bool.or_eq_true, beq_iff_eq, beq_iff_eq] at h
  rcases h with rfl | rfl <;> rfl

/-- A token at the end that is no literal is no value, and no part of one. -/
theorem values_concat (operand : Bool) (ts : List Token) {last : Token}
    (h : last.isLiteral = false) : values operand (ts ++ [last]) = values operand ts := by
  fun_induction values operand ts with
  | case1 =>
      rw [List.nil_append, values_cons (by rintro text us _ ⟨⟩), h]
      rfl
  | case2 operand text ts ih => simp [values, ih]
  | case3 operand t ts hpair ht ih | case4 operand t ts hpair ht ih =>
      rw [List.cons_append, values_cons (unsigned_concat h hpair), ih]
      simp [ht]

/-- The last token of a statement shows at the end of its shape. -/
theorem getLast?_masked (operand : Bool) (ts : List Token) :
    (masked operand ts).getLast? = ts.getLast?.map hidden := by
  fun_induction masked operand ts with
  | case1 => rfl
  | case2 text ts ih | case3 operand text ts _ ih | case4 operand t ts _ ih =>
      cases hlast : ts.getLast? with
      | none => simp [List.getLast?_cons, ih, hlast, hidden, Token.isLiteral]
      | some u => simp [List.getLast?_cons, ih, hlast]

/-- **What vanishes at the end of a shape** vanishes at the end of the statement, and takes
no value along. -/
theorem trimmed_masked (operand : Bool) (ts : List Token) :
    trimmed (masked operand ts) = masked operand (trimmed ts) ∧
      values operand (trimmed ts) = values operand ts := by
  induction ts using List.reverseRecOn with
  | nil => exact ⟨rfl, rfl⟩
  | append_singleton ts t ih =>
      cases ht : isEnding t with
      | true =>
          have hliteral := isLiteral_of_isEnding ht
          rw [masked_concat operand ts hliteral, values_concat operand ts hliteral, trimmed,
            trimmed, List.rdropWhile_concat_pos _ _ _ ht, List.rdropWhile_concat_pos _ _ _ ht]
          exact ih
      | false =>
          have hkeep : ¬ isEnding t = true := by simp [ht]
          have hsame : trimmed (ts ++ [t]) = ts ++ [t] := List.rdropWhile_concat_neg _ _ _ hkeep
          have hlast : ∀ u ∈ (masked operand (ts ++ [t])).getLast?, ¬ isEnding u = true := by
            intro u hu
            rw [getLast?_masked, List.getLast?_concat] at hu
            obtain rfl := Option.some.inj hu
            rwa [isEnding_hidden]
          rw [hsame]
          refine ⟨List.rdropWhile_eq_self_iff.mpr fun hne => ?_, rfl⟩
          exact hlast _ (List.getLast?_eq_some_getLast hne)

/-! ## Parts of statements -/

/-- The values of a statement, in order.  A text that cannot be read has none. -/
def valuesOf (statement : String) : List (List Token) :=
  match tokenize statement.toList with
  | some ts => values false (spaced false (ts.dropWhile Token.isGap))
  | none => []

/-- The content of a statement, if it can be read. -/
def contentOf (statement : String) : Option (List Token) :=
  (tokenize statement.toList).map content

/-- The tokens that its shape is written with, if it can be read. -/
def outlineOf (statement : String) : Option (List Token) :=
  (tokenize statement.toList).map fun ts => trimmed (shapeTokens ts)

/-- The slots of its outline, in order. -/
def slotsOf (statement : String) : List (List Token) :=
  match tokenize statement.toList with
  | some ts => slots false (content ts)
  | none => []

/-- For each mark of its outline, whether it is the statement's own. -/
def parametersOf (statement : String) : List Bool := (slotsOf statement).map isParameter

/-- The outline of a statement is its content with the values hidden. -/
theorem outlineOf_eq (statement : String) :
    outlineOf statement = (contentOf statement).map (masked false) := by
  rw [outlineOf, contentOf, Option.map_map]
  exact congrArg (Option.map · _) (funext fun ts => (trimmed_masked false _).1)

/-- The values of a statement are those of its content. -/
theorem valuesOf_eq (statement : String) :
    valuesOf statement = (contentOf statement).elim [] (values false) := by
  unfold valuesOf contentOf
  cases tokenize statement.toList with
  | none => rfl
  | some ts => exact ((trimmed_masked false _).2).symm

/-- So are its slots. -/
theorem slotsOf_eq (statement : String) :
    slotsOf statement = (contentOf statement).elim [] (slots false) := by
  unfold slotsOf contentOf
  cases tokenize statement.toList <;> rfl

/-- **A statement is its outline with the slots filled**, but for its layout. -/
theorem fill_outlineOf (statement : String) :
    (outlineOf statement).map (fill · (slotsOf statement)) = contentOf statement := by
  rw [outlineOf_eq, slotsOf_eq]
  cases contentOf statement with
  | none => rfl
  | some ts => exact congrArg some (fill_masked false ts)

/-- The slots of a statement that are no parameters are its values. -/
theorem filter_slotsOf (statement : String) :
    (slotsOf statement).filter (!isParameter ·) = valuesOf statement := by
  rw [slotsOf_eq, valuesOf_eq]
  cases contentOf statement with
  | none => rfl
  | some ts => exact filter_slots false ts

/-- Slots are known by their values and by where the parameters stand among them. -/
theorem slots_ext {ss ss' : List (List Token)}
    (hparameters : ss.map isParameter = ss'.map isParameter)
    (hvalues : ss.filter (!isParameter ·) = ss'.filter (!isParameter ·)) : ss = ss' := by
  induction ss generalizing ss' with
  | nil =>
      cases ss' with
      | nil => rfl
      | cons slot ss' => cases hparameters
  | cons slot ss ih =>
      cases ss' with
      | nil => cases hparameters
      | cons slot' ss' =>
          rw [List.map_cons, List.map_cons] at hparameters
          obtain ⟨hslot, hrest⟩ := List.cons.inj hparameters
          cases hparameter : isParameter slot' with
          | true =>
              rw [hparameter] at hslot
              rw [List.filter_cons_of_neg (by simp [hslot]),
                List.filter_cons_of_neg (by simp [hparameter])] at hvalues
              rw [beq_iff_eq.mp hslot, beq_iff_eq.mp hparameter, ih hrest hvalues]
          | false =>
              rw [hparameter] at hslot
              rw [List.filter_cons_of_pos (by simp [hslot]),
                List.filter_cons_of_pos (by simp [hparameter])] at hvalues
              obtain ⟨rfl, hothers⟩ := List.cons.inj hvalues
              rw [ih hrest hothers]

/-- **Outline, parameters and values make up the content of a statement.** -/
theorem contentOf_eq_iff {statement other : String} :
    contentOf statement = contentOf other ↔
      outlineOf statement = outlineOf other ∧ parametersOf statement = parametersOf other ∧
        valuesOf statement = valuesOf other := by
  constructor
  · intro h
    rw [outlineOf_eq, outlineOf_eq, parametersOf, parametersOf, slotsOf_eq, slotsOf_eq,
      valuesOf_eq, valuesOf_eq, h]
    exact ⟨rfl, rfl, rfl⟩
  · rintro ⟨houtline, hparameters, hvalues⟩
    rw [← filter_slotsOf, ← filter_slotsOf] at hvalues
    have hslots : slotsOf statement = slotsOf other := slots_ext hparameters hvalues
    rw [← fill_outlineOf, ← fill_outlineOf, houtline, hslots]

/-- In one outline, more parameters leave room for fewer values. -/
theorem length_valuesOf_add (statement : String) :
    (valuesOf statement).length + (parametersOf statement).count true =
      (outlineOf statement).elim 0 (·.count mark) := by
  have hslots : (slotsOf statement).length = (outlineOf statement).elim 0 (·.count mark) := by
    rw [slotsOf_eq, outlineOf_eq]
    cases contentOf statement with
    | none => rfl
    | some ts => exact length_slots false ts
  have hsplit := (slotsOf statement).length_eq_countP_add_countP isParameter
  simp only [Bool.not_eq_true, Bool.decide_eq_false] at hsplit
  have hown : (· == true) ∘ isParameter = isParameter := funext fun slot => beq_true _
  rw [← hslots, ← filter_slotsOf, ← List.countP_eq_length_filter, parametersOf, List.count,
    List.countP_map, hown, hsplit, Nat.add_comm]

/-! ## Shapes that are read back -/

/-- The shape of the statement is read as the tokens that it was written with. -/
def ReadBack (statement : String) : Prop :=
  tokenize (shape statement).toList = outlineOf statement

instance : DecidablePred ReadBack := fun _ => decEq (tokenize _) _

/-- A legible statement has such a shape. -/
theorem Legible.readBack {statement : String} {ts : List Token}
    (h : tokenize statement.toList = some ts) (hlegible : Legible ts) : ReadBack statement := by
  rw [ReadBack, shape, String.toList_ofList, tokenize_shapeOfChars h hlegible, outlineOf, h]
  rfl

/-- Statements with one shape have one outline if the shape is read back. -/
theorem outlineOf_eq_of_shape_eq {statement other : String} (h : ReadBack statement)
    (hother : ReadBack other) (hshape : shape statement = shape other) :
    outlineOf statement = outlineOf other := by
  rw [← h, ← hother, hshape]

end QueryAudit.Statement
