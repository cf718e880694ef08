import Mathlib.Data.List.TakeWhile

/-!
# Spans of characters

A span takes the characters of a class from the front of a text.  It ends where
the class stops, so the span `a` of `a ++ v` is `a` whenever `a` lies in the
class and the class stops at `v`.
-/

namespace QueryAudit.Text

/-- The class stops at the text: the first character, if any, is not in it. -/
def StopsAt (p : Char → Bool) (s : List Char) : Prop := ∀ c ∈ s.head?, p c = false

/-- Every class stops at the empty text. -/
theorem stopsAt_nil (p : Char → Bool) : StopsAt p [] := by
  intro c hc
  cases hc

/-- A class stops at a text when it lacks the first character. -/
theorem stopsAt_cons {p : Char → Bool} {c : Char} {s : List Char} :
    StopsAt p (c :: s) ↔ p c = false := by
  simp [StopsAt]

instance (p : Char → Bool) : DecidablePred (StopsAt p)
  | [] => isTrue (stopsAt_nil p)
  | _ :: _ => decidable_of_iff _ stopsAt_cons.symm

/-- A class stops at what is left of a text when its span is taken away. -/
theorem stopsAt_dropWhile (p : Char → Bool) (s : List Char) : StopsAt p (s.dropWhile p) := by
  intro c hc
  have hnot := List.head?_dropWhile_not p s
  rw [Option.mem_def.mp hc] at hnot
  exact hnot

/-- A class stops at a text when its span there is empty. -/
theorem takeWhile_eq_nil_iff_stopsAt {p : Char → Bool} {s : List Char} :
    s.takeWhile p = [] ↔ StopsAt p s := by
  cases s with
  | nil => simp [stopsAt_nil]
  | cons c s => simp [stopsAt_cons, List.takeWhile_cons]

/-- A span ends where its class stops. -/
theorem takeWhile_append_of_stopsAt {p : Char → Bool} {a v : List Char}
    (ha : ∀ c ∈ a, p c = true) (hv : StopsAt p v) : (a ++ v).takeWhile p = a := by
  rw [List.takeWhile_append_of_pos ha]
  cases v with
  | nil => simp
  | cons c v => simp [stopsAt_cons.mp hv]

/-- What is left of a text starts where the class of the span stops. -/
theorem dropWhile_append_of_stopsAt {p : Char → Bool} {a v : List Char}
    (ha : ∀ c ∈ a, p c = true) (hv : StopsAt p v) : (a ++ v).dropWhile p = v := by
  rw [List.dropWhile_append_of_pos ha]
  cases v with
  | nil => rfl
  | cons c v => simp [stopsAt_cons.mp hv]

/-- A span that is dropped from the front ends at the latest where its class does. -/
theorem dropWhile_append_cons {α : Type} {p : α → Bool} {x : α} (hx : p x = false)
    (a v : List α) : (a ++ x :: v).dropWhile p = a.dropWhile p ++ x :: v := by
  rw [List.dropWhile_append]
  cases a.dropWhile p <;> simp [hx]

/-- A span of at most `n` characters does not depend on the text behind it, if
that text starts as before. -/
theorem takeWhile_take_append {p : Char → Bool} {n : Nat} {s a rest v : List Char}
    (ha : (s.take n).takeWhile p = a) (hs : s = a ++ rest) (hv : v.head? = rest.head?) :
    ((a ++ v).take n).takeWhile p = a := by
  induction n generalizing s a with
  | zero => simpa using ha
  | succ n ih =>
      cases a with
      | nil =>
          subst hs
          cases v with
          | nil => simp
          | cons c v =>
              obtain ⟨rest', rfl⟩ := List.head?_eq_some_iff.mp hv.symm
              have hc : p c = false := by
                by_contra hc
                simp [Bool.of_not_eq_false hc] at ha
              simp [hc]
      | cons c a =>
          subst hs
          simp only [List.cons_append, List.take_succ_cons, List.takeWhile_cons] at ha ⊢
          split at ha
          · next hc =>
              rw [if_pos hc, ih (List.cons.inj ha).2 rfl]
          · cases ha

end QueryAudit.Text
