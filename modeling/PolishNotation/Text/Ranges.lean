namespace PolishNotation.Text

/-- A closed range of code points. -/
structure CodeRange where
  first : Nat
  last : Nat
deriving DecidableEq, Repr

namespace CodeRange

def Contains (range : CodeRange) (code : Nat) : Prop :=
  range.first ≤ code ∧ code ≤ range.last

instance (range : CodeRange) (code : Nat) : Decidable (range.Contains code) :=
  inferInstanceAs (Decidable (_ ∧ _))

end CodeRange

/-- Each range ends before the next one starts. -/
def Ascending : List CodeRange → Prop
  | [] => True
  | [range] => range.first ≤ range.last
  | range :: next :: rest =>
      range.first ≤ range.last ∧ range.last < next.first ∧ Ascending (next :: rest)

instance decidableAscending : (ranges : List CodeRange) → Decidable (Ascending ranges)
  | [] => isTrue trivial
  | [range] => inferInstanceAs (Decidable (range.first ≤ range.last))
  | _ :: next :: rest =>
      have := decidableAscending (next :: rest)
      inferInstanceAs (Decidable (_ ∧ _ ∧ Ascending (next :: rest)))

/-- The search stops at the first range that starts after the code point. -/
def covers : List CodeRange → Nat → Bool
  | [], _ => false
  | range :: rest, code =>
      if code < range.first then false
      else if code ≤ range.last then true
      else covers rest code

theorem Ascending.tail {range : CodeRange} {rest : List CodeRange}
    (ascending : Ascending (range :: rest)) : Ascending rest := by
  cases rest with
  | nil => trivial
  | cons next rest => exact ascending.2.2

theorem Ascending.below {range other : CodeRange} {rest : List CodeRange}
    (ascending : Ascending (range :: rest)) (member : other ∈ rest) :
    range.last < other.first := by
  induction rest generalizing range with
  | nil => cases member
  | cons next rest inductionHypothesis =>
      cases member with
      | head => exact ascending.2.1
      | tail _ later =>
          have step := inductionHypothesis ascending.2.2 later
          have ordered : next.first ≤ next.last := by
            cases rest with
            | nil => cases later
            | cons => exact ascending.2.2.1
          have gap := ascending.2.1
          omega

/-- The early stop loses no range of an ascending table. -/
theorem covers_iff {ranges : List CodeRange} (ascending : Ascending ranges) (code : Nat) :
    covers ranges code = true ↔ ∃ range ∈ ranges, range.Contains code := by
  induction ranges with
  | nil => simp [covers]
  | cons range rest inductionHypothesis =>
      rw [covers]
      split
      · rename_i before
        simp only [Bool.false_eq_true, false_iff, List.mem_cons, not_exists, not_and]
        rintro other (rfl | later) inside
        · exact absurd inside.1 (by omega)
        · have gap := ascending.below later
          have ordered : range.first ≤ range.last := by
            cases rest with
            | nil => cases later
            | cons => exact ascending.1
          exact absurd inside.1 (by omega)
      · split
        · rename_i reached within
          simp only [true_iff]
          exact ⟨range, List.mem_cons_self .., by omega, within⟩
        · rename_i _ beyond
          rw [inductionHypothesis ascending.tail]
          constructor
          · rintro ⟨other, later, inside⟩
            exact ⟨other, List.mem_cons_of_mem _ later, inside⟩
          · rintro ⟨other, member, inside⟩
            cases member with
            | head => exact absurd inside.2 beyond
            | tail _ later => exact ⟨other, later, inside⟩

end PolishNotation.Text
