import PolishNotation.Proofs.RationalPower
import PolishNotation.Proofs.TreeScan

namespace PolishNotation

namespace Rational

/-- Even the smallest value weighs as much as the largest power. -/
def weight (value : Rat) : Nat := max (width value) bitLimit + 1

theorem width_le_weight (value : Rat) : width value ≤ weight value := by
  unfold weight
  omega

/-- One further bit is the carry of a sum. -/
theorem weight_le_add {result left right : Rat}
    (bounded : width result ≤ width left + width right + 1 ∨ width result ≤ bitLimit) :
    weight result ≤ weight left + weight right := by
  unfold weight
  omega

end Rational

namespace Domain

theorem weight_applyRational_le {operator : Operator} {left right result : Rat}
    (applied : applyRational operator left right = .ok result) :
    Rational.weight result ≤ Rational.weight left + Rational.weight right := by
  apply Rational.weight_le_add
  cases operator with
  | plus =>
      obtain rfl := Except.ok.inj applied
      exact .inl (Rational.width_add_le left right)
  | minus =>
      obtain rfl := Except.ok.inj applied
      exact .inl (Rational.width_sub_le left right)
  | times =>
      obtain rfl := Except.ok.inj applied
      exact .inl ((Rational.width_mul_le left right).trans (Nat.le_succ _))
  | divide =>
      rw [applyRational] at applied
      split at applied
      · cases applied
      · obtain rfl := Except.ok.inj applied
        exact .inl ((Rational.width_div_le left right).trans (Nat.le_succ _))
  | power => exact .inr (Rational.width_le_bitLimit_of_power applied)

/-- An integer token brings its size or the limit, and a carry bit. -/
def tokenBudget (token : String) : Nat :=
  match Decimal.readInteger? token with
  | some number => max (Rational.bitSize number.natAbs) Rational.bitLimit + 1
  | none => 0

/-- The budgets of all tokens are added up. -/
def bitBudget (tokens : List String) : Nat := (tokens.map tokenBudget).sum

@[simp] theorem bitBudget_nil : bitBudget [] = 0 := rfl

@[simp] theorem bitBudget_cons (token : String) (tokens : List String) :
    bitBudget (token :: tokens) = tokenBudget token + bitBudget tokens := List.sum_cons

@[simp] theorem bitBudget_append (first second : List String) :
    bitBudget (first ++ second) = bitBudget first + bitBudget second := by
  simp [bitBudget]

theorem bitBudget_reverse (tokens : List String) :
    bitBudget tokens.reverse = bitBudget tokens := by
  simp [bitBudget, List.sum_reverse]

theorem weight_of_read? {token : String} {value : Rat} (read : exact.read? token = some value) :
    Rational.weight value = tokenBudget token := by
  rw [read?_exact_eq] at read
  obtain ⟨number, spelled, rfl⟩ := Option.map_eq_some_iff.mp read
  have one : Rational.bitSize 1 ≤ Rational.bitLimit := by decide
  simp only [tokenBudget, spelled, Rational.weight, Rational.width, Rat.num_intCast,
    Rat.den_intCast]
  omega

def stackWeight (stack : List Rat) : Nat := (stack.map Rational.weight).sum

@[simp] theorem stackWeight_nil : stackWeight [] = 0 := rfl

@[simp] theorem stackWeight_cons (value : Rat) (stack : List Rat) :
    stackWeight (value :: stack) = Rational.weight value + stackWeight stack := List.sum_cons

theorem weight_le_stackWeight {stack : List Rat} {value : Rat} (member : value ∈ stack) :
    Rational.weight value ≤ stackWeight stack :=
  List.le_sum_of_mem (List.mem_map_of_mem member)

/-- A step adds no more weight than the budget of its token. -/
theorem stackWeight_step_le {direction : Direction} {stack next : List Rat} {token : String}
    {position : Nat} (stepped : exact.step direction stack (token, position) = .ok next) :
    stackWeight next ≤ stackWeight stack + tokenBudget token := by
  rcases step_ok_cases stepped with ⟨value, read, rfl⟩ |
    ⟨operator, top, below, rest, value, rfl, rfl, combined, rfl⟩
  · rw [stackWeight_cons, weight_of_read? read, Nat.add_comm]
  · have merged : Rational.weight value ≤ Rational.weight top + Rational.weight below := by
      cases direction with
      | forward =>
          rw [Nat.add_comm]
          exact weight_applyRational_le combined
      | backward => exact weight_applyRational_le combined
    simp only [stackWeight_cons]
    omega

theorem stackWeight_scan_le {direction : Direction} {stack final : List Rat}
    {placed : List (String × Nat)} (scanned : exact.scan direction stack placed = .ok final) :
    stackWeight final ≤ stackWeight stack + bitBudget (placed.map Prod.fst) := by
  induction placed generalizing stack with
  | nil =>
      obtain rfl := Except.ok.inj scanned
      exact Nat.le_refl _
  | cons first rest inductionHypothesis =>
      obtain ⟨next, stepped, continued⟩ := exists_step_of_scan_cons scanned
      have now := stackWeight_step_le stepped
      have later := inductionHypothesis continued
      rw [List.map_cons, bitBudget_cons]
      omega

/-- The values on the stack of an exact scan always fit in the bits. -/
def StaysWithin (direction : Direction) (placed : List (String × Nat)) (bits : Nat) : Prop :=
  ∀ met rest stack, placed = met ++ rest → exact.scan direction [] met = .ok stack →
    ∀ value ∈ stack,
      Rational.bitSize value.num.natAbs ≤ bits ∧ Rational.bitSize value.den ≤ bits

theorem staysWithin_bitBudget (direction : Direction) (placed : List (String × Nat)) :
    StaysWithin direction placed (bitBudget (placed.map Prod.fst)) := by
  rintro met rest stack rfl scanned value member
  have total := stackWeight_scan_le scanned
  have share := weight_le_stackWeight member
  have width := Rational.width_le_weight value
  rw [Rational.width] at width
  rw [List.map_append, bitBudget_append]
  rw [stackWeight_nil] at total
  omega

theorem StaysWithin.result {direction : Direction} {placed : List (String × Nat)} {bits : Nat}
    (within : StaysWithin direction placed bits) {result : Rat}
    (ran : exact.run direction placed = .ok result) :
    Rational.bitSize result.num.natAbs ≤ bits ∧ Rational.bitSize result.den ≤ bits :=
  within placed [] [result] (List.append_nil _).symm (scan_of_run ran) result
    (List.mem_singleton_self _)

theorem digitValue_lt {digit : Char} (decimal : digit.isDigit = true) :
    Decimal.digitValue digit < 2 ^ 4 := by
  simp only [Char.isDigit, Bool.and_eq_true, decide_eq_true_eq] at decimal
  have upper : digit.toNat ≤ 57 := decimal.2
  have zero : '0'.toNat = 48 := rfl
  rw [Decimal.digitValue, zero]
  omega

/-- A digit alone stays below the limit for powers. -/
theorem tokenBudget_singleton (character : Char) :
    tokenBudget (String.singleton character) =
      if character.isDigit then Rational.bitLimit + 1 else 0 := by
  rw [tokenBudget, Decimal.readInteger?_singleton]
  split
  · rename_i number read
    split at read
    · rename_i decimal
      obtain rfl := Option.some.inj read
      have few : Rational.bitSize (Decimal.digitValue character) ≤ 4 :=
        (Rational.bitSize_le_iff _ _).mpr (digitValue_lt decimal)
      have limit : 4 ≤ Rational.bitLimit := by decide
      rw [if_pos decimal, Int.natAbs_natCast]
      omega
    · cases read
  · rename_i unread
    split at unread
    · cases unread
    · rename_i other
      rw [if_neg other]

theorem bitBudget_map_singleton (characters : List Char) :
    bitBudget (characters.map String.singleton) =
      characters.countP Char.isDigit * (Rational.bitLimit + 1) := by
  induction characters with
  | nil => simp
  | cons character rest inductionHypothesis =>
      rw [List.map_cons, bitBudget_cons, inductionHypothesis, tokenBudget_singleton,
        List.countP_cons, Nat.add_mul, Nat.add_comm]
      split <;> simp

end Domain

/-- The tokens bound all values of an exact evaluation at every point. -/
theorem exact_values_stay_within_budget (sequence : TokenSequence) :
    Domain.StaysWithin .forward sequence.toList.zipIdx (Domain.bitBudget sequence.toList) ∧
      (∀ result, Domain.exact.evaluatePostfix sequence = .ok result →
        Rational.bitSize result.num.natAbs ≤ Domain.bitBudget sequence.toList ∧
          Rational.bitSize result.den ≤ Domain.bitBudget sequence.toList) ∧
      Domain.StaysWithin .backward sequence.split.zipIdx.reverse
        ((sequence.toList.flatMap String.toList).countP Char.isDigit *
          (Rational.bitLimit + 1)) ∧
      ∀ result, Domain.exact.evaluatePrefix sequence = .ok result →
        Rational.bitSize result.num.natAbs ≤
            (sequence.toList.flatMap String.toList).countP Char.isDigit *
              (Rational.bitLimit + 1) ∧
          Rational.bitSize result.den ≤
            (sequence.toList.flatMap String.toList).countP Char.isDigit *
              (Rational.bitLimit + 1) := by
  have onPostfix := Domain.staysWithin_bitBudget .forward sequence.toList.zipIdx
  rw [List.zipIdx_map_fst] at onPostfix
  have onPrefix := Domain.staysWithin_bitBudget .backward sequence.split.zipIdx.reverse
  rw [List.map_reverse, List.zipIdx_map_fst, Domain.bitBudget_reverse, TokenSequence.split_eq,
    Domain.bitBudget_map_singleton, ← TokenSequence.split_eq] at onPrefix
  exact ⟨onPostfix, fun result => onPostfix.result, onPrefix, fun result => onPrefix.result⟩

/-- A negative power and a fraction on the way keep to the budget. -/
theorem exact_values_stay_within_budget_of_powers :
    (∃ result, Domain.exact.evaluatePostfix
        (.ofList ["7", "5", "/", "0", "3", "-", "^", "2", "^"]) = .ok result ∧
      result = 15625 / 117649 ∧
      Rational.bitSize result.den ≤
        Domain.bitBudget ["7", "5", "/", "0", "3", "-", "^", "2", "^"]) ∧
      ∃ result, Domain.exact.evaluatePrefix (.ofList ["^^/75", "-032"]) = .ok result ∧
        result = 15625 / 117649 ∧
        Rational.bitSize result.den ≤ 5 * (Rational.bitLimit + 1) := by
  have onPostfix : Domain.exact.evaluatePostfix
      (.ofList ["7", "5", "/", "0", "3", "-", "^", "2", "^"]) = .ok (15625 / 117649) := by
    decide +kernel
  have onPrefix : Domain.exact.evaluatePrefix (.ofList ["^^/75", "-032"]) =
      .ok (15625 / 117649) := by
    decide +kernel
  have digits : ((TokenSequence.ofList ["^^/75", "-032"]).toList.flatMap
      String.toList).countP Char.isDigit = 5 := by decide
  obtain ⟨-, postfixResult, -, -⟩ := exact_values_stay_within_budget
    (.ofList ["7", "5", "/", "0", "3", "-", "^", "2", "^"])
  obtain ⟨-, -, -, prefixResult⟩ := exact_values_stay_within_budget (.ofList ["^^/75", "-032"])
  rw [digits] at prefixResult
  rw [TokenSequence.toList_ofList] at postfixResult
  exact ⟨⟨_, onPostfix, rfl, (postfixResult _ onPostfix).2⟩,
    ⟨_, onPrefix, rfl, (prefixResult _ onPrefix).2⟩⟩

end PolishNotation
