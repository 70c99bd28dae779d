import PolishNotation.Proofs.DisciplinedTree

namespace PolishNotation

namespace Rules

/-- An operator overtakes an earlier one that binds no less tightly. -/
def Overtakes (rules : Rules) (incoming earlier : Operator) : Prop :=
  incoming.precedence ≤ earlier.precedence ∧
    ¬(rules.rightAssociativePower = true ∧ incoming = .power)

instance (rules : Rules) (incoming earlier : Operator) :
    Decidable (rules.Overtakes incoming earlier) :=
  inferInstanceAs (Decidable (_ ∧ _))

theorem overtakes_iff_yields (rules : Rules) (incoming earlier : Operator) :
    rules.Overtakes incoming earlier ↔ rules.yields incoming earlier = true := by
  rw [yields_eq_true_iff, Overtakes, eq_power_iff]

/-- Where an operator stays below another one, it binds no more tightly. -/
theorem precedence_le_of_stays {rules : Rules} {upper lower : Operator}
    (stays : rules.yields upper lower = false) : lower.precedence ≤ upper.precedence := by
  rw [Bool.eq_false_iff, Ne, yields_eq_true_iff] at stays
  have bound := precedence_le_three lower
  omega

end Rules

/-- The operators that no later one overtakes, in order. -/
def waiting (rules : Rules) : List Operator → List Operator
  | [] => []
  | sign :: later =>
      if ∃ incoming ∈ later, rules.Overtakes incoming sign then
        waiting rules later
      else
        sign :: waiting rules later

/-- The operators that a later one overtakes, in order. -/
def overtaken (rules : Rules) : List Operator → List Operator
  | [] => []
  | sign :: later =>
      if ∃ incoming ∈ later, rules.Overtakes incoming sign then
        sign :: overtaken rules later
      else
        overtaken rules later

theorem length_overtaken_add_waiting (rules : Rules) (present : List Operator) :
    (overtaken rules present).length + (waiting rules present).length = present.length := by
  induction present with
  | nil => rfl
  | cons sign later inductionHypothesis =>
      rw [overtaken, waiting, List.length_cons, ← inductionHypothesis]
      split
      · rw [List.length_cons]
        omega
      · rw [List.length_cons]
        omega

/-- A further operator waits, and those that it overtakes wait no longer. -/
theorem waiting_concat (rules : Rules) (present : List Operator) (incoming : Operator) :
    waiting rules (present ++ [incoming]) =
      (waiting rules present).filter (fun sign => !rules.yields incoming sign) ++ [incoming] := by
  induction present with
  | nil => simp [waiting]
  | cons sign later inductionHypothesis =>
      rw [List.cons_append, waiting, waiting, inductionHypothesis]
      by_cases before : ∃ other ∈ later, rules.Overtakes other sign
      · have still : ∃ other ∈ later ++ [incoming], rules.Overtakes other sign := by
          obtain ⟨other, member, overtakes⟩ := before
          exact ⟨other, List.mem_append_left _ member, overtakes⟩
        rw [if_pos before, if_pos still]
      · rw [if_neg before]
        by_cases overtakes : rules.Overtakes incoming sign
        · rw [if_pos ⟨incoming, by simp, overtakes⟩, List.filter_cons_of_neg]
          rw [(rules.overtakes_iff_yields incoming sign).mp overtakes]
          decide
        · have stays : rules.yields incoming sign = false := by
            rwa [rules.overtakes_iff_yields, Bool.not_eq_true] at overtakes
          rw [if_neg, List.filter_cons_of_pos (by rw [stays]; rfl), List.cons_append]
          rintro ⟨other, member, passes⟩
          rcases List.mem_append.mp member with inLater | last
          · exact before ⟨other, inLater, passes⟩
          · exact overtakes (List.mem_singleton.mp last ▸ passes)

namespace Conversion

variable {rules : Rules}

theorem after_concat (rules : Rules) (expression : List Symbol) (symbol : Symbol) :
    after rules (expression ++ [symbol]) = read rules (after rules expression) symbol := by
  rw [after, List.foldl_append]
  rfl

/-- Each operator on the stack has let the operators below it stay. -/
def Ordered (rules : Rules) (pending : List Operator) : Prop :=
  pending.Pairwise fun upper lower => rules.yields upper lower = false

/-- Of an ordered stack exactly the operators leave that the incoming one overtakes. -/
theorem Ordered.dropWhile_eq_filter {pending : List Operator} (ordered : Ordered rules pending)
    (incoming : Operator) :
    pending.dropWhile (rules.yields incoming) =
      pending.filter fun sign => !rules.yields incoming sign := by
  induction pending with
  | nil => rfl
  | cons top below inductionHypothesis =>
      obtain ⟨above, ordered⟩ := List.pairwise_cons.mp ordered
      cases leaves : rules.yields incoming top with
      | true =>
          rw [List.dropWhile_cons_of_pos leaves, List.filter_cons_of_neg (by simp [leaves]),
            inductionHypothesis ordered]
      | false =>
          -- Nothing below binds more tightly than the top, so nothing below leaves.
          have stay : ∀ sign ∈ below, (!rules.yields incoming sign) = true := by
            intro sign member
            rw [Bool.not_eq_true', Bool.eq_false_iff]
            intro overtakes
            have order := Rules.precedence_le_of_stays (above sign member)
            rw [Rules.yields_of_stronger_pending order overtakes] at leaves
            cases leaves
          rw [List.dropWhile_cons_of_neg (by simp [leaves]),
            List.filter_cons_of_pos (by simp [leaves]), List.filter_eq_self.mpr stay]

theorem Ordered.read {conversion : Conversion} (ordered : Ordered rules conversion.pending)
    (symbol : Symbol) : Ordered rules (read rules conversion symbol).pending := by
  cases symbol with
  | operand operand => exact ordered
  | operator incoming =>
      refine List.Pairwise.cons ?_ (ordered.sublist (List.dropWhile_sublist _))
      intro lower member
      rw [ordered.dropWhile_eq_filter, List.mem_filter, Bool.not_eq_true'] at member
      exact member.2

theorem ordered_pending_after (rules : Rules) (expression : List Symbol) :
    Ordered rules (after rules expression).pending := by
  induction expression using List.reverseRecOn with
  | nil => exact List.Pairwise.nil
  | append_singleton expression symbol inductionHypothesis =>
      rw [after_concat]
      exact inductionHypothesis.read symbol

/-- The operators that are not overtaken wait, the latest one on top. -/
theorem pending_after (rules : Rules) (expression : List Symbol) :
    (after rules expression).pending = (waiting rules (signs expression)).reverse := by
  induction expression using List.reverseRecOn with
  | nil => rfl
  | append_singleton expression symbol inductionHypothesis =>
      rw [after_concat, signs_append]
      cases symbol with
      | operand operand =>
          rw [signs_cons_operand, signs_nil, List.append_nil]
          exact inductionHypothesis
      | operator incoming =>
          have kept := (ordered_pending_after rules expression).dropWhile_eq_filter incoming
          rw [signs_cons_operator, signs_nil, waiting_concat, List.reverse_append,
            ← List.filter_reverse, ← inductionHypothesis, ← kept]
          rfl

/-- The operands are put out in their order. -/
theorem operands_output_after (rules : Rules) (expression : List Symbol) :
    operands (after rules expression).output.toList = operands expression := by
  induction expression using List.reverseRecOn with
  | nil => rfl
  | append_singleton expression symbol inductionHypothesis =>
      rw [after_concat, operands_append]
      cases symbol with
      | operand operand =>
          rw [read, Array.toList_push, operands_append, inductionHypothesis]
      | operator incoming =>
          rw [read, toList_putOut, operands_append, inductionHypothesis, operands_map_operator]
          rfl

/-- No operator is lost: it is put out or it waits. -/
theorem length_signs_output_after (rules : Rules) (expression : List Symbol) :
    (signs (after rules expression).output.toList).length +
      (after rules expression).pending.length = (signs expression).length := by
  induction expression using List.reverseRecOn with
  | nil => rfl
  | append_singleton expression symbol inductionHypothesis =>
      rw [after_concat, signs_append, List.length_append, ← inductionHypothesis]
      cases symbol with
      | operand operand =>
          simp only [read, Array.toList_push, signs_append, signs_cons_operand, signs_nil,
            List.append_nil, List.length_nil, Nat.add_zero]
      | operator incoming =>
          have moved := congrArg List.length
            (List.takeWhile_append_dropWhile (p := rules.yields incoming)
              (l := (after rules expression).pending))
          rw [List.length_append] at moved
          rw [read, toList_putOut, signs_append, List.length_append, signs_map_operator,
            List.length_cons, signs_cons_operator, signs_nil, List.length_singleton]
          omega

/-- Exactly the overtaken operators have been put out. -/
theorem length_signs_output_eq (rules : Rules) (expression : List Symbol) :
    (signs (after rules expression).output.toList).length =
      (overtaken rules (signs expression)).length := by
  have conserved := length_signs_output_after rules expression
  have parted := length_overtaken_add_waiting rules (signs expression)
  rw [pending_after, List.length_reverse] at conserved
  omega

end Conversion

/-- The conversion keeps the operands in their order. -/
theorem operands_postfixOrder (rules : Rules) (expression : List Symbol) :
    operands (postfixOrder rules expression) = operands expression := by
  rw [postfixOrder, Conversion.finish_eq, operands_append, Conversion.operands_output_after,
    operands_map_operator, List.append_nil]

/-- The conversion keeps the number of operators. -/
theorem length_signs_postfixOrder (rules : Rules) (expression : List Symbol) :
    (signs (postfixOrder rules expression)).length = (signs expression).length := by
  rw [postfixOrder, Conversion.finish_eq, signs_append, List.length_append, signs_map_operator,
    Conversion.length_signs_output_after]

end PolishNotation
