import Mathlib.Logic.Relation
import PolishNotation.Proofs.PendingOperators

namespace PolishNotation

namespace Rules

/-- An operator stands on a weaker one, or as a power on a power. -/
theorem stays_iff (rules : Rules) (upper lower : Operator) :
    rules.yields upper lower = false ↔
      lower.precedence < upper.precedence ∨
        rules.rightAssociativePower = true ∧ lower = .power ∧ upper = .power := by
  have bound := precedence_le_three upper
  have limit := precedence_le_three lower
  rw [Bool.eq_false_iff, Ne, yields_eq_true_iff, eq_power_iff, eq_power_iff]
  cases rules.rightAssociativePower with
  | true =>
      simp only [true_and]
      omega
  | false =>
      simp only [Bool.false_eq_true, false_and, not_false_eq_true, and_true, or_false]
      omega

end Rules

/-- The state of the conversion before the characters that are left. -/
structure ScanPoint where
  unread : List Char
  conversion : Conversion

namespace ScanPoint

def start (text : String) : ScanPoint := ⟨text.toList, Conversion.start⟩

/-- The operators on the stack from the bottom to the top. -/
def stack (point : ScanPoint) : List Operator := point.conversion.pending.reverse

end ScanPoint

variable {rules : Rules}

/-- A pending operator leaves, a character is read or the stack is emptied. -/
inductive Advances (rules : Rules) : ScanPoint → ScanPoint → Prop
  | skip {character : Char} {unread : List Char} {conversion : Conversion}
      (noise : Symbol.ofChar? character = none) :
      Advances rules ⟨character :: unread, conversion⟩ ⟨unread, conversion⟩
  | putOut {character : Char} {unread : List Char} {output : Array Symbol}
      {pending : List Operator} {operand : Operand}
      (known : Symbol.ofChar? character = some (.operand operand)) :
      Advances rules ⟨character :: unread, ⟨output, pending⟩⟩
        ⟨unread, ⟨output.push (.operand operand), pending⟩⟩
  | leave {character : Char} {unread : List Char} {output : Array Symbol} {incoming top : Operator}
      {below : List Operator} (known : Symbol.ofChar? character = some (.operator incoming))
      (leaves : rules.yields incoming top = true) :
      Advances rules ⟨character :: unread, ⟨output, top :: below⟩⟩
        ⟨character :: unread, ⟨output.push (.operator top), below⟩⟩
  | arrive {character : Char} {unread : List Char} {output : Array Symbol}
      {pending : List Operator} {incoming : Operator}
      (known : Symbol.ofChar? character = some (.operator incoming))
      (stays : ∀ top ∈ pending.head?, rules.yields incoming top = false) :
      Advances rules ⟨character :: unread, ⟨output, pending⟩⟩
        ⟨unread, ⟨output, incoming :: pending⟩⟩
  | empty {output : Array Symbol} {top : Operator} {below : List Operator} :
      Advances rules ⟨[], ⟨output, top :: below⟩⟩ ⟨[], ⟨output.push (.operator top), below⟩⟩

/-- A point is passed if some moves lead to it. -/
def Passes (rules : Rules) : ScanPoint → ScanPoint → Prop :=
  Relation.ReflTransGen (Advances rules)

namespace Conversion

/-- What lets the top of an ordered stack stay lets all of it stay. -/
theorem Ordered.cons {pending : List Operator} {incoming : Operator}
    (ordered : Ordered rules pending)
    (stays : ∀ top ∈ pending.head?, rules.yields incoming top = false) :
    Ordered rules (incoming :: pending) := by
  refine List.Pairwise.cons ?_ ordered
  intro lower member
  cases pending with
  | nil => cases member
  | cons top below =>
      have first : rules.yields incoming top = false := stays top rfl
      rcases List.mem_cons.mp member with rfl | deeper
      · exact first
      · have order := Rules.precedence_le_of_stays (List.rel_of_pairwise_cons ordered deeper)
        rw [Bool.eq_false_iff] at first ⊢
        exact fun leaves => first (Rules.yields_of_stronger_pending order leaves)

/-- No move disturbs the order of the stack. -/
theorem Ordered.advances {point next : ScanPoint}
    (ordered : Ordered rules point.conversion.pending) (move : Advances rules point next) :
    Ordered rules next.conversion.pending := by
  cases move with
  | skip noise => exact ordered
  | putOut known => exact ordered
  | leave known leaves => exact ordered.of_cons
  | arrive known stays => exact ordered.cons stays
  | empty => exact ordered.of_cons

theorem Ordered.passes {point next : ScanPoint}
    (ordered : Ordered rules point.conversion.pending) (moves : Passes rules point next) :
    Ordered rules next.conversion.pending := by
  induction moves with
  | refl => exact ordered
  | tail _ move inductionHypothesis => exact inductionHypothesis.advances move

end Conversion

namespace Passes

/-- The operators that yield to the incoming one leave one after the other. -/
theorem leaveAll {character : Char} {incoming : Operator}
    (known : Symbol.ofChar? character = some (.operator incoming)) (unread : List Char)
    (output : Array Symbol) {leaving : List Operator} (staying : List Operator)
    (leave : ∀ top ∈ leaving, rules.yields incoming top = true) :
    Passes rules ⟨character :: unread, ⟨output, leaving ++ staying⟩⟩
      ⟨character :: unread, ⟨Conversion.putOut output leaving, staying⟩⟩ := by
  induction leaving generalizing output with
  | nil => exact .refl
  | cons top below inductionHypothesis =>
      obtain ⟨first, others⟩ := List.forall_mem_cons.mp leave
      exact .head (.leave known first) (inductionHypothesis _ others)

/-- A top that yields to the incoming operator leaves next. -/
theorem leaveTop {point : ScanPoint} {character : Char} {unread : List Char}
    {conversion : Conversion} {incoming top : Operator} {below : List Operator}
    (moves : Passes rules point ⟨character :: unread, conversion⟩)
    (known : Symbol.ofChar? character = some (.operator incoming))
    (waiting : conversion.pending = top :: below) (leaves : rules.yields incoming top = true) :
    ∃ output, Passes rules point ⟨character :: unread, ⟨output, below⟩⟩ := by
  obtain ⟨output, pending⟩ := conversion
  obtain rfl : pending = top :: below := waiting
  exact ⟨output.push (.operator top), .tail moves (.leave known leaves)⟩

theorem emptyAll (output : Array Symbol) (pending : List Operator) :
    Passes rules ⟨[], ⟨output, pending⟩⟩ ⟨[], ⟨Conversion.putOut output pending, []⟩⟩ := by
  induction pending generalizing output with
  | nil => exact .refl
  | cons top below inductionHypothesis => exact .head .empty (inductionHypothesis _)

/-- The moves at an operator are the reading of this operator. -/
theorem readOperator {character : Char} {incoming : Operator}
    (known : Symbol.ofChar? character = some (.operator incoming)) (unread : List Char)
    (conversion : Conversion) :
    Passes rules ⟨character :: unread, conversion⟩
      ⟨unread, conversion.read rules (.operator incoming)⟩ := by
  obtain ⟨output, pending⟩ := conversion
  have cut := List.takeWhile_append_dropWhile (p := rules.yields incoming) (l := pending)
  have leave : ∀ top ∈ pending.takeWhile (rules.yields incoming),
      rules.yields incoming top = true := fun top member => List.mem_takeWhile_imp member
  have stays : ∀ top ∈ (pending.dropWhile (rules.yields incoming)).head?,
      rules.yields incoming top = false := by
    intro top first
    have kept := List.head?_dropWhile_not (rules.yields incoming) pending
    rw [Option.mem_def.mp first] at kept
    exact kept
  have left := leaveAll known unread output (pending.dropWhile (rules.yields incoming)) leave
  rw [cut] at left
  exact .tail left (.arrive known stays)

/-- The scan passes through the state after each part of the text. -/
theorem readAll (read unread : List Char) (conversion : Conversion) :
    Passes rules ⟨read ++ unread, conversion⟩
      ⟨unread, (read.filterMap Symbol.ofChar?).foldl (Conversion.read rules) conversion⟩ := by
  induction read generalizing conversion with
  | nil => exact .refl
  | cons character rest inductionHypothesis =>
      cases known : Symbol.ofChar? character with
      | none =>
          rw [List.filterMap_cons_none known]
          exact .head (.skip known) (inductionHypothesis conversion)
      | some symbol =>
          rw [List.filterMap_cons_some known, List.foldl_cons]
          cases symbol with
          | operand operand => exact .head (.putOut known) (inductionHypothesis _)
          | operator incoming =>
              exact (readOperator known (rest ++ unread) conversion).trans (inductionHypothesis _)

theorem after (rules : Rules) (read unread : String) :
    Passes rules (.start (read ++ unread))
      ⟨unread.toList, Conversion.after rules (symbols read)⟩ := by
  rw [ScanPoint.start, String.toList_append]
  exact readAll read.toList unread.toList Conversion.start

/-- The scan ends with an empty stack and the postfix order. -/
theorem finish (rules : Rules) (text : String) :
    Passes rules (.start text) ⟨[], ⟨(postfixOrder rules (symbols text)).toArray, []⟩⟩ := by
  have read := Passes.after rules text ""
  rw [String.append_empty] at read
  exact read.trans (emptyAll _ _)

end Passes

/-- The latest operator read is on top of the stack. -/
theorem Conversion.head?_pending_after (rules : Rules) (expression : List Symbol) :
    (after rules expression).pending.head? = (signs expression).getLast? := by
  induction expression using List.reverseRecOn with
  | nil => rfl
  | append_singleton expression symbol inductionHypothesis =>
      rw [after_concat, signs_append]
      cases symbol with
      | operand operand =>
          rw [signs_cons_operand, signs_nil, List.append_nil]
          exact inductionHypothesis
      | operator incoming => rw [signs_cons_operator, signs_nil, List.getLast?_concat]; rfl

/-- The scan of a text keeps the stack ordered from its start on. -/
theorem ScanPoint.pairwise_stack {text : String} {point : ScanPoint}
    (moves : Passes rules (.start text) point) :
    point.stack.Pairwise fun lower upper => rules.yields upper lower = false := by
  have ordered : Conversion.Ordered rules (start text).conversion.pending := List.Pairwise.nil
  exact List.pairwise_reverse.mpr (ordered.passes moves)

/-- Operators of growing precedence are three at most. -/
theorem length_le_three_of_ascending {stack : List Operator}
    (ascending : stack.Pairwise fun lower upper => lower.precedence < upper.precedence) :
    stack.length ≤ 3 := by
  have distinct : (stack.map Operator.precedence).Nodup :=
    (List.pairwise_map.mpr ascending).imp Nat.ne_of_lt
  have known : stack.map Operator.precedence ⊆ [1, 2, 3] := by
    intro precedence member
    obtain ⟨sign, -, rfl⟩ := List.mem_map.mp member
    cases sign <;> decide
  have bound := (distinct.subperm known).length_le
  rwa [List.length_map] at bound

/-- Precedences ascend on the stack at every point of a scan. -/
theorem stacks_ascend_throughout_scans (rules : Rules) (text : String) :
    (∀ point, Passes rules (.start text) point →
      (rules.rightAssociativePower = false →
        (point.stack.Pairwise fun lower upper => lower.precedence < upper.precedence) ∧
          point.stack.length ≤ 3) ∧
      (rules.rightAssociativePower = true →
        point.stack.Pairwise fun lower upper =>
          lower.precedence < upper.precedence ∨ lower = .power ∧ upper = .power)) ∧
      (∀ read unread, text = read ++ unread →
        let point : ScanPoint := ⟨unread.toList, Conversion.after rules (symbols read)⟩
        Passes rules (.start text) point ∧
          point.stack.getLast? = (signs (symbols read)).getLast?) ∧
      Passes rules (.start text) ⟨[], ⟨(postfixOrder rules (symbols text)).toArray, []⟩⟩ := by
  refine ⟨fun point moves => ⟨fun standard => ?_, fun right => ?_⟩, ?_, .finish rules text⟩
  · have ascending : point.stack.Pairwise fun lower upper =>
        lower.precedence < upper.precedence := by
      refine (ScanPoint.pairwise_stack moves).imp fun stays => ?_
      simpa [standard] using (rules.stays_iff _ _).mp stays
    exact ⟨ascending, length_le_three_of_ascending ascending⟩
  · refine (ScanPoint.pairwise_stack moves).imp fun stays => ?_
    simpa [right] using (rules.stays_iff _ _).mp stays
  · rintro read unread rfl
    refine ⟨.after rules read unread, ?_⟩
    rw [ScanPoint.stack, List.getLast?_reverse, Conversion.head?_pending_after]

/-- A difference sends the last power off the stack before the other operators. -/
theorem stacks_ascend_throughout_scans_before_difference :
    (∃ output, Passes .standard (.start "1+2*3^4-5") ⟨['-', '5'], ⟨output, [.times, .plus]⟩⟩ ∧
      [Operator.plus, .times].Pairwise fun lower upper => lower.precedence < upper.precedence) ∧
      ∃ output, Passes ⟨true⟩ (.start "1*2^3^4-5") ⟨['-', '5'], ⟨output, [.power, .times]⟩⟩ ∧
        [Operator.times, .power].Pairwise fun lower upper =>
          lower.precedence < upper.precedence ∨ lower = .power ∧ upper = .power := by
  have difference : Symbol.ofChar? '-' = some (.operator .minus) := by decide +kernel
  constructor
  · obtain ⟨shape, boundary, -⟩ := stacks_ascend_throughout_scans .standard "1+2*3^4-5"
    obtain ⟨passed, -⟩ := boundary "1+2*3^4" "-5" (by decide +kernel)
    have waiting : (Conversion.after .standard (symbols "1+2*3^4")).pending =
        [.power, .times, .plus] := by decide +kernel
    obtain ⟨output, left⟩ := passed.leaveTop difference waiting (by decide)
    exact ⟨output, left, ((shape _ left).1 rfl).1⟩
  · obtain ⟨shape, boundary, -⟩ := stacks_ascend_throughout_scans ⟨true⟩ "1*2^3^4-5"
    obtain ⟨passed, -⟩ := boundary "1*2^3^4" "-5" (by decide +kernel)
    have waiting : (Conversion.after ⟨true⟩ (symbols "1*2^3^4")).pending =
        [.power, .power, .times] := by decide +kernel
    obtain ⟨output, left⟩ := passed.leaveTop difference waiting (by decide)
    exact ⟨output, left, (shape _ left).2 rfl⟩

end PolishNotation
