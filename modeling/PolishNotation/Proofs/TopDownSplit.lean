/-
This file shows that the conversion splits an expression at its weakest operator.
-/

import PolishNotation.Conversion
import PolishNotation.Proofs.DomainLaws

namespace PolishNotation

/-- The operators of an expression, in order. -/
def signs (expression : List Symbol) : List Operator :=
  expression.filterMap fun
    | .operand _ => none
    | .operator sign => some sign

@[simp] theorem signs_nil : signs [] = [] := rfl

@[simp] theorem signs_cons_operand (operand : Operand) (expression : List Symbol) :
    signs (.operand operand :: expression) = signs expression := rfl

@[simp] theorem signs_cons_operator (sign : Operator) (expression : List Symbol) :
    signs (.operator sign :: expression) = sign :: signs expression := rfl

@[simp] theorem signs_append (first second : List Symbol) :
    signs (first ++ second) = signs first ++ signs second :=
  List.filterMap_append ..

@[simp] theorem signs_map_operator (present : List Operator) :
    signs (present.map .operator) = present := by
  induction present with
  | nil => rfl
  | cons sign rest inductionHypothesis =>
      rw [List.map_cons, signs_cons_operator, inductionHypothesis]

theorem mem_signs {sign : Operator} {expression : List Symbol} :
    sign ∈ signs expression ↔ .operator sign ∈ expression := by
  induction expression with
  | nil => simp
  | cons symbol rest inductionHypothesis => cases symbol <;> simp [inductionHypothesis]

/-- The operands of an expression, in order. -/
def operands (expression : List Symbol) : List Operand :=
  expression.filterMap fun
    | .operand operand => some operand
    | .operator _ => none

@[simp] theorem operands_nil : operands [] = [] := rfl

@[simp] theorem operands_cons_operand (operand : Operand) (expression : List Symbol) :
    operands (.operand operand :: expression) = operand :: operands expression := rfl

@[simp] theorem operands_cons_operator (sign : Operator) (expression : List Symbol) :
    operands (.operator sign :: expression) = operands expression := rfl

@[simp] theorem operands_append (first second : List Symbol) :
    operands (first ++ second) = operands first ++ operands second :=
  List.filterMap_append ..

@[simp] theorem operands_map_operator (present : List Operator) :
    operands (present.map .operator) = [] := by
  induction present with
  | nil => rfl
  | cons sign rest inductionHypothesis =>
      rw [List.map_cons, operands_cons_operator, inductionHypothesis]

theorem mem_operands {operand : Operand} {expression : List Symbol} :
    operand ∈ operands expression ↔ .operand operand ∈ expression := by
  induction expression with
  | nil => simp
  | cons symbol rest inductionHypothesis => cases symbol <;> simp [inductionHypothesis]

theorem takeWhile_append_cons {Item : Type} {keep : Item → Bool} {bottom : Item}
    (stays : keep bottom = false) (upper below : List Item) :
    (upper ++ bottom :: below).takeWhile keep = upper.takeWhile keep := by
  induction upper with
  | nil => simp [stays]
  | cons item rest inductionHypothesis =>
      rw [List.cons_append, List.takeWhile_cons, List.takeWhile_cons, inductionHypothesis]

theorem dropWhile_append_cons {Item : Type} {keep : Item → Bool} {bottom : Item}
    (stays : keep bottom = false) (upper below : List Item) :
    (upper ++ bottom :: below).dropWhile keep = upper.dropWhile keep ++ bottom :: below := by
  induction upper with
  | nil => simp [stays]
  | cons item rest inductionHypothesis =>
      rw [List.cons_append, List.dropWhile_cons, List.dropWhile_cons, inductionHypothesis]
      split <;> rfl

namespace Conversion

variable {rules : Rules}

/-- A conversion on top of earlier output and of operators that wait below. -/
def above (output : Array Symbol) (base : List Operator) (conversion : Conversion) :
    Conversion :=
  ⟨output ++ conversion.output, conversion.pending ++ base⟩

theorem putOut_append (first second : Array Symbol) (operators : List Operator) :
    putOut (first ++ second) operators = first ++ putOut second operators := by
  apply Array.toList_inj.mp
  simp only [toList_putOut, Array.toList_append, List.append_assoc]

/-- Above an operator that does not yield, symbols act as on nothing. -/
theorem read_above {bottom : Operator} {symbol : Symbol}
    (stays : ∀ incoming ∈ signs [symbol], rules.yields incoming bottom = false)
    (output : Array Symbol) (below : List Operator) (conversion : Conversion) :
    read rules (conversion.above output (bottom :: below)) symbol =
      (read rules conversion symbol).above output (bottom :: below) := by
  cases symbol with
  | operand operand => simp only [read, above, Array.append_push]
  | operator incoming =>
      have blocked : rules.yields incoming bottom = false :=
        stays incoming (List.mem_singleton_self _)
      simp only [read, above, takeWhile_append_cons blocked, dropWhile_append_cons blocked,
        putOut_append, List.cons_append]

theorem foldl_read_above {bottom : Operator} {expression : List Symbol}
    (stays : ∀ incoming ∈ signs expression, rules.yields incoming bottom = false)
    (output : Array Symbol) (below : List Operator) (conversion : Conversion) :
    expression.foldl (read rules) (conversion.above output (bottom :: below)) =
      (expression.foldl (read rules) conversion).above output (bottom :: below) := by
  induction expression generalizing conversion with
  | nil => rfl
  | cons symbol rest inductionHypothesis =>
      -- The operator below stays throughout, so it can be kept out of the conversion.
      rw [← List.singleton_append, signs_append] at stays
      have first : ∀ incoming ∈ signs [symbol], rules.yields incoming bottom = false :=
        fun incoming member => stays incoming (List.mem_append_left _ member)
      have others : ∀ incoming ∈ signs rest, rules.yields incoming bottom = false :=
        fun incoming member => stays incoming (List.mem_append_right _ member)
      rw [List.foldl_cons, read_above first, inductionHypothesis others, List.foldl_cons]

/-- Only operators of the expression wait on the stack. -/
theorem mem_pending_foldl {expression : List Symbol} {conversion : Conversion}
    {sign : Operator}
    (member : sign ∈ (expression.foldl (read rules) conversion).pending) :
    sign ∈ conversion.pending ∨ sign ∈ signs expression := by
  induction expression generalizing conversion with
  | nil => exact .inl member
  | cons symbol rest inductionHypothesis =>
      rcases inductionHypothesis member with waiting | later
      · cases symbol with
        | operand operand => exact .inl waiting
        | operator incoming =>
            rcases List.mem_cons.mp waiting with rfl | staying
            · exact .inr (List.mem_cons_self ..)
            · exact .inl ((List.dropWhile_sublist _).subset staying)
      · right
        cases symbol with
        | operand operand => exact later
        | operator incoming => exact List.mem_cons_of_mem _ later

theorem mem_pending_after {expression : List Symbol} {sign : Operator}
    (member : sign ∈ (after rules expression).pending) : sign ∈ signs expression := by
  rcases mem_pending_foldl member with waiting | present
  · cases waiting
  · exact present

/-- An operator to which all others yield empties the stack first. -/
theorem read_operator_of_yields {conversion : Conversion} {incoming : Operator}
    (leaving : ∀ sign ∈ conversion.pending, rules.yields incoming sign = true) :
    read rules conversion (.operator incoming) =
      (⟨#[], []⟩ : Conversion).above (putOut conversion.output conversion.pending)
        [incoming] := by
  have all : conversion.pending.takeWhile (rules.yields incoming) = conversion.pending :=
    List.takeWhile_eq_self_iff.mpr leaving
  have none : conversion.pending.dropWhile (rules.yields incoming) = [] :=
    List.dropWhile_eq_nil_iff.mpr leaving
  simp only [read, above, all, none, Array.append_empty, List.nil_append]

end Conversion

/-- An expression splits at an operator that earlier ones yield to. -/
theorem postfixOrder_split {rules : Rules} {before after : List Symbol} {sign : Operator}
    (leaving : ∀ earlier ∈ signs before, rules.yields sign earlier = true)
    (staying : ∀ later ∈ signs after, rules.yields later sign = false) :
    postfixOrder rules (before ++ .operator sign :: after) =
      postfixOrder rules before ++ (postfixOrder rules after ++ [.operator sign]) := by
  have emptied : Conversion.read rules (Conversion.after rules before) (.operator sign) =
      (⟨#[], []⟩ : Conversion).above (Conversion.putOut (Conversion.after rules before).output
        (Conversion.after rules before).pending) [sign] :=
    Conversion.read_operator_of_yields fun earlier member =>
      leaving earlier (Conversion.mem_pending_after member)
  have state : Conversion.after rules (before ++ .operator sign :: after) =
      (Conversion.after rules after).above
        (Conversion.putOut (Conversion.after rules before).output
          (Conversion.after rules before).pending) [sign] := by
    rw [Conversion.after, List.foldl_append, List.foldl_cons]
    change after.foldl (Conversion.read rules)
      (Conversion.read rules (Conversion.after rules before) (.operator sign)) = _
    rw [emptied, Conversion.foldl_read_above staying]
    rfl
  rw [postfixOrder, state]
  simp only [Conversion.finish_eq, Conversion.above, postfixOrder, Array.toList_append,
    Conversion.toList_putOut, List.map_append, List.map_cons, List.map_nil, List.append_assoc]

/-- Operands are put out as they come. -/
theorem postfixOrder_of_signs_eq_nil (rules : Rules) {expression : List Symbol}
    (plain : signs expression = []) : postfixOrder rules expression = expression := by
  have state (output : Array Symbol) :
      expression.foldl (Conversion.read rules) ⟨output, []⟩ =
        ⟨output ++ expression.toArray, []⟩ := by
    induction expression generalizing output with
    | nil => simp
    | cons symbol rest inductionHypothesis =>
        cases symbol with
        | operator sign => cases plain
        | operand operand =>
            rw [List.foldl_cons, Conversion.read, inductionHypothesis plain]
            simp
  rw [postfixOrder, Conversion.after, Conversion.start, state, Conversion.finish_eq]
  simp

/-- The operators of a text, in order. -/
def operators (text : String) : List Operator := text.toList.filterMap Operator.ofChar?

@[simp] theorem symbols_append (first second : String) :
    symbols (first ++ second) = symbols first ++ symbols second := by
  rw [symbols, String.toList_append, List.filterMap_append]
  rfl

@[simp] theorem operators_append (first second : String) :
    operators (first ++ second) = operators first ++ operators second := by
  rw [operators, String.toList_append, List.filterMap_append]
  rfl

@[simp] theorem symbols_token (sign : Operator) : symbols sign.token = [.operator sign] :=
  symbols_of_token (.operator sign)

@[simp] theorem operators_token (sign : Operator) : operators sign.token = [sign] := by
  rw [operators, Operator.token, String.toList_singleton]
  exact List.filterMap_cons_some (Operator.ofChar?_symbol sign)

/-- No operator is an operand. -/
theorem ofChar?_eq_none_of_isOperand {character : Char} (operand : isOperand character = true) :
    Operator.ofChar? character = none := by
  cases named : Operator.ofChar? character with
  | none => rfl
  | some sign =>
      rw [← Operator.symbol_of_ofChar? named, Symbol.isOperand_symbol] at operand
      cases operand

/-- The noise between the operators of a text is dropped. -/
theorem signs_symbols (text : String) : signs (symbols text) = operators text := by
  unfold symbols operators
  induction text.toList with
  | nil => rfl
  | cons character rest inductionHypothesis =>
      by_cases operand : isOperand character = true
      · have kept : Symbol.ofChar? character = some (.operand ⟨character, operand⟩) :=
          dif_pos operand
        rw [List.filterMap_cons_some kept, signs_cons_operand, inductionHypothesis,
          List.filterMap_cons_none (ofChar?_eq_none_of_isOperand operand)]
      · have kept : Symbol.ofChar? character =
            (Operator.ofChar? character).map .operator := dif_neg operand
        cases named : Operator.ofChar? character with
        | none =>
            rw [named] at kept
            rw [List.filterMap_cons_none kept, inductionHypothesis,
              List.filterMap_cons_none named]
        | some sign =>
            rw [named] at kept
            rw [List.filterMap_cons_some kept, signs_cons_operator, inductionHypothesis,
              List.filterMap_cons_some named]

/-- The noise between the operands of a text is dropped. -/
theorem map_character_operands_symbols (text : String) :
    (operands (symbols text)).map Operand.character = text.toList.filter isOperand := by
  rw [operands, symbols, List.filterMap_filterMap, List.map_filterMap,
    ← List.filterMap_eq_filter]
  congr 1
  funext character
  by_cases operand : isOperand character = true
  · simp [Symbol.ofChar?, operand, Option.guard]
  · cases named : Operator.ofChar? character with
    | none => simp [Symbol.ofChar?, operand, named, Option.guard]
    | some sign => simp [Symbol.ofChar?, operand, named, Option.guard]

/-- An expression without operators is the list of its operands. -/
theorem map_operand_operands {expression : List Symbol} (plain : signs expression = []) :
    (operands expression).map .operand = expression := by
  induction expression with
  | nil => rfl
  | cons symbol rest inductionHypothesis =>
      cases symbol with
      | operand operand => rw [operands_cons_operand, List.map_cons, inductionHypothesis plain]
      | operator sign => cases plain

/-- A text without operators keeps its operands. -/
theorem map_token_symbols {text : String} (plain : operators text = []) :
    (symbols text).map Symbol.token =
      (text.toList.filter isOperand).map String.singleton := by
  have noSign : signs (symbols text) = [] := by rw [signs_symbols, plain]
  rw [← map_operand_operands noSign, List.map_map, ← map_character_operands_symbols,
    List.map_map]
  rfl

/-- The root is the last weakest operator, or the first of right-associative powers. -/
structure IsRoot (rules : Rules) (text before : String) (sign : Operator) (after : String) :
    Prop where
  cut : text = before ++ sign.token ++ after
  weakest : ∀ other ∈ operators text, sign.precedence ≤ other.precedence
  last : ¬(rules.rightAssociativePower = true ∧ sign.precedence = 3) →
    ∀ other ∈ operators after, other.precedence ≠ sign.precedence
  first : rules.rightAssociativePower = true ∧ sign.precedence = 3 →
    ∀ other ∈ operators before, other.precedence ≠ 3

theorem precedence_le_three (sign : Operator) : sign.precedence ≤ 3 := by
  cases sign <;> decide

theorem eq_power_iff (sign : Operator) : sign = .power ↔ sign.precedence = 3 := by
  cases sign <;> decide

/-- Under the right-associative rule powers compare strictly. -/
theorem yields_eq_true_iff (rules : Rules) (incoming pending : Operator) :
    rules.yields incoming pending = true ↔
      incoming.precedence ≤ pending.precedence ∧
        ¬(rules.rightAssociativePower = true ∧ incoming.precedence = 3) := by
  have bound := precedence_le_three pending
  unfold Rules.yields
  by_cases right : rules.rightAssociativePower = true
  · by_cases power : incoming = .power
    · have strongest := (eq_power_iff incoming).mp power
      simp only [right, power, beq_self_eq_true, Bool.and_self, if_true, decide_eq_true_eq,
        true_and]
      rw [← power, strongest]
      omega
    · have weaker := mt (eq_power_iff incoming).mpr power
      simp [right, power, weaker]
  · simp [right]

theorem IsRoot.leaving {rules : Rules} {text before after : String} {sign : Operator}
    (root : IsRoot rules text before sign after) :
    ∀ earlier ∈ operators before, rules.yields sign earlier = true := by
  intro earlier member
  have present : earlier ∈ operators text := by
    rw [root.cut]
    simp [member]
  have weak := root.weakest earlier present
  refine (yields_eq_true_iff rules sign earlier).mpr ⟨weak, ?_⟩
  intro rightPower
  have bound := precedence_le_three earlier
  have strong := root.first rightPower earlier member
  omega

theorem IsRoot.staying {rules : Rules} {text before after : String} {sign : Operator}
    (root : IsRoot rules text before sign after) :
    ∀ later ∈ operators after, rules.yields later sign = false := by
  intro later member
  have present : later ∈ operators text := by
    rw [root.cut]
    simp [member]
  have weak := root.weakest later present
  rw [Bool.eq_false_iff, Ne, yields_eq_true_iff]
  intro yielding
  obtain ⟨below, notPower⟩ := yielding
  have same : later.precedence = sign.precedence := Nat.le_antisymm below weak
  rw [same] at notPower
  exact root.last notPower later member same

/-- A kind that occurs in a list has a last item there. -/
theorem exists_last {Item : Type} {kind : Item → Prop} {items : List Item}
    (some_item : ∃ item ∈ items, kind item) :
    ∃ before item after, items = before ++ item :: after ∧ kind item ∧
      ∀ other ∈ after, ¬kind other := by
  induction items with
  | nil => simp at some_item
  | cons item rest inductionHypothesis =>
      by_cases later : ∃ other ∈ rest, kind other
      · obtain ⟨before, found, after, rfl, isKind, none⟩ := inductionHypothesis later
        exact ⟨item :: before, found, after, rfl, isKind, none⟩
      · have here : kind item := by
          obtain ⟨other, member, isKind⟩ := some_item
          rcases List.mem_cons.mp member with rfl | member
          · exact isKind
          · exact absurd ⟨other, member, isKind⟩ later
        exact ⟨[], item, rest, rfl, here, fun other member isKind => later ⟨other, member, isKind⟩⟩

theorem exists_first {Item : Type} {kind : Item → Prop} {items : List Item}
    (some_item : ∃ item ∈ items, kind item) :
    ∃ before item after, items = before ++ item :: after ∧ kind item ∧
      ∀ other ∈ before, ¬kind other := by
  have reversed : ∃ item ∈ items.reverse, kind item := by
    simpa only [List.mem_reverse] using some_item
  obtain ⟨before, item, after, same, isKind, none⟩ := exists_last reversed
  refine ⟨after.reverse, item, before.reverse, ?_, isKind, ?_⟩
  · rw [← List.reverse_reverse items, same]
    simp
  · intro other member
    exact none other (List.mem_reverse.mp member)

/-- Among several operators one is the weakest. -/
theorem exists_weakest {present : List Operator} (some_sign : present ≠ []) :
    ∃ sign ∈ present, ∀ other ∈ present, sign.precedence ≤ other.precedence := by
  have nonempty : present.toFinset.Nonempty := by
    rwa [List.toFinset_nonempty_iff]
  obtain ⟨sign, member, least⟩ :=
    Finset.exists_min_image present.toFinset Operator.precedence nonempty
  refine ⟨sign, List.mem_toFinset.mp member, ?_⟩
  intro other otherMember
  exact least other (List.mem_toFinset.mpr otherMember)

theorem mem_operators_ofList {characters : List Char} {sign : Operator} :
    sign ∈ operators (String.ofList characters) ↔
      ∃ character ∈ characters, Operator.ofChar? character = some sign := by
  rw [operators, String.toList_ofList, List.mem_filterMap]

theorem cut_of_toList {text : String} {before after : List Char} {character : Char}
    {sign : Operator} (split : text.toList = before ++ character :: after)
    (named : Operator.ofChar? character = some sign) :
    text = String.ofList before ++ sign.token ++ String.ofList after := by
  apply String.toList_inj.mp
  rw [split, ← Operator.symbol_of_ofChar? named]
  simp [Operator.token]

/-- Every text with an operator has a root. -/
theorem exists_isRoot (rules : Rules) {text : String} (some_sign : operators text ≠ []) :
    ∃ before sign after, IsRoot rules text before sign after := by
  obtain ⟨weakest, member, least⟩ := exists_weakest some_sign
  let kind (character : Char) : Prop :=
    ∃ sign, Operator.ofChar? character = some sign ∧ sign.precedence = weakest.precedence
  have occurs : ∃ character ∈ text.toList, kind character := by
    obtain ⟨character, inText, named⟩ := List.mem_filterMap.mp member
    exact ⟨character, inText, weakest, named, rfl⟩
  by_cases rightPower : rules.rightAssociativePower = true ∧ weakest.precedence = 3
  · obtain ⟨before, character, after, split, ⟨sign, named, same⟩, none⟩ := exists_first occurs
    refine ⟨String.ofList before, sign, String.ofList after, cut_of_toList split named, ?_, ?_, ?_⟩
    · rwa [same]
    · intro notPower
      rw [same] at notPower
      exact absurd rightPower notPower
    · intro _ other otherMember strong
      obtain ⟨place, inBefore, otherNamed⟩ := mem_operators_ofList.mp otherMember
      exact none place inBefore ⟨other, otherNamed, strong.trans rightPower.2.symm⟩
  · obtain ⟨before, character, after, split, ⟨sign, named, same⟩, none⟩ := exists_last occurs
    refine ⟨String.ofList before, sign, String.ofList after, cut_of_toList split named, ?_, ?_, ?_⟩
    · rwa [same]
    · intro _ other otherMember strong
      obtain ⟨place, inAfter, otherNamed⟩ := mem_operators_ofList.mp otherMember
      exact none place inAfter ⟨other, otherNamed, strong.trans same⟩
    · intro power
      rw [same] at power
      exact absurd power rightPower

/-- The conversion in one pass is the conversion from the top down. -/
theorem toPostfix_from_root (rules : Rules) (text : String) :
    (operators text = [] →
      (toPostfix rules text).toList =
        (text.toList.filter isOperand).map String.singleton) ∧
      (operators text ≠ [] → ∃ before sign after, IsRoot rules text before sign after) ∧
      ∀ before sign after, IsRoot rules text before sign after →
        (toPostfix rules text).toList =
          (toPostfix rules before).toList ++ (toPostfix rules after).toList ++
            [String.singleton sign.symbol] := by
  refine ⟨?_, exists_isRoot rules, ?_⟩
  · intro plain
    have noSign : signs (symbols text) = [] := by rw [signs_symbols, plain]
    rw [toList_toPostfix, postfixOrder_of_signs_eq_nil rules noSign, map_token_symbols plain]
  · intro before sign after root
    have leaving := root.leaving
    have staying := root.staying
    rw [← signs_symbols] at leaving staying
    have read : symbols text = symbols before ++ .operator sign :: symbols after := by
      rw [root.cut, symbols_append, symbols_append, symbols_token, List.append_assoc]
      rfl
    simp only [toList_toPostfix, read, postfixOrder_split leaving staying, List.map_append,
      List.append_assoc]
    rfl

/-- With powers to the right the first power is the root. -/
theorem toPostfix_from_root_of_powers :
    IsRoot ⟨true⟩ "2^(3 ^ 2)" "2" .power "(3 ^ 2)" ∧
      (toPostfix ⟨true⟩ "2^(3 ^ 2)").toList =
        (toPostfix ⟨true⟩ "2").toList ++ (toPostfix ⟨true⟩ "(3 ^ 2)").toList ++ ["^"] := by
  have root : IsRoot ⟨true⟩ "2^(3 ^ 2)" "2" .power "(3 ^ 2)" := by
    refine ⟨by decide, ?_, ?_, ?_⟩
    · decide
    · decide
    · decide
  exact ⟨root, (toPostfix_from_root ⟨true⟩ "2^(3 ^ 2)").2.2 _ _ _ root⟩

end PolishNotation
