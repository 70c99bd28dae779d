import PolishNotation.Proofs.InfixOutcome
import PolishNotation.Proofs.PendingOperators

namespace PolishNotation

/-- A symbol is put in behind all operands that have been read. -/
theorem Conversion.exists_finish_read (rules : Rules) (conversion : Conversion)
    (symbol : Symbol) :
    ∃ (front : List Symbol) (back : List Operator),
      conversion.finish = front ++ back.map .operator ∧
        (read rules conversion symbol).finish = front ++ symbol :: back.map .operator := by
  cases symbol with
  | operand operand =>
      refine ⟨conversion.output.toList, conversion.pending, finish_eq conversion, ?_⟩
      rw [read, finish_eq, Array.toList_push, List.append_assoc, List.singleton_append]
  | operator incoming =>
      refine ⟨conversion.output.toList ++
        (conversion.pending.takeWhile (rules.yields incoming)).map .operator,
        conversion.pending.dropWhile (rules.yields incoming), ?_, ?_⟩
      · rw [finish_eq, List.append_assoc, ← List.map_append, List.takeWhile_append_dropWhile]
      · rw [read, finish_eq, toList_putOut, List.map_cons]

/-- Each character has a token of its own, operands before later characters. -/
structure Placement (characters : List Char) (tokens : List String) where
  place : Fin characters.length ≃ Fin tokens.length
  same : ∀ index, tokens[place index] = String.singleton characters[index]
  forward : ∀ earlier later, earlier < later → isOperand characters[earlier] = true →
    place earlier < place later

/-- Every symbol stands once with its place, operands before later symbols. -/
structure Arranges (expression : List Symbol) (placed : List (Symbol × Nat)) : Prop where
  perm : placed.Perm expression.zipIdx
  forward : placed.Pairwise fun front back =>
    isOperand back.1.character = true → front.2 < back.2

namespace Arranges

variable {expression : List Symbol} {placed front back : List (Symbol × Nat)}

theorem nil : Arranges [] [] := ⟨.nil, .nil⟩

theorem getElem?_of_mem (arranges : Arranges expression placed) {item : Symbol × Nat}
    (member : item ∈ placed) : expression[item.2]? = some item.1 :=
  List.mem_zipIdx_iff_getElem?.mp (arranges.perm.mem_iff.mp member)

theorem place_lt (arranges : Arranges expression placed) {item : Symbol × Nat}
    (member : item ∈ placed) : item.2 < expression.length :=
  (List.getElem?_eq_some_iff.mp (arranges.getElem?_of_mem member)).1

theorem length_eq (arranges : Arranges expression placed) :
    placed.length = expression.length := by
  rw [arranges.perm.length_eq, List.length_zipIdx]

/-- A further symbol may stand before operators. -/
theorem insert (arranges : Arranges expression (front ++ back))
    (operators : ∀ item ∈ back, isOperand item.1.character = false) (symbol : Symbol) :
    Arranges (expression ++ [symbol]) (front ++ (symbol, expression.length) :: back) where
  perm := by
    rw [List.zipIdx_append, List.zipIdx_singleton, Nat.zero_add]
    exact List.perm_middle.trans
      ((arranges.perm.cons _).trans (List.perm_append_singleton _ _).symm)
  forward := by
    obtain ⟨inFront, inBack, between⟩ := List.pairwise_append.mp arranges.forward
    refine List.pairwise_append.mpr ⟨inFront, List.pairwise_cons.mpr ⟨?_, inBack⟩, ?_⟩
    · intro item member operand
      rw [operators item member] at operand
      cases operand
    · intro item member other otherMember operand
      rcases List.mem_cons.mp otherMember with rfl | inBack
      · exact arranges.place_lt (List.mem_append_left _ member)
      · exact between item member other inBack operand

/-- The place in the expression that an item of the arrangement comes from. -/
def origin (arranges : Arranges expression placed) (index : Fin placed.length) :
    Fin expression.length :=
  ⟨placed[index].2, arranges.place_lt (List.getElem_mem _)⟩

theorem getElem_origin (arranges : Arranges expression placed) (index : Fin placed.length) :
    expression[arranges.origin index] = placed[index].1 := by
  have found := arranges.getElem?_of_mem (List.getElem_mem index.isLt)
  exact (List.getElem?_eq_some_iff.mp found).2

/-- Every place of the expression is the origin of one item. -/
theorem bijective_origin (arranges : Arranges expression placed) :
    Function.Bijective arranges.origin := by
  rw [Fintype.bijective_iff_injective_and_card, Fintype.card_fin, Fintype.card_fin]
  refine ⟨fun first second same => ?_, arranges.length_eq⟩
  have places : (placed.map Prod.snd).Nodup := by
    rw [(arranges.perm.map Prod.snd).nodup_iff, List.zipIdx_map_snd]
    exact List.nodup_range'
  have samePlace : placed[first].2 = placed[second].2 := congrArg Fin.val same
  have sameItem : placed[first] = placed[second] :=
    List.inj_on_of_nodup_map places (List.getElem_mem _) (List.getElem_mem _) samePlace
  exact Fin.ext ((List.Nodup.getElem_inj_iff (places.of_map _)).mp sameItem)

/-- An operand from an earlier place than another symbol stands in front. -/
theorem lt_of_origin_lt (arranges : Arranges expression placed)
    {first second : Fin placed.length} (earlier : arranges.origin first < arranges.origin second)
    (operand : isOperand placed[first].1.character = true) : first < second := by
  by_contra behind
  have apart : second ≠ first := by
    rintro rfl
    exact absurd earlier (lt_irrefl _)
  have order : second < first := lt_of_le_of_ne (not_lt.mp behind) apart
  have forward := List.pairwise_iff_getElem.mp arranges.forward second first second.isLt
    first.isLt order operand
  exact absurd earlier (not_lt.mpr (le_of_lt forward))

/-- The origins tell the place of every character. -/
theorem nonempty_placement (arranges : Arranges expression placed) :
    Nonempty (Placement (expression.map Symbol.character)
      ((placed.map Prod.fst).map Symbol.token)) := by
  let place := (Equiv.ofBijective arranges.origin arranges.bijective_origin).symm
  have back (index : Fin expression.length) : arranges.origin (place index) = index :=
    (Equiv.ofBijective arranges.origin arranges.bijective_origin).apply_symm_apply index
  have same (index : Fin expression.length) : placed[place index].1 = expression[index] :=
    (arranges.getElem_origin (place index)).symm.trans
      (congrArg (fun origin : Fin expression.length => expression[origin]) (back index))
  have forward (earlier later : Fin expression.length) (order : earlier < later)
      (operand : isOperand expression[earlier].character = true) :
      place earlier < place later := by
    apply arranges.lt_of_origin_lt
    · rwa [back, back]
    · rwa [same]
  refine ⟨((finCongr (by simp)).trans place).trans (finCongr (by simp)), ?_, ?_⟩
  · intro index
    have here := congrArg Symbol.character (same (Fin.cast (by simp) index))
    simpa [Symbol.token] using here
  · intro earlier later order operand
    exact forward (Fin.cast (by simp) earlier) (Fin.cast (by simp) later) order
      (by simpa using operand)

end Arranges

/-- The conversion arranges the symbols of every expression. -/
theorem exists_arranges_postfixOrder (rules : Rules) (expression : List Symbol) :
    ∃ placed, Arranges expression placed ∧
      placed.map Prod.fst = postfixOrder rules expression := by
  induction expression using List.reverseRecOn with
  | nil => exact ⟨[], .nil, rfl⟩
  | append_singleton expression symbol inductionHypothesis =>
      obtain ⟨placed, arranges, spelled⟩ := inductionHypothesis
      obtain ⟨front, back, before, after⟩ :=
        Conversion.exists_finish_read rules (Conversion.after rules expression) symbol
      rw [postfixOrder, before] at spelled
      obtain ⟨frontPlaced, backPlaced, rfl, onFront, onBack⟩ := List.map_eq_append_iff.mp spelled
      have operators : ∀ item ∈ backPlaced, isOperand item.1.character = false := by
        intro item member
        have waits : item.1 ∈ back.map Symbol.operator := by
          rw [← onBack]
          exact List.mem_map_of_mem member
        obtain ⟨sign, -, same⟩ := List.mem_map.mp waits
        rw [← same]
        exact Symbol.isOperand_symbol sign
      refine ⟨_, arranges.insert operators symbol, ?_⟩
      rw [List.map_append, List.map_cons, onFront, onBack, postfixOrder,
        Conversion.after_concat, after]

/-- The operands and the operators of a text, in order. -/
def symbolCharacters (text : String) : List Char :=
  text.toList.filter fun character => isOperand character || (Operator.ofChar? character).isSome

theorem Symbol.isSome_ofChar? (character : Char) :
    (ofChar? character).isSome =
      (isOperand character || (Operator.ofChar? character).isSome) := by
  unfold ofChar?
  split
  · rename_i admissible
    rw [admissible, Bool.true_or]
    rfl
  · rename_i refused
    rw [Bool.eq_false_of_not_eq_true refused, Bool.false_or, Option.isSome_map]

theorem symbolCharacters_eq (text : String) :
    symbolCharacters text = (symbols text).map Symbol.character := by
  have kept : withoutNoise text = String.ofList (symbolCharacters text) := by
    simp only [withoutNoise, symbolCharacters, Symbol.isSome_ofChar?]
  rw [withoutNoise_eq] at kept
  exact (String.ofList_inj.mp kept).symm

/-- The tokens of a list of symbols that are no operators are its operands. -/
theorem filter_map_token (order : List Symbol) :
    (order.map Symbol.token).filter (fun token => (Operator.ofToken? token).isNone) =
      (operands order).map fun operand => String.singleton operand.character := by
  induction order with
  | nil => rfl
  | cons symbol rest inductionHypothesis =>
      cases symbol with
      | operand operand =>
          rw [List.map_cons, List.filter_cons_of_pos (by rw [ofToken?_operand]; rfl),
            inductionHypothesis]
          rfl
      | operator sign =>
          rw [List.map_cons, List.filter_cons_of_neg (by rw [ofToken?_operator]; simp),
            inductionHypothesis]
          rfl

/-- The postfix form keeps every symbol, and operands before later symbols. -/
theorem toPostfix_keeps_symbols (rules : Rules) (text : String) :
    (∀ token ∈ (toPostfix rules text).toList, token.length = 1) ∧
      (toPostfix rules text).toList.Perm ((symbolCharacters text).map String.singleton) ∧
      (toPostfix rules text).toList.filter (fun token => (Operator.ofToken? token).isNone) =
        (text.toList.filter isOperand).map String.singleton ∧
      Nonempty (Placement (symbolCharacters text) (toPostfix rules text).toList) := by
  obtain ⟨placed, arranges, spelled⟩ := exists_arranges_postfixOrder rules (symbols text)
  refine ⟨fun token => length_eq_one_of_mem_toPostfix, ?_, ?_, ?_⟩
  · have perm := (arranges.perm.map Prod.fst).map Symbol.token
    rw [spelled, List.zipIdx_map_fst] at perm
    rw [toList_toPostfix, symbolCharacters_eq, List.map_map]
    exact perm
  · rw [toList_toPostfix, filter_map_token, operands_postfixOrder,
      ← map_character_operands_symbols, List.map_map]
    rfl
  · rw [symbolCharacters_eq, toList_toPostfix, ← spelled]
    exact arranges.nonempty_placement

/-- The symbols of a text that is not well-formed are kept as well. -/
theorem toPostfix_keeps_symbols_of_leading_sum :
    (toPostfix ⟨true⟩ "+ 1^(2^3").toList.Perm ["+", "1", "^", "2", "^", "3"] ∧
      Nonempty (Placement ['+', '1', '^', '2', '^', '3']
        (toPostfix ⟨true⟩ "+ 1^(2^3").toList) ∧
      ∀ token ∈ (toPostfix ⟨true⟩ "+ 1^(2^3").toList, token.length = 1 := by
  have kept : symbolCharacters "+ 1^(2^3" = ['+', '1', '^', '2', '^', '3'] := by
    decide +kernel
  obtain ⟨single, perm, -, placement⟩ := toPostfix_keeps_symbols ⟨true⟩ "+ 1^(2^3"
  rw [kept] at perm placement
  exact ⟨perm, placement, single⟩

end PolishNotation
