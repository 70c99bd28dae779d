import Mathlib
import PolishNotation.Conversion
import PolishNotation.Text.Blank

namespace PolishNotation

/-- Only the operands and the operators of a text are left. -/
def withoutNoise (text : String) : String :=
  String.ofList (text.toList.filter fun character => (Symbol.ofChar? character).isSome)

theorem withoutNoise_eq (text : String) :
    withoutNoise text = String.ofList ((symbols text).map Symbol.character) := by
  unfold withoutNoise symbols
  congr 1
  induction text.toList with
  | nil => rfl
  | cons character rest inductionHypothesis =>
      cases kept : Symbol.ofChar? character with
      | none =>
          rw [List.filter_cons_of_neg (by simp [kept]), List.filterMap_cons_none kept,
            inductionHypothesis]
      | some symbol =>
          rw [List.filter_cons_of_pos (by simp [kept]), List.filterMap_cons_some kept,
            List.map_cons, Symbol.character_of_ofChar? kept, inductionHypothesis]

/-- A list of symbols can be read back from its characters. -/
theorem ofList_character_inj {first second : List Symbol} :
    String.ofList (first.map Symbol.character) = String.ofList (second.map Symbol.character) ↔
      first = second := by
  constructor
  · intro same
    have read := congrArg symbols same
    rwa [symbols_ofList_character, symbols_ofList_character] at read
  · rintro rfl
    rfl

/-- Texts have the same symbols if they are equal without their noise. -/
theorem withoutNoise_eq_withoutNoise_iff {first second : String} :
    withoutNoise first = withoutNoise second ↔ symbols first = symbols second := by
  rw [withoutNoise_eq, withoutNoise_eq, ofList_character_inj]

/-- No blank is an operand or an operator. -/
theorem ofChar?_eq_none_of_isBlank {character : Char} (blank : Text.isBlank character = true) :
    Symbol.ofChar? character = none := by
  have all : ∀ range ∈ Text.blankRanges, ∀ offset < range.last + 1 - range.first,
      Symbol.ofChar? (Char.ofNat (range.first + offset)) = none := by decide +kernel
  obtain ⟨range, member, lower, upper⟩ := (Text.isBlank_iff character).mp blank
  have dropped := all range member (character.toNat - range.first) (by omega)
  rwa [Nat.add_sub_cancel' lower, Char.ofNat_toNat] at dropped

theorem filterMap_dropWhile_isBlank (characters : List Char) :
    (characters.dropWhile Text.isBlank).filterMap Symbol.ofChar? =
      characters.filterMap Symbol.ofChar? := by
  induction characters with
  | nil => rfl
  | cons character rest inductionHypothesis =>
      cases blank : Text.isBlank character with
      | true =>
          rw [List.dropWhile_cons_of_pos blank, inductionHypothesis,
            List.filterMap_cons_none (ofChar?_eq_none_of_isBlank blank)]
      | false => rw [List.dropWhile_cons_of_neg (by simp [blank])]

@[simp] theorem symbols_trim (text : String) : symbols (Text.trim text) = symbols text := by
  unfold symbols Text.trim
  rw [String.toList_ofList, List.filterMap_reverse, filterMap_dropWhile_isBlank,
    ← List.filterMap_reverse, List.reverse_reverse, filterMap_dropWhile_isBlank]

/-- Texts with the same symbols have the same postfix form. -/
theorem toPostfix_congr (rules : Rules) {first second : String}
    (same : symbols first = symbols second) : toPostfix rules first = toPostfix rules second := by
  rw [toPostfix, toPostfix, same]

/-- The blanks at the ends of a text change nothing in its postfix form. -/
theorem toPostfix_trim (rules : Rules) (text : String) :
    toPostfix rules (Text.trim text) = toPostfix rules text :=
  toPostfix_congr rules (symbols_trim text)

/-- A text with symbols is not blank. -/
theorem trim_ne_empty {text : String} (someSymbol : symbols text ≠ []) :
    Text.trim text ≠ "" := by
  intro blank
  rw [← symbols_trim, blank] at someSymbol
  exact someSymbol rfl

end PolishNotation
