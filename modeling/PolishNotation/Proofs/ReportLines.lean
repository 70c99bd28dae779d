import PolishNotation.Proofs.NoiseInvariance
import PolishNotation.Proofs.Printing
import PolishNotation.Proofs.RationalText
import PolishNotation.Proofs.SessionHistory
import PolishNotation.Proofs.TopDownSplit

namespace PolishNotation

/-- The text of some lines, each of which ends with a line break. -/
def unlines (lines : List String) : String :=
  String.join (lines.map (· ++ "\n"))

/-- A text of one line has no line break. -/
def OneLine (text : String) : Prop := '\n' ∉ text.toList

instance (text : String) : Decidable (OneLine text) := inferInstanceAs (Decidable (_ ∉ _))

theorem OneLine.append {first second : String} (firstLine : OneLine first)
    (secondLine : OneLine second) : OneLine (first ++ second) := by
  rw [OneLine, String.toList_append, List.mem_append, not_or]
  exact ⟨firstLine, secondLine⟩

theorem unlines_cons (line : String) (rest : List String) :
    unlines (line :: rest) = line ++ ("\n" ++ unlines rest) := by
  rw [unlines, List.map_cons, String.join_cons, String.append_assoc, unlines]

theorem toList_unlines_cons (line : String) (rest : List String) :
    (unlines (line :: rest)).toList = line.toList ++ '\n' :: (unlines rest).toList := by
  rw [unlines_cons, String.toList_append, String.toList_append]
  rfl

theorem unlines_cons_ne_nil (line : String) (rest : List String) :
    unlines (line :: rest) ≠ unlines [] := by
  intro same
  have characters := congrArg String.toList same
  rw [toList_unlines_cons] at characters
  simp [unlines] at characters

theorem unlines_append (first second : List String) :
    unlines (first ++ second) = unlines first ++ unlines second := by
  rw [unlines, List.map_append, String.join_append]
  rfl

theorem eq_of_cut_eq {separator : Char} {first second rest others : List Char}
    (absent : separator ∉ first) (absentToo : separator ∉ second)
    (same : first ++ separator :: rest = second ++ separator :: others) :
    first = second ∧ rest = others := by
  have before := congrArg (List.takeWhile (· != separator)) same
  rw [takeWhile_append_cons (by simp), takeWhile_append_cons (by simp),
    List.takeWhile_eq_self_iff.mpr (Rational.bne_of_notMem absent),
    List.takeWhile_eq_self_iff.mpr (Rational.bne_of_notMem absentToo)] at before
  subst before
  exact ⟨rfl, List.cons_injective (List.append_cancel_left same)⟩

/-- A text is cut into lines at its line breaks. -/
theorem eq_of_unlines_eq {first second : List String} (oneLine : ∀ line ∈ first, OneLine line)
    (oneLineToo : ∀ line ∈ second, OneLine line) (same : unlines first = unlines second) :
    first = second := by
  induction first generalizing second with
  | nil =>
      cases second with
      | nil => rfl
      | cons line rest => exact absurd same.symm (unlines_cons_ne_nil line rest)
  | cons line rest inductionHypothesis =>
      cases second with
      | nil => exact absurd same (unlines_cons_ne_nil line rest)
      | cons other others =>
          obtain ⟨short, restShort⟩ := List.forall_mem_cons.mp oneLine
          obtain ⟨shortToo, othersShort⟩ := List.forall_mem_cons.mp oneLineToo
          have characters := congrArg String.toList same
          rw [toList_unlines_cons, toList_unlines_cons] at characters
          obtain ⟨head, tail⟩ := eq_of_cut_eq short shortToo characters
          rw [String.toList_inj.mp head,
            inductionHypothesis restShort othersShort (String.toList_inj.mp tail)]

namespace Decimal

theorem oneLine_naturalText (number : Nat) : OneLine (naturalText number) := by
  rw [OneLine, toList_naturalText]
  intro member
  cases isDigit_of_mem_digits member

theorem oneLine_integerText (number : Int) : OneLine (integerText number) := by
  have minus : OneLine "-" := by decide
  rw [integerText]
  split
  · exact minus.append (oneLine_naturalText _)
  · exact oneLine_naturalText _

theorem oneLine_signed (negative : Bool) {text : String} (oneLine : OneLine text) :
    OneLine (signed negative text) := by
  have minus : OneLine "-" := by decide
  rw [signed]
  split
  · exact minus.append oneLine
  · exact oneLine

/-- A point and zeros are all that stands beside the digits. -/
theorem mem_positional {digits : List Char} {power : Int} {character : Char}
    (member : character ∈ positional digits power) :
    character ∈ digits ∨ character = '0' ∨ character = '.' := by
  have filled {places : Nat} (inside : character ∈ List.replicate places '0' ++ digits) :
      character ∈ digits ∨ character = '0' ∨ character = '.' := by
    rcases List.mem_append.mp inside with zero | digit
    · exact .inr (.inl (List.eq_of_mem_replicate zero))
    · exact .inl digit
  unfold positional at member
  split at member
  · rcases List.mem_append.mp member with whole | fraction
    · exact filled (List.mem_of_mem_take whole)
    · rcases List.mem_cons.mp fraction with point | part
      · exact .inr (.inr point)
      · exact filled (List.mem_of_mem_drop part)
  · rcases List.mem_append.mp member with digit | zero
    · exact .inl digit
    · exact .inr (.inl (List.eq_of_mem_replicate zero))

theorem oneLine_floatText (value : Float) : OneLine (floatText value) := by
  unfold floatText
  split
  · decide
  · exact oneLine_signed _ (by decide)
  · split
    · exact oneLine_signed _ (by decide)
    · apply oneLine_signed
      rw [OneLine, String.toList_ofList]
      intro member
      rcases mem_positional member with digit | zero | point
      · cases isDigit_of_mem_digits digit
      · cases zero
      · cases point

end Decimal

theorem Rational.oneLine_text (value : Rat) : OneLine (text value) := by
  have slash : OneLine "/" := by decide
  rw [text]
  split
  · exact Decimal.oneLine_integerText _
  · exact ((Decimal.oneLine_integerText _).append slash).append (Decimal.oneLine_naturalText _)

namespace ArithmeticFault

theorem oneLine_message (fault : ArithmeticFault) : OneLine fault.message := by
  cases fault <;> decide

theorem message_injective : Function.Injective message := by
  intro first second
  cases first <;> cases second <;> decide

end ArithmeticFault

namespace Symbol

theorem character_ne_newline (symbol : Symbol) : symbol.character ≠ '\n' := by
  intro same
  have noise : ofChar? '\n' = none := by decide +kernel
  rw [← same, ofChar?_character] at noise
  cases noise

theorem oneLine_token (symbol : Symbol) : OneLine symbol.token := by
  rw [OneLine, token, String.toList_singleton, List.mem_singleton]
  exact fun same => symbol.character_ne_newline same.symm

end Symbol

theorem TokenSequence.text_singleton (token : String) : (ofList [token]).text = token :=
  String.intercalate_singleton

/-- The blanks between tokens are noise. -/
theorem symbols_text_map_token (expression : List Symbol) :
    symbols (TokenSequence.ofList (expression.map Symbol.token)).text = expression := by
  rw [TokenSequence.text, TokenSequence.toList_ofList]
  induction expression with
  | nil => rfl
  | cons symbol rest inductionHypothesis =>
      cases rest with
      | nil => simp [symbols_of_token]
      | cons next rest =>
          have blank : symbols " " = [] := by decide +kernel
          rw [List.map_cons, List.map_cons, String.intercalate_cons_cons, symbols_append,
            symbols_append, symbols_of_token, blank]
          exact congrArg (symbol :: ·) inductionHypothesis

theorem oneLine_text_map_token (expression : List Symbol) :
    OneLine (TokenSequence.ofList (expression.map Symbol.token)).text := by
  rw [TokenSequence.text, TokenSequence.toList_ofList]
  induction expression with
  | nil => decide
  | cons symbol rest inductionHypothesis =>
      cases rest with
      | nil => simpa using symbol.oneLine_token
      | cons next rest =>
          have blank : OneLine " " := by decide
          rw [List.map_cons, List.map_cons, String.intercalate_cons_cons]
          exact (symbol.oneLine_token.append blank).append inductionHypothesis

/-- Forms of symbols only, and exact values that fail for arithmetic reasons. -/
structure Legible (derivation : Derivation) : Prop where
  postfixForm : ∃ expression : List Symbol,
    derivation.postfixForm = TokenSequence.ofList (expression.map Symbol.token)
  prefixForm : ∃ spelled, derivation.prefixForm = TokenSequence.ofList [spelled] ∧ OneLine spelled
  fault : ∀ fault, derivation.exactValues = some (.error fault) → ∃ cause, fault = .arithmetic cause

theorem legible_of_derive {options : Options} {text : String} {derivation : Derivation}
    (derived : derive options text = .ok derivation) : Legible derivation := by
  have coherent := coherent_of_derive derived
  obtain ⟨tree, spell⟩ := coherent.sameTree
  obtain ⟨spelled, single, -⟩ := coherent.oneToken
  refine ⟨⟨_, coherent.converted⟩, ⟨spelled, TokenSequence.toList_inj.mp single, ?_⟩, ?_⟩
  · intro member
    have inPrefix : String.singleton '\n' ∈ derivation.prefixForm.split := by
      rw [TokenSequence.split_eq, single, List.flatMap_singleton]
      exact List.mem_map_of_mem member
    rw [spell.prefixTokens, tree.prefixTokens_perm_postfixTokens.mem_iff, ← spell.postfixTokens,
      coherent.converted, toList_toPostfix] at inPrefix
    obtain ⟨symbol, -, same⟩ := List.mem_map.mp inPrefix
    exact symbol.character_ne_newline (String.singleton_inj.mp same)
  · intro fault failed
    rcases coherent.sameExactValue _ failed with ⟨values, succeeded, -⟩ | arises
    · cases succeeded
    · obtain ⟨cause, same⟩ := arises
      exact ⟨cause, Except.error.inj same⟩

namespace Report

/-- A line of a report without its line break. -/
def entry (label value : String) : String := label ++ " : " ++ value

theorem entry_inj {label first second : String} :
    entry label first = entry label second ↔ first = second := String.append_right_inj _

theorem oneLine_entry {label value : String} (labelLine : OneLine label)
    (valueLine : OneLine value) : OneLine (entry label value) := by
  have colon : OneLine " : " := by decide
  exact (labelLine.append colon).append valueLine

theorem text_line_eq_unlines (label value : String) :
    text (line label value) = unlines [entry label value] := by
  rw [text_line, unlines_cons, entry]
  simp only [String.append_assoc]
  rfl

def exactLines : Option (Except Fault ExactValues) → List String
  | none => []
  | some (.ok values) => [
      entry "Exact postfixe" (Rational.text values.postfixValue),
      entry "Exact préfixe" (Rational.text values.prefixValue)]
  | some (.error fault) => [entry "Exact" fault.message]

/-- The lines of a report. -/
def lines (derivation : Derivation) : List String :=
  entry "Postfixe" derivation.postfixForm.text ::
    entry "Valeur postfixe" (Decimal.floatText derivation.postfixValue) ::
    entry "Préfixe" derivation.prefixForm.text ::
    entry "Valeur préfixe" (Decimal.floatText derivation.prefixValue) ::
    exactLines derivation.exactValues

theorem text_ofExact (values : Except Fault ExactValues) :
    text (ofExact values) = unlines (exactLines (some values)) := by
  cases values with
  | ok values =>
      simp only [ofExact, text_append, text_line_eq_unlines, ← unlines_append]
      rfl
  | error fault => exact text_line_eq_unlines _ _

/-- A report consists of its lines. -/
theorem text_ofDerivation (derivation : Derivation) :
    text (ofDerivation derivation) = unlines (lines derivation) := by
  obtain ⟨expression, postfixForm, postfixValue, prefixForm, prefixValue, exactValues⟩ := derivation
  cases exactValues with
  | none =>
      have nothing : text [] = unlines [] := rfl
      simp only [ofDerivation, text_append, text_line_eq_unlines, nothing, ← unlines_append]
      rfl
  | some values =>
      simp only [ofDerivation, text_append, text_line_eq_unlines, text_ofExact, ← unlines_append]
      rfl

/-- The lines for the exact values tell them, faults included. -/
theorem eq_of_exactLines_eq {first second : Option (Except Fault ExactValues)}
    (arises : ∀ fault, first = some (.error fault) → ∃ cause, fault = .arithmetic cause)
    (arisesToo : ∀ fault, second = some (.error fault) → ∃ cause, fault = .arithmetic cause)
    (same : exactLines first = exactLines second) : first = second := by
  match first, second with
  | none, none => rfl
  | none, some (.ok _) | none, some (.error _) => simp [exactLines] at same
  | some (.ok _), none | some (.ok _), some (.error _) => simp [exactLines] at same
  | some (.error _), none | some (.error _), some (.ok _) => simp [exactLines] at same
  | some (.ok values), some (.ok others) =>
      rw [exactLines, exactLines, List.cons.injEq, List.cons.injEq, entry_inj, entry_inj] at same
      obtain ⟨postfixValue, prefixValue⟩ := values
      obtain ⟨postfixValueToo, prefixValueToo⟩ := others
      obtain rfl : postfixValue = postfixValueToo := Rational.text_injective same.1
      obtain rfl : prefixValue = prefixValueToo := Rational.text_injective same.2.1
      rfl
  | some (.error fault), some (.error other) =>
      obtain ⟨cause, rfl⟩ := arises fault rfl
      obtain ⟨reason, rfl⟩ := arisesToo other rfl
      rw [exactLines, exactLines, List.cons.injEq, entry_inj] at same
      rw [ArithmeticFault.message_injective same.1]

end Report

namespace Legible

open Report

variable {derivation another : Derivation}

/-- Whatever the text of a derivation was, no line of its report is broken. -/
theorem oneLine (legible : Legible derivation) : ∀ line ∈ lines derivation, OneLine line := by
  obtain ⟨expression, postfixForm⟩ := legible.postfixForm
  obtain ⟨spelled, prefixForm, short⟩ := legible.prefixForm
  have exactPart : ∀ line ∈ exactLines derivation.exactValues, OneLine line := by
    match found : derivation.exactValues with
    | none => exact fun line member => nomatch member
    | some (.ok values) =>
        simp only [exactLines, List.forall_mem_cons]
        exact ⟨oneLine_entry (by decide) (Rational.oneLine_text _),
          oneLine_entry (by decide) (Rational.oneLine_text _), fun line member => nomatch member⟩
    | some (.error other) =>
        obtain ⟨cause, rfl⟩ := legible.fault other found
        simp only [exactLines, List.forall_mem_cons]
        exact ⟨oneLine_entry (by decide) cause.oneLine_message, fun line member => nomatch member⟩
  have postfixLine : OneLine derivation.postfixForm.text := by
    rw [postfixForm]
    exact oneLine_text_map_token expression
  have prefixLine : OneLine derivation.prefixForm.text := by
    rw [prefixForm, TokenSequence.text_singleton]
    exact short
  simp only [lines, List.forall_mem_cons]
  exact ⟨oneLine_entry (by decide) postfixLine,
    oneLine_entry (by decide) (Decimal.oneLine_floatText _),
    oneLine_entry (by decide) prefixLine,
    oneLine_entry (by decide) (Decimal.oneLine_floatText _), exactPart⟩

theorem eq_of_lines_eq (legible : Legible derivation) (legibleToo : Legible another)
    (same : lines derivation = lines another) :
    derivation.postfixForm = another.postfixForm ∧ derivation.prefixForm = another.prefixForm ∧
      derivation.exactValues = another.exactValues := by
  obtain ⟨expression, postfixForm⟩ := legible.postfixForm
  obtain ⟨spelled, prefixForm, -⟩ := legible.prefixForm
  obtain ⟨expressionToo, postfixFormToo⟩ := legibleToo.postfixForm
  obtain ⟨spelledToo, prefixFormToo, -⟩ := legibleToo.prefixForm
  simp only [lines, List.cons.injEq, entry_inj] at same
  obtain ⟨samePostfix, -, samePrefix, -, sameExact⟩ := same
  refine ⟨?_, ?_, eq_of_exactLines_eq legible.fault legibleToo.fault sameExact⟩
  · rw [postfixForm, postfixFormToo] at samePostfix ⊢
    have read := congrArg symbols samePostfix
    rw [symbols_text_map_token, symbols_text_map_token] at read
    rw [read]
  · rw [prefixForm, prefixFormToo, TokenSequence.text_singleton,
      TokenSequence.text_singleton] at samePrefix
    rw [prefixForm, prefixFormToo, samePrefix]

end Legible

namespace Report

/-- An evaluation that succeeds leaves its derivation for the report. -/
theorem output_printResults_evaluate (session : Session) {entry : String}
    {derivation : Derivation} (derived : derive session.options entry = .ok derivation) :
    (printResults (session.evaluate entry)).output =
      (unlines (lines derivation)).toUTF8.data.toList := by
  have present : (session.evaluate entry).derivation? = some derivation :=
    (Session.holds_evaluate derived).1
  rw [(prints_printResults _).output_eq, results, present, ← text_ofDerivation]
  rfl

/-- Equal reports come from equal forms and equal exact values. -/
theorem reports_tell_the_results (first second : Session) {entry other : String}
    {derivation another : Derivation} (derived : derive first.options entry = .ok derivation)
    (derivedToo : derive second.options other = .ok another) :
    ((printResults (first.evaluate entry)).output =
        (printResults (second.evaluate other)).output →
      derivation.postfixForm = another.postfixForm ∧
        derivation.prefixForm = another.prefixForm ∧
        derivation.exactValues = another.exactValues) ∧
      ∃ lines : List String,
        (printResults (first.evaluate entry)).output = (unlines lines).toUTF8.data.toList ∧
          (∀ line ∈ lines, '\n' ∉ line.toList) ∧
          (first.options.exact = false → lines.length = 4) ∧
          (∀ values, derivation.exactValues = some (.ok values) → lines.length = 6) ∧
          ∀ fault, derivation.exactValues = some (.error fault) → lines.length = 5 := by
  have legible := legible_of_derive derived
  have legibleToo := legible_of_derive derivedToo
  constructor
  · intro same
    rw [output_printResults_evaluate first derived,
      output_printResults_evaluate second derivedToo] at same
    exact legible.eq_of_lines_eq legibleToo
      (eq_of_unlines_eq legible.oneLine legibleToo.oneLine (Writing.bytesOf_injective same))
  · refine ⟨lines derivation, output_printResults_evaluate first derived, legible.oneLine,
      ?_, ?_, ?_⟩
    · intro inexact
      rw [lines, (coherent_of_derive derived).asked.mpr inexact]
      rfl
    · intro values succeeded
      rw [lines, succeeded]
      rfl
    · intro fault failed
      rw [lines, failed]
      rfl

/-- A bracketed division by zero is reported like a bare one, in five lines. -/
theorem reports_tell_the_results_of_division_by_zero :
    ∃ derivation another, derive ⟨.standard, true⟩ "1/0+2" = .ok derivation ∧
      derive ⟨.standard, true⟩ " (1/0) + 2" = .ok another ∧
      derivation.postfixForm = another.postfixForm ∧
      derivation.prefixForm = another.prefixForm ∧
      derivation.exactValues = another.exactValues ∧
      ∃ lines : List String,
        (printResults ((Session.start ⟨.standard, true⟩).evaluate "1/0+2")).output =
          (unlines lines).toUTF8.data.toList ∧
        (∀ line ∈ lines, '\n' ∉ line.toList) ∧ lines.length = 5 := by
  have spelled : toPostfix .standard "1/0+2" = .ofList ["1", "0", "/", "2", "+"] := by
    decide +kernel
  have noisy : toPostfix .standard " (1/0) + 2" = .ofList ["1", "0", "/", "2", "+"] := by
    decide +kernel
  have tree : (toPostfix .standard "1/0+2").toList = ExpressionTree.postfixTokens
      (.node .plus (.node .divide (.leaf "1") (.leaf "0")) (.leaf "2")) := by rw [spelled]; rfl
  obtain ⟨derivation, derived⟩ := exists_derive_of_tree ⟨.standard, true⟩ tree (by decide)
  have derivedToo : derive ⟨.standard, true⟩ " (1/0) + 2" =
      .ok { derivation with expression := Text.trim " (1/0) + 2" } := by
    rw [derive_eq_deriveFrom, deriveFrom_eq_map _ (Text.trim "1/0+2"), noisy, ← spelled,
      ← derive_eq_deriveFrom, derived]
    rfl
  have failed : derivation.exactValues = some (.error (.arithmetic .divisionByZero)) := by
    have coherent := coherent_of_derive derived
    have converted := coherent.converted
    rw [toPostfix_trim] at converted
    have divided : Domain.exact.evaluatePostfix (toPostfix .standard "1/0+2") =
        .error (.arithmetic .divisionByZero) := by rw [spelled]; rfl
    rw [coherent.exactPart, converted, evaluateExact, divided]
    rfl
  have sameLines : lines { derivation with expression := Text.trim " (1/0) + 2" } =
      lines derivation := rfl
  have printed := output_printResults_evaluate (.start ⟨.standard, true⟩) derived
  have printedToo := output_printResults_evaluate (.start ⟨.standard, true⟩) derivedToo
  rw [sameLines, ← printed] at printedToo
  obtain ⟨tells, lines, unlined, unbroken, -, -, five⟩ := reports_tell_the_results
    (.start ⟨.standard, true⟩) (.start ⟨.standard, true⟩) derived derivedToo
  obtain ⟨samePostfix, samePrefix, sameExact⟩ := tells printedToo.symm
  exact ⟨derivation, _, derived, derivedToo, samePostfix, samePrefix, sameExact, lines, unlined,
    unbroken, five _ failed⟩

end Report

end PolishNotation
