import PolishNotation.Proofs.DomainLaws
import PolishNotation.Proofs.RationalPower
import PolishNotation.Rational.Text

namespace PolishNotation

namespace Decimal

theorem padded_append (level number : Nat) (tail : List Char) :
    padded level number tail = padded level number [] ++ tail := by
  induction level generalizing number tail with
  | zero => rfl
  | succ level inductionHypothesis =>
      rw [padded, padded, inductionHypothesis _ (padded level _ tail),
        inductionHypothesis _ tail, inductionHypothesis _ (padded level _ []),
        List.append_assoc]

theorem unpadded_append (level number : Nat) (tail : List Char) :
    unpadded level number tail = unpadded level number [] ++ tail := by
  induction level generalizing number tail with
  | zero => rfl
  | succ level inductionHypothesis =>
      rw [unpadded, unpadded]
      split
      · exact inductionHypothesis number tail
      · rw [inductionHypothesis _ (padded level _ tail),
          inductionHypothesis _ (padded level _ []), padded_append level _ tail,
          List.append_assoc]

/-- Padded digits continue the digits of a number in front of them. -/
theorem toDigits_append_padded {level high low : Nat} (leading : 0 < high)
    (small : low < unit level) :
    Nat.toDigits 10 high ++ padded level low [] = Nat.toDigits 10 (high * unit level + low) := by
  induction level generalizing high low with
  | zero =>
      have single : low < 10 := small
      rw [unit, Nat.mul_comm, ← Nat.toDigits_append_toDigits (by decide) leading single,
        Nat.toDigits_of_lt_base single, padded, Nat.mod_eq_of_lt single]
  | succ level inductionHypothesis =>
      rw [unit_succ] at small
      have upper : low / unit level < unit level := Nat.div_lt_of_lt_mul small
      have lower : low % unit level < unit level := Nat.mod_lt _ (unit_pos level)
      have longer : 0 < high * unit level + low / unit level :=
        Nat.add_pos_left (Nat.mul_pos leading (unit_pos level)) _
      have joined : (high * unit level + low / unit level) * unit level + low % unit level =
          high * unit (level + 1) + low := by
        rw [Nat.add_mul, Nat.add_assoc, Nat.div_add_mod', unit_succ, Nat.mul_assoc]
      rw [padded, padded_append, ← List.append_assoc, inductionHypothesis leading upper,
        inductionHypothesis longer lower, joined]

theorem unpadded_eq_toDigits {level number : Nat} (small : number < unit level) :
    unpadded level number [] = Nat.toDigits 10 number := by
  induction level generalizing number with
  | zero =>
      have single : number < 10 := small
      rw [unpadded, Nat.mod_eq_of_lt single, Nat.toDigits_of_lt_base single]
  | succ level inductionHypothesis =>
      rw [unit_succ] at small
      rw [unpadded]
      split
      · rename_i below
        exact inductionHypothesis below
      · rename_i above
        have leading : 0 < number / unit level :=
          Nat.div_pos (Nat.not_lt.mp above) (unit_pos level)
        rw [unpadded_append, inductionHypothesis (Nat.div_lt_of_lt_mul small),
          toDigits_append_padded leading (Nat.mod_lt _ (unit_pos level)), Nat.div_add_mod']

/-- The digits found by halving are the usual ones. -/
theorem digits_eq_toDigits (number : Nat) : digits number = Nat.toDigits 10 number :=
  unpadded_eq_toDigits (lt_unit_sufficientLevel number)

theorem toList_naturalText (number : Nat) : (naturalText number).toList = digits number :=
  String.toList_ofList

theorem naturalText_eq_toString (number : Nat) : naturalText number = toString number := by
  rw [naturalText, digits_eq_toDigits, Nat.toString_eq_ofList_toDigits]

/-- An integer is written as usual, with a minus if negative. -/
theorem integerText_eq_toString (number : Int) : integerText number = toString number := by
  rw [integerText, naturalText_eq_toString]
  cases number with
  | ofNat size => exact if_neg (Int.not_lt.mpr (Int.natCast_nonneg size))
  | negSucc size => exact if_pos (Int.negSucc_lt_zero size)

theorem readUnsigned?_digits (number : Nat) : readUnsigned? (digits number) = some number := by
  have some_digit : digits number ≠ [] := by
    rw [digits_eq_toDigits]
    exact Nat.toDigits_ne_nil
  rw [readUnsigned?_eq_readOn some_digit fun digit => isDigit_of_mem_digits, readOn_digits]

theorem readInteger?_naturalText (number : Nat) :
    readInteger? (naturalText number) = some (number : Int) := by
  have noSign {sign : Char} {rest : List Char} (spelled : digits number = sign :: rest) :
      sign.isDigit = true := by
    have member : sign ∈ digits number := spelled ▸ List.mem_cons_self ..
    exact isDigit_of_mem_digits member
  unfold readInteger?
  rw [toList_naturalText]
  split
  · rename_i rest spelled
    cases noSign spelled
  · rename_i rest spelled
    cases noSign spelled
  · rw [readUnsigned?_digits]
    rfl

/-- The text of an integer reads back as the integer. -/
theorem readInteger?_integerText (number : Int) :
    readInteger? (integerText number) = some number := by
  unfold integerText
  split
  · rename_i negative
    have spelled : ("-" ++ naturalText number.natAbs).toList = '-' :: digits number.natAbs := by
      rw [String.toList_append, toList_naturalText]
      rfl
    have size : -(number.natAbs : Int) = number := by omega
    unfold readInteger?
    rw [spelled]
    simp only [readUnsigned?_digits]
    exact congrArg some size
  · rename_i positive
    have size : (number.natAbs : Int) = number := by omega
    rw [readInteger?_naturalText, size]

theorem slash_notMem_of_readGrouped? {value result : Nat} {further : List Char}
    (read : readGrouped? value further = some result) : '/' ∉ further := by
  induction further generalizing value with
  | nil => simp
  | cons character rest inductionHypothesis =>
      rw [List.mem_cons, not_or]
      unfold readGrouped? at read
      split at read
      · rename_i nothing
        cases nothing
      · rename_i underscore
        obtain ⟨rfl, rfl⟩ := List.cons.inj underscore
        exact ⟨by decide, inductionHypothesis read⟩
      · rename_i same
        obtain ⟨rfl, rfl⟩ := List.cons.inj same
        split at read
        · rename_i decimal
          refine ⟨?_, inductionHypothesis read⟩
          rintro rfl
          cases decimal
        · cases read

theorem slash_notMem_of_readUnsigned? {result : Nat} {spelled : List Char}
    (read : readUnsigned? spelled = some result) : '/' ∉ spelled := by
  cases spelled with
  | nil => simp
  | cons digit rest =>
      rw [readUnsigned?] at read
      split at read
      · rename_i decimal
        rw [List.mem_cons, not_or]
        refine ⟨?_, slash_notMem_of_readGrouped? read⟩
        rintro rfl
        cases decimal
      · cases read

/-- No integer has a slash. -/
theorem slash_notMem_of_readInteger? {text : String} {number : Int}
    (read : readInteger? text = some number) : '/' ∉ text.toList := by
  unfold readInteger? at read
  split at read
  · rename_i rest spelled
    cases unsigned : readUnsigned? rest with
    | none => simp [unsigned] at read
    | some size =>
        rw [spelled, List.mem_cons, not_or]
        exact ⟨by decide, slash_notMem_of_readUnsigned? unsigned⟩
  · rename_i rest spelled
    obtain ⟨size, unsigned, -⟩ := Option.map_eq_some_iff.mp read
    rw [spelled, List.mem_cons, not_or]
    exact ⟨by decide, slash_notMem_of_readUnsigned? unsigned⟩
  · obtain ⟨size, unsigned, -⟩ := Option.map_eq_some_iff.mp read
    exact slash_notMem_of_readUnsigned? unsigned

end Decimal

namespace Rational

/-- An integer has only its own digits for a text. -/
theorem text_intCast (number : Int) : text (number : Rat) = Decimal.integerText number := by
  rw [text, Rat.den_intCast, if_pos rfl, Rat.num_intCast]

/-- A quotient is never written like an integer. -/
theorem text_of_den_ne_one {value : Rat} (quotient : value.den ≠ 1) :
    text value = Decimal.integerText value.num ++ "/" ++ Decimal.naturalText value.den :=
  if_neg quotient

theorem toList_text_of_den_ne_one {value : Rat} (quotient : value.den ≠ 1) :
    (text value).toList = (Decimal.integerText value.num).toList ++
      '/' :: (Decimal.naturalText value.den).toList := by
  rw [text_of_den_ne_one quotient, String.toList_append, String.toList_append, List.append_assoc]
  rfl

theorem bne_of_notMem {separator : Char} {spelled : List Char} (absent : separator ∉ spelled) :
    ∀ character ∈ spelled, (character != separator) = true := by
  intro character member
  rw [bne_iff_ne]
  rintro rfl
  exact absent member

/-- A text without a slash is read as an integer. -/
theorem read?_of_slash_notMem {spelled : String} (whole : '/' ∉ spelled.toList) :
    read? spelled = (Decimal.readInteger? spelled).map fun number => (number : Rat) := by
  have kept := bne_of_notMem whole
  unfold read?
  rw [List.span_eq_takeWhile_dropWhile, List.takeWhile_eq_self_iff.mpr kept,
    List.dropWhile_eq_nil_iff.mpr kept]
  simp

/-- A text is cut at its first slash. -/
theorem read?_of_cut {spelled numerator denominator : String} {dividend divisor : Int}
    (cut : spelled.toList = numerator.toList ++ '/' :: denominator.toList)
    (above : Decimal.readInteger? numerator = some dividend)
    (below : Decimal.readInteger? denominator = some divisor) (nonzero : divisor ≠ 0) :
    read? spelled = some (Rat.divInt dividend divisor) := by
  have kept := bne_of_notMem (Decimal.slash_notMem_of_readInteger? above)
  unfold read?
  rw [cut, List.span_eq_takeWhile_dropWhile, List.takeWhile_append_of_pos kept,
    List.dropWhile_append_of_pos kept]
  simp [above, below, nonzero]

/-- The text of a rational number reads back as the number. -/
theorem read?_text (value : Rat) : read? (text value) = some value := by
  by_cases whole : value.den = 1
  · obtain ⟨number, rfl⟩ := (den_eq_one_iff_exists_intCast value).mp whole
    have read := Decimal.readInteger?_integerText number
    rw [text_intCast, read?_of_slash_notMem (Decimal.slash_notMem_of_readInteger? read), read]
    rfl
  · have nonzero : (value.den : Int) ≠ 0 := Int.natCast_ne_zero.mpr value.den_nz
    rw [read?_of_cut (toList_text_of_den_ne_one whole)
      (Decimal.readInteger?_integerText value.num)
      (Decimal.readInteger?_naturalText value.den) nonzero, Rat.num_divInt_den]

theorem text_injective : Function.Injective text := by
  intro first second same
  have read := read?_text first
  rw [same, read?_text, Option.some_inj] at read
  exact read.symm

/-- The text of an integer is a number of the exact domain. -/
theorem read?_exact_text_intCast (number : Int) :
    Domain.exact.read? (text (number : Rat)) = some (number : Rat) := by
  rw [text_intCast, Domain.read?_exact_eq, Decimal.readInteger?_integerText]
  rfl

/-- The text of a quotient is none. -/
theorem read?_exact_text_of_den_ne_one {value : Rat} (quotient : value.den ≠ 1) :
    Domain.exact.read? (text value) = none := by
  rw [Domain.read?_exact_eq, Option.map_eq_none_iff]
  cases read : Decimal.readInteger? (text value) with
  | none => rfl
  | some number =>
      have absent := Decimal.slash_notMem_of_readInteger? read
      rw [toList_text_of_den_ne_one quotient] at absent
      simp at absent

end Rational

/-- A rational number can be read off its text, integer or quotient. -/
theorem rational_texts_are_faithful (value : Rat) :
    (∀ number : Int, value = number →
      Rational.text value = toString number ∧
        Domain.exact.read? (Rational.text value) = some value) ∧
      ((∀ number : Int, value ≠ number) →
        2 ≤ value.den ∧
          Rational.text value = toString value.num ++ "/" ++ toString value.den ∧
          Domain.exact.read? (Rational.text value) = none) ∧
      Rational.read? (Rational.text value) = some value ∧
      ∀ other, Rational.text other = Rational.text value → other = value := by
  refine ⟨?_, fun quotient => ?_, Rational.read?_text value,
    fun other same => Rational.text_injective same⟩
  · rintro number rfl
    rw [← Decimal.integerText_eq_toString]
    exact ⟨Rational.text_intCast number, Rational.read?_exact_text_intCast number⟩
  · have notWhole : value.den ≠ 1 := by
      rw [Ne, Rational.den_eq_one_iff_exists_intCast]
      rintro ⟨number, same⟩
      exact quotient number same
    have positive := value.den_pos
    refine ⟨by omega, ?_, Rational.read?_exact_text_of_den_ne_one notWhole⟩
    rw [Rational.text_of_den_ne_one notWhole, Decimal.integerText_eq_toString,
      Decimal.naturalText_eq_toString]

/-- A quotient keeps its sign in the numerator and is no integer. -/
theorem rational_texts_are_faithful_of_negatives :
    Rational.text (6 / -8) = "-3/4" ∧ Rational.read? "-3/4" = some (6 / -8) ∧
      Domain.exact.read? "-3/4" = none ∧
      Rational.text (-70) = "-70" ∧ Domain.exact.read? "-70" = some (-70) := by
  have quotient : ∀ number : Int, (6 / -8 : Rat) ≠ number := by
    intro number same
    have denominators : (6 / -8 : Rat).den = 1 := by rw [same, Rat.den_intCast]
    exact absurd denominators (by decide +kernel)
  obtain ⟨-, written, read, -⟩ := rational_texts_are_faithful (6 / -8)
  obtain ⟨-, spelled, refused⟩ := written quotient
  have spelled : Rational.text (6 / -8) = "-3/4" := spelled.trans (by decide +kernel)
  obtain ⟨plain, accepted⟩ := (rational_texts_are_faithful (-70)).1 (-70) (by decide +kernel)
  have plain : Rational.text (-70) = "-70" := plain.trans (by decide +kernel)
  rw [spelled] at read refused
  rw [plain] at accepted
  exact ⟨spelled, read, refused, plain, accepted⟩

end PolishNotation
