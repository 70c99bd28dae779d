import PolishNotation.Proofs.PendingOperators

namespace PolishNotation

namespace Rules

/-- Nothing leaves the stack for a power that associates to the right. -/
theorem yields_power_of_right (pending : Operator) :
    (⟨true⟩ : Rules).yields .power pending = false := by
  cases pending <;> rfl

/-- Only a power leaves the stack for a power that associates to the left. -/
theorem yields_power_of_standard (pending : Operator) :
    standard.yields .power pending = (pending == .power) := by
  cases pending <;> rfl

/-- The rules differ for an incoming power alone. -/
theorem yields_eq_standard (rules : Rules) {incoming : Operator} (weaker : incoming ≠ .power) :
    rules.yields incoming = standard.yields incoming := by
  funext pending
  have other : (incoming == Operator.power) = false := by simpa using weaker
  simp only [yields, other, Bool.and_false]

theorem standard_yields_power (incoming : Operator) : standard.yields incoming .power = true := by
  cases incoming <;> rfl

end Rules

/-- The number of powers at the end of some operators. -/
def finalPowers (present : List Operator) : Nat :=
  (present.rtakeWhile (· == .power)).length

theorem finalPowers_concat_power (present : List Operator) :
    finalPowers (present ++ [Operator.power]) = finalPowers present + 1 := by
  rw [finalPowers, List.rtakeWhile_concat_pos _ _ _ (by rfl), List.length_append]
  rfl

theorem finalPowers_concat_weaker (present : List Operator) {sign : Operator}
    (weaker : sign ≠ .power) : finalPowers (present ++ [sign]) = 0 := by
  rw [finalPowers, List.rtakeWhile_concat, if_neg (by simpa using weaker), List.length_nil]

theorem replicate_power_suffix_iff (count : Nat) (present : List Operator) :
    List.replicate count Operator.power <:+ present ↔ count ≤ finalPowers present := by
  induction present using List.reverseRecOn generalizing count with
  | nil => simp [finalPowers]
  | append_singleton present sign inductionHypothesis =>
      cases count with
      | zero => simp
      | succ count =>
          have oneEach : [Operator.power].length = [sign].length := rfl
          rw [List.replicate_succ', List.suffix_append_inj_of_length_eq oneEach,
            inductionHypothesis, List.singleton_inj]
          by_cases power : sign = .power
          · rw [power, finalPowers_concat_power]
            simp
          · rw [finalPowers_concat_weaker present power]
            simp [Ne.symm power]

namespace Conversion

section Run

variable {below : List Operator} (count : Nat) (output : Array Symbol)

theorem read_power_of_right (conversion : Conversion) :
    read ⟨true⟩ conversion (.operator .power) =
      ⟨conversion.output, .power :: conversion.pending⟩ := by
  have stay : conversion.pending.takeWhile ((⟨true⟩ : Rules).yields .power) = [] ∧
      conversion.pending.dropWhile ((⟨true⟩ : Rules).yields .power) = conversion.pending := by
    cases conversion.pending <;> simp [Rules.yields_power_of_right]
  rw [read, stay.1, stay.2]
  rfl

theorem yields_of_mem_run (sign : Operator) :
    ∀ other ∈ List.replicate count Operator.power, Rules.standard.yields sign other = true := by
  intro other member
  rw [List.eq_of_mem_replicate member]
  exact Rules.standard_yields_power sign

/-- A run of powers leaves the stack for a further power. -/
theorem read_power_of_standard (weaker : Operator.power ∉ below) :
    read Rules.standard ⟨output, List.replicate count Operator.power ++ below⟩ (.operator .power) =
      ⟨putOut output (List.replicate count Operator.power), .power :: below⟩ := by
  have stay : below.takeWhile (Rules.standard.yields .power) = [] ∧
      below.dropWhile (Rules.standard.yields .power) = below := by
    cases below with
    | nil => simp
    | cons top rest =>
        have other : top ≠ .power := fun same => weaker (same ▸ List.mem_cons_self ..)
        simp [Rules.yields_power_of_standard, other]
  rw [read, List.takeWhile_append_of_pos (yields_of_mem_run count .power),
    List.dropWhile_append_of_pos (yields_of_mem_run count .power), stay.1, stay.2,
    List.append_nil]

/-- It leaves for any weaker operator, with all that this one overtakes. -/
theorem read_weaker (rules : Rules) {sign : Operator} (weaker : sign ≠ .power) :
    read rules ⟨output, List.replicate count Operator.power ++ below⟩ (.operator sign) =
      ⟨putOut output (List.replicate count Operator.power ++
          below.takeWhile (Rules.standard.yields sign)),
        sign :: below.dropWhile (Rules.standard.yields sign)⟩ := by
  rw [read, rules.yields_eq_standard weaker,
    List.takeWhile_append_of_pos (yields_of_mem_run count sign),
    List.dropWhile_append_of_pos (yields_of_mem_run count sign)]

end Run

/-- Two conversions of one expression differ in a run of powers alone. -/
structure Twins (powers : Nat) (below : List Operator) (late early : Conversion) : Prop where
  weaker : Operator.power ∉ below
  latePending : late.pending = List.replicate powers Operator.power ++ below
  earlyPending : early.pending = List.replicate (min powers 1) Operator.power ++ below
  output : early.output.toList =
    late.output.toList ++ List.replicate (powers - 1) (Symbol.operator .power)

section Twins

variable {powers : Nat} {below : List Operator} {late early : Conversion}

/-- The powers put out and the one that waits make the run. -/
theorem replicate_powers_append (rest : List Symbol) :
    List.replicate (powers - 1) (Symbol.operator .power) ++
        (List.replicate (min powers 1) (Symbol.operator .power) ++ rest) =
      List.replicate powers (Symbol.operator .power) ++ rest := by
  have sum : powers - 1 + min powers 1 = powers := by omega
  rw [← List.append_assoc, List.replicate_append_replicate, sum]

/-- An operand after a single power, or after none, comes at the same place. -/
theorem Twins.read_operand (twins : Twins powers below late early) (few : powers ≤ 1)
    (operand : Operand) :
    Twins powers below (read ⟨true⟩ late (.operand operand))
      (read Rules.standard early (.operand operand)) where
  weaker := twins.weaker
  latePending := twins.latePending
  earlyPending := twins.earlyPending
  output := by
    have none : powers - 1 = 0 := by omega
    simp only [read, Array.toList_push, twins.output, none, List.replicate_zero,
      List.append_nil]

/-- A further power makes the run longer. -/
theorem Twins.read_power (twins : Twins powers below late early) :
    Twins (powers + 1) below (read ⟨true⟩ late (.operator .power))
      (read Rules.standard early (.operator .power)) := by
  obtain ⟨earlyOutput, _⟩ := early
  obtain ⟨weaker, latePending, rfl, output⟩ := twins
  rw [read_power_of_right, read_power_of_standard _ _ weaker]
  refine ⟨weaker, ?_, ?_, ?_⟩
  · rw [latePending]
    rfl
  · rw [Nat.min_eq_right (Nat.le_add_left 1 powers)]
    rfl
  · have whole := @replicate_powers_append powers []
    rw [List.append_nil, List.append_nil] at whole
    rw [toList_putOut, output, List.map_replicate, List.append_assoc, whole]
    rfl

/-- Any other operator ends the run, and the two conversions are the same again. -/
theorem Twins.read_weaker (twins : Twins powers below late early) {sign : Operator}
    (weaker : sign ≠ .power) :
    Twins 0 (sign :: below.dropWhile (Rules.standard.yields sign))
      (read ⟨true⟩ late (.operator sign)) (read Rules.standard early (.operator sign)) := by
  obtain ⟨lateOutput, _⟩ := late
  obtain ⟨earlyOutput, _⟩ := early
  obtain ⟨noPower, rfl, rfl, output⟩ := twins
  change earlyOutput.toList =
    lateOutput.toList ++ List.replicate (powers - 1) (Symbol.operator .power) at output
  rw [Conversion.read_weaker _ _ _ weaker, Conversion.read_weaker _ _ _ weaker]
  refine ⟨?_, rfl, rfl, ?_⟩
  · intro member
    rcases List.mem_cons.mp member with same | staying
    · exact weaker same.symm
    · exact noPower ((List.dropWhile_sublist _).subset staying)
  · simp only [toList_putOut, output, List.map_append, List.map_replicate, List.append_assoc,
      replicate_powers_append, Nat.zero_sub, List.replicate_zero, List.append_nil]

theorem Twins.finish (twins : Twins powers below late early) : late.finish = early.finish := by
  simp only [finish_eq, twins.output, twins.latePending, twins.earlyPending, List.map_append,
    List.map_replicate, List.append_assoc, replicate_powers_append]

end Twins

/-- What has been put out stays in front of the whole postfix form. -/
theorem exists_finish_foldl (rules : Rules) (conversion : Conversion)
    (expression : List Symbol) :
    ∃ later, (expression.foldl (read rules) conversion).finish =
      conversion.output.toList ++ later := by
  induction expression generalizing conversion with
  | nil => exact ⟨_, finish_eq conversion⟩
  | cons symbol rest inductionHypothesis =>
      obtain ⟨later, grown⟩ := inductionHypothesis (read rules conversion symbol)
      rw [List.foldl_cons, grown]
      cases symbol with
      | operand operand => exact ⟨.operand operand :: later, by simp [read]⟩
      | operator sign => exact ⟨_, by rw [read, toList_putOut, List.append_assoc]⟩

/-- An operand comes right after what has been put out before it. -/
theorem exists_postfixOrder_at (rules : Rules) (before : List Symbol) (operand : Operand)
    (following : List Symbol) :
    ∃ later, postfixOrder rules (before ++ [.operand operand] ++ following) =
      (after rules before).output.toList ++ Symbol.operand operand :: later := by
  have output : (after rules (before ++ [.operand operand])).output.toList =
      (after rules before).output.toList ++ [.operand operand] := by
    rw [after_concat, read, Array.toList_push]
  obtain ⟨later, grown⟩ :=
    exists_finish_foldl rules (after rules (before ++ [.operand operand])) following
  rw [output, List.append_assoc] at grown
  exists later
  rw [postfixOrder, after, List.foldl_append]
  exact grown

end Conversion

/-- An operand follows two powers with no other operator between or behind them. -/
def HasLatePowers (expression : List Symbol) : Prop :=
  ∃ before operand, before ++ [Symbol.operand operand] <+: expression ∧
    [Operator.power, .power] <:+ signs before

theorem hasLatePowers_concat_iff {expression : List Symbol} {symbol : Symbol} :
    HasLatePowers (expression ++ [symbol]) ↔
      HasLatePowers expression ∨
        ∃ operand, symbol = .operand operand ∧
          [Operator.power, .power] <:+ signs expression := by
  constructor
  · intro late
    obtain ⟨before, operand, place, powers⟩ := late
    rcases List.prefix_concat_iff.mp place with same | earlier
    · obtain ⟨rfl, last⟩ := List.append_inj' same rfl
      exact .inr ⟨operand, (List.singleton_inj.mp last).symm, powers⟩
    · exact .inl ⟨before, operand, earlier, powers⟩
  · intro late
    rcases late with ⟨before, operand, earlier, powers⟩ | ⟨operand, rfl, powers⟩
    · exact ⟨before, operand, earlier.trans (List.prefix_append ..), powers⟩
    · exact ⟨expression, operand, List.prefix_refl _, powers⟩

/-- There is a first operand of this kind if there is any. -/
theorem HasLatePowers.exists_first {expression : List Symbol} (late : HasLatePowers expression) :
    ∃ before operand, before ++ [Symbol.operand operand] <+: expression ∧
      [Operator.power, .power] <:+ signs before ∧ ¬HasLatePowers before := by
  induction expression using List.reverseRecOn with
  | nil =>
      obtain ⟨before, operand, impossible, -⟩ := late
      simp at impossible
  | append_singleton expression symbol inductionHypothesis =>
      by_cases earlier : HasLatePowers expression
      · obtain ⟨before, operand, place, powers, never⟩ := inductionHypothesis earlier
        exact ⟨before, operand, place.trans (List.prefix_append ..), powers, never⟩
      · obtain ⟨operand, rfl, powers⟩ := (hasLatePowers_concat_iff.mp late).resolve_left earlier
        exact ⟨expression, operand, List.prefix_refl _, powers, earlier⟩

/-- Until such an operand comes, the conversions under the two rules are twins. -/
theorem exists_twins {expression : List Symbol} (never : ¬HasLatePowers expression) :
    ∃ below, Conversion.Twins (finalPowers (signs expression)) below
      (Conversion.after ⟨true⟩ expression) (Conversion.after Rules.standard expression) := by
  induction expression using List.reverseRecOn with
  | nil => exact ⟨[], by simp, rfl, rfl, rfl⟩
  | append_singleton expression symbol inductionHypothesis =>
      rw [hasLatePowers_concat_iff, not_or] at never
      obtain ⟨below, twins⟩ := inductionHypothesis never.1
      rw [Conversion.after_concat, Conversion.after_concat, signs_append]
      cases symbol with
      | operand operand =>
          have few : finalPowers (signs expression) ≤ 1 := by
            by_contra many
            have powers := (replicate_power_suffix_iff 2 (signs expression)).mpr (by omega)
            exact never.2 ⟨operand, rfl, powers⟩
          rw [signs_cons_operand, signs_nil, List.append_nil]
          exact ⟨below, twins.read_operand few operand⟩
      | operator sign =>
          rw [signs_cons_operator, signs_nil]
          by_cases power : sign = .power
          · rw [power, finalPowers_concat_power]
            exact ⟨below, twins.read_power⟩
          · rw [finalPowers_concat_weaker _ power]
            exact ⟨_, twins.read_weaker power⟩

/-- The two rules give different orders just where an operand comes after two powers. -/
theorem postfixOrder_right_ne_standard_iff (expression : List Symbol) :
    postfixOrder ⟨true⟩ expression ≠ postfixOrder Rules.standard expression ↔
      HasLatePowers expression := by
  constructor
  · intro different
    by_contra never
    obtain ⟨below, twins⟩ := exists_twins never
    exact different twins.finish
  · intro late same
    obtain ⟨before, operand, ⟨following, rfl⟩, powers, never⟩ := late.exists_first
    obtain ⟨below, twins⟩ := exists_twins never
    have many : 2 ≤ finalPowers (signs before) :=
      (replicate_power_suffix_iff 2 (signs before)).mp powers
    have gap : finalPowers (signs before) - 1 = finalPowers (signs before) - 2 + 1 := by omega
    -- The standard rule has put out a power where the other rule puts out the operand.
    obtain ⟨onRight, rightForm⟩ :=
      Conversion.exists_postfixOrder_at ⟨true⟩ before operand following
    obtain ⟨onLeft, leftForm⟩ :=
      Conversion.exists_postfixOrder_at Rules.standard before operand following
    rw [rightForm, leftForm, twins.output, List.append_assoc, List.append_cancel_left_eq, gap,
      List.replicate_succ, List.cons_append] at same
    cases (List.cons.inj same).1

/-- An operand character follows two powers with no other operator between or behind. -/
def HasLatePowersIn (text : String) : Prop :=
  ∃ (before : String) (operand : Char) (after : String),
    text = before ++ String.singleton operand ++ after ∧ isOperand operand = true ∧
      [Operator.power, .power] <:+ operators before

theorem hasLatePowers_symbols_iff (text : String) :
    HasLatePowers (symbols text) ↔ HasLatePowersIn text := by
  constructor
  · intro late
    obtain ⟨before, operand, ⟨following, split⟩, powers⟩ := late
    rw [List.append_assoc, eq_comm] at split
    obtain ⟨front, rest, cut, rfl, continued⟩ := List.filterMap_eq_append_iff.mp split
    obtain ⟨noise, character, back, rfl, dropped, kept, -⟩ :=
      List.filterMap_eq_cons_iff.mp continued
    obtain rfl := Symbol.character_of_ofChar? kept
    refine ⟨String.ofList (front ++ noise), operand.character, String.ofList back, ?_,
      operand.admissible, ?_⟩
    · apply String.toList_inj.mp
      rw [cut]
      simp [Symbol.character]
    · rw [← signs_symbols, symbols, String.toList_ofList, List.filterMap_append,
        List.filterMap_eq_nil_iff.mpr dropped, List.append_nil]
      exact powers
  · intro late
    obtain ⟨before, operand, after, rfl, admissible, powers⟩ := late
    have read : symbols (String.singleton operand) = [.operand ⟨operand, admissible⟩] :=
      symbols_of_token (.operand ⟨operand, admissible⟩)
    rw [← signs_symbols] at powers
    refine ⟨symbols before, ⟨operand, admissible⟩, ?_, powers⟩
    rw [symbols_append, symbols_append, read]
    exact List.prefix_append ..

/-- The rules differ on a text just where an operand follows two powers. -/
theorem toPostfix_right_ne_standard_iff (text : String) :
    toPostfix ⟨true⟩ text ≠ toPostfix Rules.standard text ↔ HasLatePowersIn text := by
  rw [← hasLatePowers_symbols_iff, ← postfixOrder_right_ne_standard_iff, not_iff_not,
    ← TokenSequence.toList_inj, toList_toPostfix, toList_toPostfix]
  exact List.map_inj_right fun first second => Symbol.token_inj.mp

/-- The rules differ on the powers before the sum and then agree again. -/
example : toPostfix ⟨true⟩ "2^^+3^4" = toPostfix Rules.standard "2^^+3^4" := by cbv

end PolishNotation
