/-
This file tells the outcome of an evaluation from counts of numbers and operators.
-/

import PolishNotation.Proofs.TreeScan

namespace PolishNotation

/-- A strange token is neither a number nor an operator. -/
def IsStrange (token : String) : Prop :=
  (Decimal.Literal.read? token).isSome = false ∧ (Operator.ofToken? token).isSome = false

def literalCount (tokens : List String) : Nat :=
  tokens.countP fun token => (Decimal.Literal.read? token).isSome

def operatorCount (tokens : List String) : Nat :=
  tokens.countP fun token => (Operator.ofToken? token).isSome

/-- Every number adds a value to the stack, every operator takes one. -/
def surplus (tokens : List String) : Int := (literalCount tokens : Int) - operatorCount tokens

/-- A short operator finds less than two values after the tokens met. -/
def IsShort (met : List String) (token : String) : Prop :=
  (Operator.ofToken? token).isSome = true ∧ surplus met < 2

/-- A scan ends at a strange token and at a short operator. -/
def Stops (met : List String) (token : String) : Prop := IsStrange token ∨ IsShort met token

instance (token : String) : Decidable (IsStrange token) :=
  inferInstanceAs (Decidable (_ ∧ _))

instance (met : List String) (token : String) : Decidable (IsShort met token) :=
  inferInstanceAs (Decidable (_ ∧ _))

instance (met : List String) (token : String) : Decidable (Stops met token) :=
  inferInstanceAs (Decidable (_ ∨ _))

@[simp] theorem surplus_nil : surplus [] = 0 := rfl

theorem surplus_concat (tokens : List String) (token : String) :
    surplus (tokens ++ [token]) =
      surplus tokens + ((if (Decimal.Literal.read? token).isSome then 1 else 0) -
        (if (Operator.ofToken? token).isSome then 1 else 0)) := by
  simp only [surplus, literalCount, operatorCount, List.countP_append, List.countP_singleton]
  split <;> split <;> omega

theorem surplus_perm {first second : List String} (same : first.Perm second) :
    surplus first = surplus second := by
  rw [surplus, surplus, literalCount, operatorCount, same.countP_eq, same.countP_eq]
  rfl

theorem stops_perm {first second : List String} (same : first.Perm second) (token : String) :
    Stops first token ↔ Stops second token := by
  rw [Stops, Stops, IsShort, IsShort, surplus_perm same]

namespace Domain

variable {Value : Type} {domain : Domain Value} {direction : Direction}

section Step

variable (reads : domain.ReadsLiterals) {token : String} (position : Nat)
include reads

theorem step_of_literal (direction : Direction)
    (literal : (Decimal.Literal.read? token).isSome = true)
    (stack : List Value) :
    ∃ value, domain.step direction stack (token, position) = .ok (value :: stack) := by
  rw [← reads token] at literal
  obtain ⟨value, read⟩ := Option.isSome_iff_exists.mp literal
  exact ⟨value, step_number read stack position⟩

theorem step_of_strange (strange : IsStrange token) (stack : List Value) :
    domain.step direction stack (token, position) = .error (.notNumeric token position) := by
  have unnamed : Operator.ofToken? token = none :=
    Option.not_isSome_iff_eq_none.mp (by rw [strange.2]; decide)
  simp only [step, reads.read?_eq_none strange.1, unnamed]

theorem step_of_few (operator : (Operator.ofToken? token).isSome = true) {stack : List Value}
    (few : stack.length < 2) :
    domain.step direction stack (token, position) =
      .error (.missingOperands token position) := by
  obtain ⟨sign, named⟩ := Option.isSome_iff_exists.mp operator
  simp only [step, reads.read?_eq_none (isSome_read?_of_ofToken? operator), named]
  cases stack with
  | nil => rfl
  | cons top others =>
      cases others with
      | nil => rfl
      | cons below rest =>
          simp only [List.length_cons] at few
          omega

theorem step_of_operator (direction : Direction) (total : domain.IsTotal)
    (operator : (Operator.ofToken? token).isSome = true) {stack : List Value}
    (enough : 2 ≤ stack.length) :
    ∃ next, domain.step direction stack (token, position) = .ok next ∧
      next.length + 1 = stack.length := by
  obtain ⟨sign, named⟩ := Option.isSome_iff_exists.mp operator
  cases stack with
  | nil => simp at enough
  | cons top others =>
      cases others with
      | nil => simp at enough
      | cons below rest =>
          obtain ⟨value, succeeded⟩ := exists_combine total direction sign top below
          refine ⟨value :: rest, ?_, rfl⟩
          simp only [step, reads.read?_eq_none (isSome_read?_of_ofToken? operator), named,
            succeeded]

end Step

/-- No token of a sound notation stops the scan. -/
def Sound (placed : List (String × Nat)) : Prop :=
  ∀ before token position after, placed = before ++ (token, position) :: after →
    ¬Stops (before.map Prod.fst) token

theorem Sound.before {before after : List (String × Nat)} (sound : Sound (before ++ after)) :
    Sound before := by
  rintro earlier token position later rfl
  exact sound earlier token position (later ++ after) (by simp)

theorem Sound.concat {placed : List (String × Nat)} (sound : Sound placed) {token : String}
    (admitted : ¬Stops (placed.map Prod.fst) token) (position : Nat) :
    Sound (placed ++ [(token, position)]) := by
  intro before other place after same
  rcases List.eq_nil_or_concat after with rfl | ⟨others, final, rfl⟩
  · obtain ⟨rfl, last⟩ := List.append_inj' same rfl
    obtain ⟨rfl, -⟩ := Prod.mk.inj (List.singleton_inj.mp last)
    exact admitted
  · rw [List.concat_eq_append, ← List.cons_append, ← List.append_assoc] at same
    obtain ⟨rfl, -⟩ := List.append_inj' same rfl
    exact sound before other place others rfl

theorem sound_concat_iff {placed : List (String × Nat)} {token : String} {position : Nat} :
    Sound (placed ++ [(token, position)]) ↔
      Sound placed ∧ ¬Stops (placed.map Prod.fst) token := by
  constructor
  · intro sound
    exact ⟨sound.before, sound placed token position [] rfl⟩
  · rintro ⟨sound, admitted⟩
    exact sound.concat admitted position

/-- A notation is sound or has a token that stops the scan first. -/
theorem sound_or_first_stop (placed : List (String × Nat)) :
    Sound placed ∨ ∃ before token position after,
      placed = before ++ (token, position) :: after ∧ Sound before ∧
        Stops (before.map Prod.fst) token := by
  induction placed using List.reverseRecOn with
  | nil =>
      left
      intro before token position after impossible
      simp at impossible
  | append_singleton placed last inductionHypothesis =>
      obtain ⟨token, position⟩ := last
      rcases inductionHypothesis with sound | ⟨before, other, earlier, after, rfl, sound, stops⟩
      · by_cases stops : Stops (placed.map Prod.fst) token
        · exact .inr ⟨placed, token, position, [], rfl, sound, stops⟩
        · exact .inl (sound.concat stops position)
      · exact .inr ⟨before, other, earlier, after ++ [(token, position)], by simp, sound, stops⟩

/-- The scan of a sound notation leaves as many values as counted. -/
theorem scan_of_sound (direction : Direction) (reads : domain.ReadsLiterals)
    (total : domain.IsTotal) {placed : List (String × Nat)} (sound : Sound placed) :
    ∃ stack, domain.scan direction [] placed = .ok stack ∧
      (stack.length : Int) = surplus (placed.map Prod.fst) ∧
        (placed ≠ [] → 0 < stack.length) := by
  -- Each token is judged by those before it, so the last one is added to a scan of the others.
  induction placed using List.reverseRecOn with
  | nil => exact ⟨[], rfl, rfl, fun nonempty => absurd rfl nonempty⟩
  | append_singleton placed last inductionHypothesis =>
      obtain ⟨token, position⟩ := last
      obtain ⟨stack, scanned, height, -⟩ := inductionHypothesis sound.before
      have admitted := sound placed token position [] rfl
      rw [List.map_append, List.map_singleton, surplus_concat, ← height, scan_append, scanned]
      cases literal : (Decimal.Literal.read? token).isSome with
      | true =>
          have unnamed : (Operator.ofToken? token).isSome = false := by
            by_contra named
            rw [Bool.not_eq_false] at named
            rw [isSome_read?_of_ofToken? named] at literal
            cases literal
          obtain ⟨value, stepped⟩ := step_of_literal reads position direction literal stack
          refine ⟨value :: stack, by simp only [scan, stepped], ?_, fun _ => Nat.succ_pos _⟩
          rw [unnamed]
          simp
      | false =>
          have named : (Operator.ofToken? token).isSome = true := by
            by_contra unnamed
            rw [Bool.not_eq_true] at unnamed
            exact admitted (.inl ⟨literal, unnamed⟩)
          have enough : 2 ≤ stack.length := by
            by_contra few
            exact admitted (.inr ⟨named, by rw [← height]; omega⟩)
          obtain ⟨next, stepped, lower⟩ := step_of_operator reads position direction total named
            enough
          refine ⟨next, by simp only [scan, stepped], ?_, fun _ => by omega⟩
          rw [named, ← lower]
          simp

/-- The first token that stops a scan decides the fault. -/
theorem scan_of_first_stop (reads : domain.ReadsLiterals) (total : domain.IsTotal)
    {before after : List (String × Nat)} {token : String} {position : Nat}
    (sound : Sound before) (stops : Stops (before.map Prod.fst) token) :
    domain.scan direction [] (before ++ (token, position) :: after) =
      .error (if IsStrange token then .notNumeric token position
        else .missingOperands token position) := by
  obtain ⟨stack, scanned, height, -⟩ := scan_of_sound direction reads total sound
  rw [scan_append, scanned]
  by_cases strange : IsStrange token
  · simp only [scan, step_of_strange reads position strange, if_pos strange]
  · obtain ⟨named, few⟩ := stops.resolve_left strange
    rw [← height] at few
    have fewValues : stack.length < 2 := by omega
    simp only [scan, step_of_few reads position named fewValues, if_neg strange]

/-- A complete scan tells by its height whether it has one value. -/
theorem conclude_by_length (stack : List Value) :
    (conclude stack = .error .emptyInput ↔ stack.length = 0) ∧
      (∀ count, conclude stack = .error (.leftover count) ↔
        count = stack.length ∧ 2 ≤ stack.length) ∧
      ((∃ value, conclude stack = .ok value) ↔ stack.length = 1) := by
  cases stack with
  | nil => simp [conclude]
  | cons top others =>
      cases others with
      | nil => simp [conclude]
      | cons below rest => simp [conclude, eq_comm]

/-- A notation has a value if nothing stops it and one is left. -/
theorem exists_run_iff (direction : Direction) (reads : domain.ReadsLiterals)
    (total : domain.IsTotal) (placed : List (String × Nat)) :
    (∃ value, domain.run direction placed = .ok value) ↔
      Sound placed ∧ surplus (placed.map Prod.fst) = 1 := by
  rcases sound_or_first_stop placed with sound | stopped
  · obtain ⟨stack, scanned, height, -⟩ := scan_of_sound direction reads total sound
    rw [Domain.run, scanned, ← height]
    refine (conclude_by_length stack).2.2.trans ?_
    constructor
    · intro single
      exact ⟨sound, by omega⟩
    · rintro ⟨-, single⟩
      omega
  · obtain ⟨before, token, position, after, rfl, sound, stops⟩ := stopped
    rw [Domain.run, scan_of_first_stop reads total sound stops]
    constructor
    · rintro ⟨value, impossible⟩
      cases impossible
    · rintro ⟨whole, -⟩
      exact absurd stops (whole before token position after rfl)

end Domain

namespace Direction

/-- The tokens in the order of a scan, with positions from the left. -/
def placed : Direction → List String → List (String × Nat)
  | .forward, tokens => tokens.zipIdx
  | .backward, tokens => tokens.zipIdx.reverse

/-- A forward scan meets the smaller positions first, a backward scan the greater ones. -/
def Precedes : Direction → Nat → Nat → Prop
  | .forward, earlier, later => earlier < later
  | .backward, earlier, later => later < earlier

/-- The tokens that a scan meets before a position. -/
def met : Direction → List String → Nat → List String
  | .forward, tokens, position => tokens.take position
  | .backward, tokens, position => tokens.drop (position + 1)

theorem perm_map_placed (direction : Direction) (tokens : List String) :
    ((direction.placed tokens).map Prod.fst).Perm tokens := by
  cases direction with
  | forward => rw [placed, List.zipIdx_map_fst]
  | backward =>
      rw [placed, List.map_reverse, List.zipIdx_map_fst]
      exact tokens.reverse_perm

theorem placed_eq_nil_iff (direction : Direction) (tokens : List String) :
    direction.placed tokens = [] ↔ tokens = [] := by
  cases direction <;> simp [placed]

theorem mem_placed_iff (direction : Direction) {tokens : List String} {token : String}
    {position : Nat} :
    (token, position) ∈ direction.placed tokens ↔ tokens[position]? = some token := by
  cases direction with
  | forward => exact List.mem_zipIdx_iff_getElem?
  | backward => rw [placed, List.mem_reverse, List.mem_zipIdx_iff_getElem?]

/-- Positions count the tokens on the left. -/
theorem zipIdx_split {tokens : List String} {before after : List (String × Nat)}
    {token : String} {position : Nat}
    (split : tokens.zipIdx = before ++ (token, position) :: after) :
    before = (tokens.take position).zipIdx ∧
      after = (tokens.drop (position + 1)).zipIdx (position + 1) := by
  obtain ⟨left, others, rfl, rfl, rest⟩ := List.zipIdx_eq_append_iff.mp split
  obtain ⟨first, right, rfl, here, rfl⟩ := List.zipIdx_eq_cons_iff.mp rest.symm
  obtain ⟨rfl, rfl⟩ := Prod.mk.inj here
  simp

/-- A scan has met the tokens at the preceding positions, and no others. -/
structure IsMet (direction : Direction) (tokens : List String) (position : Nat)
    (before after : List (String × Nat)) : Prop where
  perm : (before.map Prod.fst).Perm (direction.met tokens position)
  earlier : ∀ other ∈ before, direction.Precedes other.2 position
  later : ∀ other ∈ after, direction.Precedes position other.2

theorem isMet_of_split {direction : Direction} {tokens : List String}
    {before after : List (String × Nat)} {token : String} {position : Nat}
    (split : direction.placed tokens = before ++ (token, position) :: after) :
    direction.IsMet tokens position before after := by
  cases direction with
  | forward =>
      obtain ⟨rfl, rfl⟩ := zipIdx_split split
      refine ⟨by rw [List.zipIdx_map_fst]; rfl, fun other member => ?_, fun other member => ?_⟩
      · have inside := List.snd_lt_of_mem_zipIdx member
        rw [List.length_take] at inside
        change other.2 < position
        omega
      · exact List.le_snd_of_mem_zipIdx member
  | backward =>
      rw [placed, List.reverse_eq_iff] at split
      simp only [List.reverse_append, List.reverse_cons, List.append_assoc,
        List.singleton_append] at split
      obtain ⟨left, right⟩ := zipIdx_split split
      refine ⟨?_, fun other member => ?_, fun other member => ?_⟩
      · have names := congrArg (List.map Prod.fst) right
        rw [List.zipIdx_map_fst, List.map_reverse] at names
        rw [met, ← names]
        exact (List.reverse_perm _).symm
      · rw [← List.mem_reverse, right] at member
        exact List.le_snd_of_mem_zipIdx member
      · rw [← List.mem_reverse, left] at member
        have inside := List.snd_lt_of_mem_zipIdx member
        rw [List.length_take] at inside
        change other.2 < position
        omega

theorem Precedes.not_symm {direction : Direction} {earlier later : Nat}
    (order : direction.Precedes earlier later) : ¬direction.Precedes later earlier := by
  cases direction with
  | forward => exact Nat.lt_asymm order
  | backward => exact Nat.lt_asymm order

end Direction

/-- A scan stops first where it has not stopped before. -/
structure StopsFirst (direction : Direction) (tokens : List String) (position : Nat)
    (token : String) : Prop where
  here : tokens[position]? = some token
  stops : Stops (direction.met tokens position) token
  first : ∀ earlier other, direction.Precedes earlier position →
    tokens[earlier]? = some other → ¬Stops (direction.met tokens earlier) other

section First

variable {direction : Direction} {tokens : List String} {token : String} {position : Nat}

/-- The tokens before the first stop are sound. -/
theorem StopsFirst.exists_split (stop : StopsFirst direction tokens position token) :
    ∃ before after, direction.placed tokens = before ++ (token, position) :: after ∧
      Domain.Sound before ∧ Stops (before.map Prod.fst) token := by
  obtain ⟨before, after, split⟩ :=
    List.append_of_mem ((Direction.mem_placed_iff direction).mpr stop.here)
  have isMet := Direction.isMet_of_split split
  refine ⟨before, after, split, ?_, (stops_perm isMet.perm token).mpr stop.stops⟩
  rintro front other earlier back rfl stopsEarlier
  rw [List.append_assoc, List.cons_append] at split
  have here : tokens[earlier]? = some other := by
    rw [← Direction.mem_placed_iff direction, split]
    simp
  refine stop.first earlier other (isMet.earlier (other, earlier) (by simp)) here ?_
  exact (stops_perm (Direction.isMet_of_split split).perm other).mp stopsEarlier

/-- A token that stops a scan after sound tokens does so first. -/
theorem stopsFirst_of_split {before after : List (String × Nat)}
    (split : direction.placed tokens = before ++ (token, position) :: after)
    (sound : Domain.Sound before) (stops : Stops (before.map Prod.fst) token) :
    StopsFirst direction tokens position token := by
  have isMet := Direction.isMet_of_split split
  refine ⟨?_, (stops_perm isMet.perm token).mp stops, ?_⟩
  · rw [← Direction.mem_placed_iff direction, split]
    simp
  · intro earlier other order present
    rw [← Direction.mem_placed_iff direction, split, List.mem_append,
      List.mem_cons] at present
    rcases present with inBefore | same | inAfter
    · obtain ⟨front, back, rfl⟩ := List.append_of_mem inBefore
      rw [List.append_assoc, List.cons_append] at split
      rw [← stops_perm (Direction.isMet_of_split split).perm other]
      exact sound front other earlier back rfl
    · obtain ⟨rfl, rfl⟩ := Prod.mk.inj same
      exact absurd order order.not_symm
    · exact absurd order (isMet.later (other, earlier) inAfter).not_symm

end First

/-- The counts of numbers and operators determine the outcome of an evaluation. -/
structure OutcomeByCounts {Value : Type} (direction : Direction) (tokens : List String)
    (outcome : Except Fault Value) : Prop where
  strange : ∀ position token, StopsFirst direction tokens position token → IsStrange token →
    outcome = .error (.notNumeric token position)
  short : ∀ position token, StopsFirst direction tokens position token → ¬IsStrange token →
    outcome = .error (.missingOperands token position)
  complete : (∀ position token, ¬StopsFirst direction tokens position token) →
    (outcome = .error .emptyInput ↔ tokens = []) ∧
      (∀ count, outcome = .error (.leftover count) ↔
        (count : Int) = surplus tokens ∧ 2 ≤ surplus tokens) ∧
      ((∃ value, outcome = .ok value) ↔ surplus tokens = 1)

/-- Where every operation has a result the outcome depends on the counts alone. -/
theorem Domain.run_outcomeByCounts {Value : Type} {domain : Domain Value}
    (reads : domain.ReadsLiterals) (total : domain.IsTotal) (direction : Direction)
    (tokens : List String) :
    OutcomeByCounts direction tokens (domain.run direction (direction.placed tokens)) := by
  have atStop {position : Nat} {token : String}
      (stop : StopsFirst direction tokens position token) :
      domain.run direction (direction.placed tokens) =
        .error (if IsStrange token then .notNumeric token position
          else .missingOperands token position) := by
    obtain ⟨before, after, split, sound, stops⟩ := stop.exists_split
    rw [split, Domain.run, Domain.scan_of_first_stop reads total sound stops]
  refine ⟨?_, ?_, ?_⟩
  · intro position token stop strange
    rw [atStop stop, if_pos strange]
  · intro position token stop known
    rw [atStop stop, if_neg known]
  · intro unstopped
    have sound : Domain.Sound (direction.placed tokens) := by
      rcases Domain.sound_or_first_stop (direction.placed tokens) with sound | stopped
      · exact sound
      · obtain ⟨before, token, position, after, split, sound, stops⟩ := stopped
        exact absurd (stopsFirst_of_split split sound stops) (unstopped position token)
    obtain ⟨stack, scanned, height, nonempty⟩ :=
      Domain.scan_of_sound direction reads total sound
    rw [surplus_perm (direction.perm_map_placed tokens)] at height
    have noToken : stack.length = 0 ↔ tokens = [] := by
      rw [← direction.placed_eq_nil_iff]
      constructor
      · intro noValue
        by_contra someToken
        exact absurd (nonempty someToken) (by omega)
      · intro empty
        rw [direction.placed_eq_nil_iff] at empty
        rw [empty, surplus_nil] at height
        omega
    obtain ⟨empty, leftover, single⟩ := Domain.conclude_by_length stack
    rw [Domain.run, scanned]
    refine ⟨empty.trans noToken, fun count => (leftover count).trans ?_, single.trans ?_⟩
    · omega
    · omega

/-- The counts of numbers and operators determine both evaluations. -/
theorem evaluations_follow_counts (sequence : TokenSequence) :
    OutcomeByCounts .forward sequence.toList (Domain.floating.evaluatePostfix sequence) ∧
      OutcomeByCounts .backward sequence.split (Domain.floating.evaluatePrefix sequence) := by
  have reads := Domain.readsLiterals_total Decimal.Literal.toFloat Domain.applyFloat
  have total := Domain.isTotal_total Decimal.Literal.toFloat Domain.applyFloat
  exact ⟨Domain.run_outcomeByCounts reads total .forward sequence.toList,
    Domain.run_outcomeByCounts reads total .backward sequence.split⟩

/-- The prefix scan stops at the power and never reaches the letter. -/
theorem evaluations_follow_counts_of_short_power :
    StopsFirst .backward (TokenSequence.ofList ["-a", "^2"]).split 2 "^" ∧
      Domain.floating.evaluatePrefix (.ofList ["-a", "^2"]) = .error (.missingOperands "^" 2) ∧
      Domain.floating.evaluatePostfix (.ofList ["1", "inf", "+", "NaN"]) =
        .error (.leftover 2) := by
  have characters : (TokenSequence.ofList ["-a", "^2"]).split = ["-", "a", "^", "2"] := by cbv
  have stop : StopsFirst .backward (TokenSequence.ofList ["-a", "^2"]).split 2 "^" := by
    rw [characters]
    refine ⟨rfl, by decide +kernel, fun earlier other order present => ?_⟩
    have inside : earlier < 4 := (List.getElem?_eq_some_iff.mp present).1
    obtain rfl : earlier = 3 := by
      change 2 < earlier at order
      omega
    obtain rfl : "2" = other := Option.some.inj present
    decide +kernel
  have unstopped : ∀ position token, ¬StopsFirst .forward
      (TokenSequence.ofList ["1", "inf", "+", "NaN"]).toList position token := by
    intro position token stopped
    have none : ∀ place < 4, ∀ name ∈ ["1", "inf", "+", "NaN"][place]?,
        ¬Stops (["1", "inf", "+", "NaN"].take place) name := by decide +kernel
    have inside : position < 4 := (List.getElem?_eq_some_iff.mp stopped.here).1
    exact none position inside token stopped.here stopped.stops
  refine ⟨stop, ?_, ?_⟩
  · exact (evaluations_follow_counts (.ofList ["-a", "^2"])).2.short 2 "^" stop (by decide +kernel)
  · have counted := (evaluations_follow_counts (.ofList ["1", "inf", "+", "NaN"])).1.complete
      unstopped
    exact (counted.2.1 2).mpr (by decide +kernel)

end PolishNotation
