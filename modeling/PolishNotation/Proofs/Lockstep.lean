import PolishNotation.Proofs.DerivationCoherence

namespace PolishNotation

section Verdict

variable {Problem First Second : Type} {first : Except Problem First}
  {second : Except Problem Second}

/-- The verdict of an evaluation is its fault, if it has one. -/
def verdict (outcome : Except Problem First) : Except Problem Unit :=
  outcome.map fun _ => ()

theorem error_iff_of_verdict_eq (same : verdict first = verdict second) (problem : Problem) :
    first = .error problem ↔ second = .error problem := by
  cases first <;> cases second <;> simp_all [verdict, Except.map]

theorem ok_iff_of_verdict_eq (same : verdict first = verdict second) :
    (∃ value, first = .ok value) ↔ ∃ value, second = .ok value := by
  cases first <;> cases second <;> simp_all [verdict, Except.map]

@[simp] theorem verdict_map {Third : Type} (image : First → Third) :
    verdict (first.map image) = verdict first := by
  cases first <;> rfl

end Verdict

namespace Domain

variable {First Second : Type} {first : Domain First} {second : Domain Second}

/-- Both domains take the same tokens for numbers. -/
def ReadsLike (first : Domain First) (second : Domain Second) (token : String) : Prop :=
  (first.read? token).isSome = (second.read? token).isSome

/-- Outcomes with equally many values or the same fault, unless arithmetic stops the first. -/
inductive FollowedBy : Except Fault (List First) → Except Fault (List Second) → Prop where
  | stopped (fault : ArithmeticFault) (following : Except Fault (List Second)) :
      FollowedBy (.error (.arithmetic fault)) following
  | refused (fault : Fault) : FollowedBy (.error fault) (.error fault)
  | level (stack : List First) (other : List Second) (heights : stack.length = other.length) :
      FollowedBy (.ok stack) (.ok other)

/-- An operator keeps two stacks of one height at one height. -/
theorem step_operator_followedBy (direction : Direction) (total : second.IsTotal)
    {token : String} {position : Nat} {operator : Operator}
    (named : Operator.ofToken? token = some operator)
    (leading : first.read? token = none) (following : second.read? token = none)
    {stack : List First} {other : List Second} (heights : stack.length = other.length) :
    FollowedBy (first.step direction stack (token, position))
      (second.step direction other (token, position)) := by
  match stack, other, heights with
  | [], [], _ =>
      simp only [step, leading, following, named]
      exact .refused _
  | [_], [_], _ =>
      simp only [step, leading, following, named]
      exact .refused _
  | top :: below :: rest, otherTop :: otherBelow :: otherRest, heights =>
      obtain ⟨otherValue, succeeded⟩ :=
        exists_combine total direction operator otherTop otherBelow
      simp only [step, leading, following, named, succeeded]
      cases first.combine direction operator top below with
      | error fault => exact .stopped fault _
      | ok value =>
          refine .level _ _ ?_
          simpa only [List.length_cons, Nat.add_right_cancel_iff] using heights

/-- A step keeps two stacks of one height at one height. -/
theorem step_followedBy (direction : Direction) (total : second.IsTotal) {token : String}
    (alike : first.ReadsLike second token) (position : Nat) {stack : List First}
    {other : List Second} (heights : stack.length = other.length) :
    FollowedBy (first.step direction stack (token, position))
      (second.step direction other (token, position)) := by
  unfold ReadsLike at alike
  cases leading : first.read? token with
  | some value =>
      rw [leading, Option.isSome_some, eq_comm, Option.isSome_iff_exists] at alike
      obtain ⟨otherValue, following⟩ := alike
      rw [step_number leading, step_number following]
      exact .level _ _ (congrArg (· + 1) heights)
  | none =>
      rw [leading, Option.isSome_none, eq_comm, Option.isSome_eq_false_iff,
        Option.isNone_iff_eq_none] at alike
      cases named : Operator.ofToken? token with
      | none =>
          simp only [step, leading, alike, named]
          exact .refused _
      | some operator => exact step_operator_followedBy direction total named leading alike heights

/-- The stacks of two scans have one height throughout. -/
theorem scan_followedBy (direction : Direction) (total : second.IsTotal)
    {placed : List (String × Nat)}
    (alike : ∀ token ∈ placed.map Prod.fst, first.ReadsLike second token)
    {stack : List First} {other : List Second} (heights : stack.length = other.length) :
    FollowedBy (first.scan direction stack placed) (second.scan direction other placed) := by
  induction placed generalizing stack other with
  | nil => exact .level _ _ heights
  | cons here rest inductionHypothesis =>
      rw [List.map_cons, List.forall_mem_cons] at alike
      have together := step_followedBy direction total alike.1 here.2 heights
      rw [scan, scan]
      generalize first.step direction stack here = leading at together ⊢
      generalize second.step direction other here = following at together ⊢
      cases together with
      | stopped fault following => exact .stopped fault _
      | refused fault => exact .refused fault
      | level next otherNext heights => exact inductionHypothesis alike.2 heights

/-- Complete scans of one height have the same verdict. -/
theorem verdict_conclude {stack : List First} {other : List Second}
    (heights : stack.length = other.length) :
    verdict (conclude stack) = verdict (conclude other) := by
  match stack, other, heights with
  | [], [], _ => rfl
  | [_], [_], _ => rfl
  | _ :: _ :: _, _ :: _ :: _, heights =>
      simp only [conclude, heights]
      rfl

/-- An evaluation has the verdict of the other one unless its arithmetic stops it. -/
theorem verdict_run (direction : Direction) (total : second.IsTotal)
    {placed : List (String × Nat)}
    (alike : ∀ token ∈ placed.map Prod.fst, first.ReadsLike second token) :
    (∃ fault, first.run direction placed = .error (.arithmetic fault)) ∨
      verdict (first.run direction placed) = verdict (second.run direction placed) := by
  have together : FollowedBy (first.scan direction [] placed) (second.scan direction [] placed) :=
    scan_followedBy direction total alike rfl
  unfold Domain.run
  generalize first.scan direction [] placed = leading at together ⊢
  generalize second.scan direction [] placed = following at together ⊢
  cases together with
  | stopped fault following => exact .inl ⟨fault, rfl⟩
  | refused fault => exact .inr rfl
  | level stack other heights => exact .inr (verdict_conclude heights)

/-- Where every operation has a result, the literals alone decide the verdict. -/
theorem verdict_evaluatePostfix (firstReads : first.ReadsLiterals)
    (secondReads : second.ReadsLiterals) (firstTotal : first.IsTotal)
    (secondTotal : second.IsTotal) (sequence : TokenSequence) :
    verdict (first.evaluatePostfix sequence) = verdict (second.evaluatePostfix sequence) := by
  have alike : ∀ token ∈ sequence.toList.zipIdx.map Prod.fst, first.ReadsLike second token :=
    fun token _ => (firstReads token).trans (secondReads token).symm
  rcases verdict_run .forward secondTotal alike with ⟨fault, stopped⟩ | same
  · exact absurd stopped (evaluatePostfix_ne_arithmetic firstTotal sequence fault)
  · exact same

end Domain

section RewritingLoop

/-- A number is put on the stack, an operator joins the texts on top. -/
def rewriteToken (stack : List String) : String × Nat → Except Fault (List String)
  | (token, position) =>
      if (Decimal.Literal.read? token).isSome then
        .ok (token :: stack)
      else
        match Operator.ofToken? token, stack with
        | none, _ => .error (.notNumeric token position)
        | some operator, right :: left :: rest =>
            .ok ((String.singleton operator.symbol ++ left ++ right) :: rest)
        | some _, _ => .error (.missingOperands token position)

/-- The rewriting loop written out, with a stack of texts. -/
def rewriteTokens (sequence : TokenSequence) : Except Fault TokenSequence := do
  match ← sequence.toList.zipIdx.foldlM rewriteToken [] with
  | [] => .error .emptyInput
  | [spelled] => .ok (TokenSequence.ofList [spelled])
  | stack => .error (.leftover stack.length)

theorem Domain.scan_eq_foldlM {Value : Type} (domain : Domain Value) (direction : Direction)
    (stack : List Value) (placed : List (String × Nat)) :
    domain.scan direction stack placed = placed.foldlM (domain.step direction) stack := by
  induction placed generalizing stack with
  | nil => rfl
  | cons here rest inductionHypothesis =>
      rw [scan, List.foldlM_cons]
      cases domain.step direction stack here with
      | ok next => exact inductionHypothesis next
      | error fault => rfl

/-- The machine over spellings takes the turns of the loop. -/
theorem step_spelling (stack : List String) (placed : String × Nat) :
    Domain.spelling.step .forward stack placed = rewriteToken stack placed := by
  obtain ⟨token, position⟩ := placed
  by_cases number : (Decimal.Literal.read? token).isSome
  · simp only [Domain.step, Domain.spelling, rewriteToken, if_pos number]
  · simp only [Domain.step, Domain.spelling, rewriteToken, if_neg number]
    cases Operator.ofToken? token with
    | none => rfl
    | some operator => rcases stack with _ | ⟨right, _ | ⟨left, rest⟩⟩ <;> rfl

theorem toPrefix_eq_rewriteTokens (sequence : TokenSequence) :
    toPrefix sequence = rewriteTokens sequence := by
  have turns : Domain.spelling.step .forward = rewriteToken := by
    funext stack placed
    exact step_spelling stack placed
  rw [toPrefix, Domain.evaluatePostfix, Domain.run, Domain.scan_eq_foldlM, turns, rewriteTokens]
  cases sequence.toList.zipIdx.foldlM rewriteToken [] with
  | error fault => rfl
  | ok stack => rcases stack with _ | ⟨spelled, _ | ⟨below, rest⟩⟩ <;> rfl

end RewritingLoop

/-- The rewriting and the evaluation in doubles refuse the same sequences alike. -/
theorem toPrefix_refuses_as_evaluatePostfix (sequence : TokenSequence) :
    (∀ fault, toPrefix sequence = .error fault ↔
      Domain.floating.evaluatePostfix sequence = .error fault) ∧
      ((∃ prefixForm, toPrefix sequence = .ok prefixForm) ↔
        ∃ value, Domain.floating.evaluatePostfix sequence = .ok value) := by
  have same : verdict (toPrefix sequence) =
      verdict (Domain.floating.evaluatePostfix sequence) := by
    rw [toPrefix, verdict_map]
    exact Domain.verdict_evaluatePostfix Domain.readsLiterals_spelling
      (Domain.readsLiterals_total Decimal.Literal.toFloat Domain.applyFloat)
      Domain.isTotal_spelling (Domain.isTotal_total Decimal.Literal.toFloat Domain.applyFloat)
      sequence
  exact ⟨error_iff_of_verdict_eq same, ok_iff_of_verdict_eq same⟩

/-- A word is refused where it stands, and long numbers are accepted. -/
theorem toPrefix_refuses_as_evaluatePostfix_at_word :
    Domain.floating.evaluatePostfix (.ofList ["2", "ab", "+"]) = .error (.notNumeric "ab" 1) ∧
      ∃ value, Domain.floating.evaluatePostfix (.ofList ["2.5", "12", "+"]) = .ok value := by
  have refused : toPrefix (.ofList ["2", "ab", "+"]) = .error (.notNumeric "ab" 1) := by
    decide +kernel
  have accepted : toPrefix (.ofList ["2.5", "12", "+"]) = .ok (.ofList ["+2.512"]) := by
    decide +kernel
  exact ⟨((toPrefix_refuses_as_evaluatePostfix _).1 _).mp refused,
    (toPrefix_refuses_as_evaluatePostfix _).2.mp ⟨_, accepted⟩⟩

end PolishNotation
