import PolishNotation.Proofs.NotationAgreement
import PolishNotation.Proofs.UniqueReading

namespace PolishNotation

/-- The numbers among some tokens, in order. -/
def numerals (tokens : List String) : List String :=
  tokens.filter fun token => (Decimal.Literal.read? token).isSome

theorem numerals_append (first second : List String) :
    numerals (first ++ second) = numerals first ++ numerals second :=
  List.filter_append ..

theorem numerals_token (operator : Operator) : numerals [operator.token] = [] := by
  have named : (Operator.ofToken? operator.token).isSome = true := by
    rw [Operator.ofToken?_token, Option.isSome_some]
  rw [numerals, List.filter_cons_of_neg (by simp [isSome_read?_of_ofToken? named]),
    List.filter_nil]

namespace ExpressionTree

/-- The leaves of such a tree are numbers. -/
def HasNumbers (tree : ExpressionTree String) : Prop :=
  ∀ token ∈ tree.leaves, (Decimal.Literal.read? token).isSome = true

theorem hasNumbers_iff_isSome_read? (tree : ExpressionTree String) :
    tree.HasNumbers ↔ (tree.read? Domain.spelling).isSome = true := by
  rw [HasNumbers, isSome_read?_iff]
  simp only [Domain.isSome_read?_spelling]

/-- Both notations have the numbers of a tree in the order of its leaves. -/
theorem numerals_prefixTokens_eq (tree : ExpressionTree String) :
    numerals tree.prefixTokens = numerals tree.postfixTokens := by
  induction tree with
  | leaf token => rfl
  | node operator left right leftHypothesis rightHypothesis =>
      show numerals ([operator.token] ++ (left.prefixTokens ++ right.prefixTokens)) =
        numerals (left.postfixTokens ++ (right.postfixTokens ++ [operator.token]))
      simp only [numerals_append, numerals_token, leftHypothesis, rightHypothesis,
        List.nil_append, List.append_nil]

end ExpressionTree

/-- The postfix form spells this tree of numbers. -/
structure IsTreeOf (tree : ExpressionTree String) (postfixForm : TokenSequence) : Prop where
  numbers : tree.HasNumbers
  spelled : postfixForm.toList = tree.postfixTokens

/-- The prefix form is the preorder of the tree as one token. -/
structure Rewrites (tree : ExpressionTree String) (postfixForm prefixForm : TokenSequence) :
    Prop where
  spelled : prefixForm = .ofList [String.join tree.prefixTokens]
  characters :
    (String.join tree.prefixTokens).toList.Perm (String.join postfixForm.toList).toList
  operands : numerals tree.prefixTokens = numerals postfixForm.toList

theorem IsTreeOf.unique {first second : ExpressionTree String} {postfixForm : TokenSequence}
    (onFirst : IsTreeOf first postfixForm) (onSecond : IsTreeOf second postfixForm) :
    first = second := by
  apply Domain.eq_of_postfixTokens_eq Domain.separatesOperators_spelling
  · exact first.hasNumbers_iff_isSome_read?.mp onFirst.numbers
  · exact second.hasNumbers_iff_isSome_read?.mp onSecond.numbers
  · rw [← onFirst.spelled, ← onSecond.spelled]

/-- A rewriting spells the tree of its postfix form. -/
theorem exists_rewrites_of_toPrefix {postfixForm prefixForm : TokenSequence}
    (rewritten : toPrefix postfixForm = .ok prefixForm) :
    ∃ tree, IsTreeOf tree postfixForm ∧ Rewrites tree postfixForm prefixForm := by
  obtain ⟨spelled, tree, rfl, postfixTokens, denotes⟩ := exists_tree_of_toPrefix rewritten
  have joined : String.join tree.prefixTokens = spelled := by
    apply String.toList_inj.mp
    rw [String.toList_join, toList_of_denotes_spelling denotes]
  have numbers : tree.HasNumbers := by
    rw [tree.hasNumbers_iff_isSome_read?, ExpressionTree.isSome_read?_iff]
    exact denotes.isSome_read?
  refine ⟨tree, ⟨numbers, postfixTokens⟩, by rw [joined], ?_, ?_⟩
  · rw [String.toList_join, String.toList_join, postfixTokens]
    exact tree.prefixTokens_perm_postfixTokens.flatMap_right String.toList
  · rw [postfixTokens, tree.numerals_prefixTokens_eq]

/-- Tokens of one character can be recovered from their prefix form. -/
theorem eq_of_toPrefix_eq {first second prefixForm : TokenSequence}
    (firstSingle : ∀ token ∈ first.toList, token.length = 1)
    (secondSingle : ∀ token ∈ second.toList, token.length = 1)
    (onFirst : toPrefix first = .ok prefixForm) (onSecond : toPrefix second = .ok prefixForm) :
    first = second := by
  obtain ⟨-, firstTree, -, firstSpell⟩ := exists_spellDigits_of_toPrefix firstSingle onFirst
  obtain ⟨-, secondTree, -, secondSpell⟩ := exists_spellDigits_of_toPrefix secondSingle onSecond
  have sameTree : firstTree = secondTree := by
    apply Domain.eq_of_prefixTokens_eq Domain.separatesOperators_spelling
    · exact firstSpell.isSome_read? Domain.readsLiterals_spelling.readsDigits
    · exact secondSpell.isSome_read? Domain.readsLiterals_spelling.readsDigits
    · rw [← firstSpell.prefixTokens, ← secondSpell.prefixTokens]
  rw [← TokenSequence.toList_inj, firstSpell.postfixTokens, secondSpell.postfixTokens, sameTree]

/-- The prefix form determines a postfix form with tokens of one character. -/
theorem toPrefix_loses_nothing :
    (∀ first second prefixForm : TokenSequence,
      (∀ token ∈ first.toList, token.length = 1) →
      (∀ token ∈ second.toList, token.length = 1) →
      toPrefix first = .ok prefixForm → toPrefix second = .ok prefixForm → first = second) ∧
    ∀ postfixForm prefixForm : TokenSequence, toPrefix postfixForm = .ok prefixForm →
      ∃ tree, Rewrites tree postfixForm prefixForm ∧ IsTreeOf tree postfixForm ∧
        ∀ other, IsTreeOf other postfixForm → other = tree := by
  constructor
  · intro first second prefixForm firstSingle secondSingle onFirst onSecond
    exact eq_of_toPrefix_eq firstSingle secondSingle onFirst onSecond
  · intro postfixForm prefixForm rewritten
    obtain ⟨tree, isTree, rewrites⟩ := exists_rewrites_of_toPrefix rewritten
    exact ⟨tree, rewrites, isTree, fun other otherIsTree => otherIsTree.unique isTree⟩

/-- Only one such sequence has this prefix form, and longer tokens survive. -/
theorem toPrefix_loses_nothing_of_product_and_signed_token :
    toPrefix (.ofList ["3", "4", "2", "*", "+"]) = .ok (.ofList ["+3*42"]) ∧
      (∀ other : TokenSequence, (∀ token ∈ other.toList, token.length = 1) →
        toPrefix other = .ok (.ofList ["+3*42"]) →
          other = .ofList ["3", "4", "2", "*", "+"]) ∧
      toPrefix (.ofList ["1e3", "-12", "-"]) = .ok (.ofList ["-1e3-12"]) ∧
      ∃ tree, Rewrites tree (.ofList ["1e3", "-12", "-"]) (.ofList ["-1e3-12"]) := by
  have product : toPrefix (.ofList ["3", "4", "2", "*", "+"]) = .ok (.ofList ["+3*42"]) := by cbv
  have signed : toPrefix (.ofList ["1e3", "-12", "-"]) = .ok (.ofList ["-1e3-12"]) := by cbv
  obtain ⟨tree, rewrites, -⟩ := toPrefix_loses_nothing.2 _ _ signed
  have only (other : TokenSequence) (single : ∀ token ∈ other.toList, token.length = 1)
      (rewritten : toPrefix other = .ok (.ofList ["+3*42"])) :
      other = .ofList ["3", "4", "2", "*", "+"] :=
    toPrefix_loses_nothing.1 _ _ _ single (by decide) rewritten product
  exact ⟨product, only, signed, tree, rewrites⟩

/-- Longer tokens run into one another. -/
example : toPrefix (.ofList ["1", "23", "+"]) = toPrefix (.ofList ["12", "3", "+"]) := by cbv

end PolishNotation
