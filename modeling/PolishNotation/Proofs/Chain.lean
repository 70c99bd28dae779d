import PolishNotation.Proofs.TopDownSplit

namespace PolishNotation

/-- Sums and differences join the terms of an expression. -/
def Operator.isAdditive : Operator → Bool
  | .plus | .minus => true
  | .times | .divide | .power => false

/-- Products and quotients join the factors of a term. -/
def Operator.isMultiplicative : Operator → Bool
  | .times | .divide => true
  | .plus | .minus | .power => false

namespace Operator

theorem precedence_of_isAdditive {sign : Operator} (additive : sign.isAdditive = true) :
    sign.precedence = 1 := by
  cases sign <;> simp_all [isAdditive, precedence]

theorem precedence_of_isMultiplicative {sign : Operator}
    (multiplicative : sign.isMultiplicative = true) : sign.precedence = 2 := by
  cases sign <;> simp_all [isMultiplicative, precedence]

theorem two_le_precedence {sign : Operator} (notAdditive : sign.isAdditive = false) :
    2 ≤ sign.precedence := by
  cases sign <;> simp_all [isAdditive, precedence]

/-- What is neither additive nor multiplicative is a power. -/
theorem precedence_eq_three {sign : Operator} (notAdditive : sign.isAdditive = false)
    (notMultiplicative : sign.isMultiplicative = false) : sign.precedence = 3 := by
  cases sign <;> simp_all [isAdditive, isMultiplicative, precedence]

end Operator

/-- A chain has one operator between any two neighbouring items. -/
structure Chain (Item : Type) where
  first : Item
  rest : List (Operator × Item)
deriving DecidableEq, Repr

namespace Chain

variable {Item Value Problem : Type} {separates : Operator → Bool}

def items (chain : Chain Item) : List Item := chain.first :: chain.rest.map Prod.snd

/-- The operators of a chain, in order. -/
def links (chain : Chain Item) : List Operator := chain.rest.map Prod.fst

def spell (ofItem : Item → List Symbol) (chain : Chain Item) : List Symbol :=
  ofItem chain.first ++ chain.rest.flatMap fun link => .operator link.1 :: ofItem link.2

/-- The symbols of a chain of operands. -/
def symbols (chain : Chain Operand) : List Symbol := chain.spell fun operand => [.operand operand]

/-- The first part of the tail takes in the item before it unless separated. -/
def cutFrom (separates : Operator → Bool) (first : Item) :
    List (Operator × Item) → Chain (Chain Item)
  | [] => ⟨⟨first, []⟩, []⟩
  | (sign, next) :: rest =>
      let tail := cutFrom separates next rest
      if separates sign then
        ⟨⟨first, []⟩, (sign, tail.first) :: tail.rest⟩
      else
        ⟨⟨first, (sign, tail.first.first) :: tail.first.rest⟩, tail.rest⟩

/-- A chain is cut into parts at every operator that separates them. -/
def cut (separates : Operator → Bool) (chain : Chain Item) : Chain (Chain Item) :=
  cutFrom separates chain.first chain.rest

/-- The items are joined from left to right up to the first problem. -/
def foldLeft (apply : Operator → Value → Value → Except Problem Value)
    (value : Item → Except Problem Value) (chain : Chain Item) : Except Problem Value := do
  let start ← value chain.first
  chain.rest.foldlM (fun left link => do
    let right ← value link.2
    apply link.1 left right) start

def foldRightFrom (apply : Operator → Value → Value → Except Problem Value)
    (value : Item → Except Problem Value) (first : Item) :
    List (Operator × Item) → Except Problem Value
  | [] => value first
  | (sign, next) :: rest => do
      let left ← value first
      let right ← foldRightFrom apply value next rest
      apply sign left right

/-- The items are evaluated from left to right and joined from right to left. -/
def foldRight (apply : Operator → Value → Value → Except Problem Value)
    (value : Item → Except Problem Value) (chain : Chain Item) : Except Problem Value :=
  foldRightFrom apply value chain.first chain.rest

theorem foldLeft_append (apply : Operator → Value → Value → Except Problem Value)
    (value : Item → Except Problem Value) (first last : Item) (sign : Operator)
    (rest : List (Operator × Item)) :
    foldLeft apply value ⟨first, rest ++ [(sign, last)]⟩ =
      (do
        let left ← foldLeft apply value ⟨first, rest⟩
        let right ← value last
        apply sign left right) := by
  simp only [foldLeft, List.foldlM_append, List.foldlM_cons, List.foldlM_nil, bind_assoc,
    bind_pure]

theorem spell_append (ofItem : Item → List Symbol) (first last : Item) (sign : Operator)
    (rest : List (Operator × Item)) :
    spell ofItem ⟨first, rest ++ [(sign, last)]⟩ =
      spell ofItem ⟨first, rest⟩ ++ .operator sign :: ofItem last := by
  simp [spell]

theorem spell_cons (ofItem : Item → List Symbol) (first next : Item) (sign : Operator)
    (rest : List (Operator × Item)) :
    spell ofItem ⟨first, (sign, next) :: rest⟩ =
      ofItem first ++ .operator sign :: spell ofItem ⟨next, rest⟩ := by
  simp [spell]

/-- The operators of a spelling join the items or stand within them. -/
theorem mem_signs_spell {ofItem : Item → List Symbol} {chain : Chain Item} {sign : Operator} :
    sign ∈ signs (chain.spell ofItem) ↔
      sign ∈ chain.links ∨ ∃ item ∈ chain.items, sign ∈ signs (ofItem item) := by
  obtain ⟨first, rest⟩ := chain
  induction rest generalizing first with
  | nil => simp [spell, links, items]
  | cons link rest inductionHypothesis =>
      obtain ⟨other, next⟩ := link
      have tail := inductionHypothesis next
      rw [spell_cons, signs_append, signs_cons_operator, List.mem_append, List.mem_cons, tail]
      simp only [links, items, List.map_cons, List.mem_cons, exists_eq_or_imp]
      grind

theorem signs_symbols (chain : Chain Operand) : signs chain.symbols = chain.links := by
  obtain ⟨first, rest⟩ := chain
  induction rest generalizing first with
  | nil => rfl
  | cons link rest inductionHypothesis =>
      have tail := inductionHypothesis link.2
      simp only [symbols] at tail ⊢
      rw [spell_cons, signs_append, signs_cons_operator, tail]
      rfl

/-- Cutting does not change the spelling. -/
theorem spell_cut (ofItem : Item → List Symbol) (separates : Operator → Bool)
    (chain : Chain Item) :
    (chain.cut separates).spell (spell ofItem) = chain.spell ofItem := by
  obtain ⟨first, rest⟩ := chain
  simp only [cut]
  induction rest generalizing first with
  | nil => simp [cutFrom, spell]
  | cons link rest inductionHypothesis =>
      obtain ⟨sign, next⟩ := link
      have tail := inductionHypothesis next
      rw [spell_cons, ← tail, cutFrom]
      split
      · simp [spell]
      · simp [spell]

/-- The operators between the parts are the separating ones. -/
theorem separates_of_mem_links_cut {chain : Chain Item} {sign : Operator}
    (member : sign ∈ (chain.cut separates).links) : separates sign = true := by
  obtain ⟨first, rest⟩ := chain
  simp only [cut] at member
  induction rest generalizing first with
  | nil => cases member
  | cons link rest inductionHypothesis =>
      obtain ⟨other, next⟩ := link
      rw [cutFrom] at member
      split at member
      · rename_i between
        rcases List.mem_cons.mp member with rfl | later
        · exact between
        · exact inductionHypothesis next later
      · exact inductionHypothesis next member

/-- No part has a separating operator, and every part is made of the chain. -/
theorem of_mem_items_cut {chain part : Chain Item}
    (member : part ∈ (chain.cut separates).items) :
    (∀ sign ∈ part.links, sign ∈ chain.links ∧ separates sign = false) ∧
      ∀ item ∈ part.items, item ∈ chain.items := by
  obtain ⟨first, rest⟩ := chain
  simp only [cut] at member
  induction rest generalizing first part with
  | nil =>
      obtain rfl : part = ⟨first, []⟩ := List.mem_singleton.mp member
      exact ⟨by simp [links], fun item inside => inside⟩
  | cons link rest inductionHypothesis =>
      obtain ⟨other, next⟩ := link
      have wider {part : Chain Item} (member : part ∈ (cutFrom separates next rest).items) :
          (∀ sign ∈ part.links, sign ∈ links ⟨first, (other, next) :: rest⟩ ∧
              separates sign = false) ∧
            ∀ item ∈ part.items, item ∈ items ⟨first, (other, next) :: rest⟩ := by
        obtain ⟨signs, inside⟩ := inductionHypothesis next member
        refine ⟨fun sign joined => ?_, fun item present => ?_⟩
        · exact ⟨List.mem_cons_of_mem _ (signs sign joined).1, (signs sign joined).2⟩
        · exact List.mem_cons_of_mem _ (inside item present)
      rw [cutFrom] at member
      split at member
      · rcases List.mem_cons.mp member with rfl | later
        · refine ⟨by simp [links], fun item present => ?_⟩
          obtain rfl : item = first := List.mem_singleton.mp present
          exact List.mem_cons_self ..
        · exact wider later
      · rename_i within
        rcases List.mem_cons.mp member with rfl | later
        · obtain ⟨signs, inside⟩ := wider (List.mem_cons_self ..)
          refine ⟨fun sign joined => ?_, fun item present => ?_⟩
          · rcases List.mem_cons.mp joined with rfl | joined
            · exact ⟨List.mem_cons_self .., Bool.eq_false_iff.mpr within⟩
            · exact signs sign joined
          · rcases List.mem_cons.mp present with rfl | present
            · exact List.mem_cons_self ..
            · exact inside item present
        · exact wider (List.mem_cons_of_mem _ later)

end Chain

end PolishNotation
