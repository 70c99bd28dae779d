namespace PolishNotation

/-- A sequence grows at its end and keeps the order of insertion. -/
structure TokenSequence where
  toArray : Array String
deriving DecidableEq, Repr

namespace TokenSequence

def empty : TokenSequence := ⟨#[]⟩

instance : Inhabited TokenSequence := ⟨empty⟩

def ofList (tokens : List String) : TokenSequence := ⟨tokens.toArray⟩

def toList (sequence : TokenSequence) : List String := sequence.toArray.toList

def push (sequence : TokenSequence) (token : String) : TokenSequence :=
  ⟨sequence.toArray.push token⟩

def size (sequence : TokenSequence) : Nat := sequence.toArray.size

def isEmpty (sequence : TokenSequence) : Bool := sequence.toArray.isEmpty

/-- One blank stands between two tokens. -/
def text (sequence : TokenSequence) : String :=
  " ".intercalate sequence.toList

/-- A blank goes before every token that is not the first. -/
def displayPieces : Bool → List String → List String
  | _, [] => []
  | true, token :: rest => token :: displayPieces false rest
  | false, token :: rest => " " :: token :: displayPieces false rest

/-- A display is put together token by token. -/
def display (sequence : TokenSequence) : String :=
  String.join (displayPieces true sequence.toList)

/-- Each character of each token becomes a token of its own. -/
def split (sequence : TokenSequence) : List String :=
  sequence.toList.flatMap fun token => token.toList.map String.singleton

@[simp] theorem toList_empty : empty.toList = [] := rfl

@[simp] theorem toList_ofList (tokens : List String) : (ofList tokens).toList = tokens := rfl

@[simp] theorem ofList_toList (sequence : TokenSequence) :
    ofList sequence.toList = sequence := rfl

@[simp] theorem toList_push (sequence : TokenSequence) (token : String) :
    (sequence.push token).toList = sequence.toList ++ [token] := by
  simp [push, toList]

@[simp] theorem length_toList (sequence : TokenSequence) :
    sequence.toList.length = sequence.size := rfl

/-- The characters of all tokens, in order. -/
theorem split_eq (sequence : TokenSequence) :
    sequence.split = (sequence.toList.flatMap String.toList).map String.singleton := by
  rw [split, List.map_flatMap]

theorem join_displayPieces_cons (token : String) (rest : List String) :
    String.join (displayPieces true (token :: rest)) = " ".intercalate (token :: rest) := by
  induction rest generalizing token with
  | nil => simp [displayPieces]
  | cons next rest inductionHypothesis =>
      rw [String.intercalate_cons_cons, ← inductionHypothesis]
      simp [displayPieces, String.append_assoc]

/-- The display of a sequence and its joined tokens are the same text. -/
theorem display_eq_text (sequence : TokenSequence) : sequence.display = sequence.text := by
  rw [display, text]
  cases sequence.toList with
  | nil => rfl
  | cons token rest => exact join_displayPieces_cons token rest

theorem isEmpty_iff (sequence : TokenSequence) :
    sequence.isEmpty = true ↔ sequence.toList = [] := by
  simp [isEmpty, toList]

theorem toList_inj {first second : TokenSequence} :
    first.toList = second.toList ↔ first = second := by
  constructor
  · intro same
    rw [← ofList_toList first, same, ofList_toList]
  · intro same
    rw [same]

end TokenSequence

end PolishNotation
