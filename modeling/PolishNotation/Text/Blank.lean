import PolishNotation.Text.Ranges

namespace PolishNotation.Text

def blankRanges : List CodeRange :=
  [⟨0x9, 0xD⟩, ⟨0x20, 0x20⟩, ⟨0x85, 0x85⟩, ⟨0xA0, 0xA0⟩, ⟨0x1680, 0x1680⟩, ⟨0x2000, 0x200A⟩,
   ⟨0x2028, 0x2029⟩, ⟨0x202F, 0x202F⟩, ⟨0x205F, 0x205F⟩, ⟨0x3000, 0x3000⟩]

def isBlank (character : Char) : Bool :=
  covers blankRanges character.toNat

/-- A text loses its leading and its trailing blanks. -/
def trim (text : String) : String :=
  let leading := text.toList.dropWhile isBlank
  String.ofList (leading.reverse.dropWhile isBlank).reverse

theorem ascending_blankRanges : Ascending blankRanges := by decide

theorem isBlank_iff (character : Char) :
    isBlank character = true ↔ ∃ range ∈ blankRanges, range.Contains character.toNat :=
  covers_iff ascending_blankRanges character.toNat

end PolishNotation.Text
