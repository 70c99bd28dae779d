namespace PolishNotation

/-- A sink takes bytes as long as it has room and counts its refusals. -/
structure Sink where
  room : Option Nat
  taken : List UInt8
  refusals : Nat
deriving DecidableEq, Repr

namespace Sink

def unlimited : Sink := ⟨none, [], 0⟩

def withRoom (room : Nat) : Sink := ⟨some room, [], 0⟩

/-- The sink takes as many bytes as fit and tells their number. -/
def offer (sink : Sink) (bytes : List UInt8) : Nat × Sink :=
  match sink.room with
  | none => (bytes.length, ⟨none, sink.taken ++ bytes, sink.refusals⟩)
  | some 0 => (0, ⟨some 0, sink.taken, sink.refusals + 1⟩)
  | some room =>
      let fitting := bytes.take room
      let left := room - fitting.length
      (fitting.length, ⟨some left, sink.taken ++ fitting, sink.refusals⟩)

end Sink

inductive WriteFault where
  | nothingTaken
deriving DecidableEq, Repr

/-- A writing goes on until a fault ends it. -/
abbrev Writing := ExceptT WriteFault (StateM Sink)

namespace Writing

def offer (bytes : List UInt8) : Writing Nat := modifyGet fun sink => sink.offer bytes

/-- Bytes that the sink has not taken are offered again. -/
def pour : List UInt8 → Writing Unit
  | [] => return
  | byte :: rest => do
      match ← offer (byte :: rest) with
      | 0 => throw .nothingTaken
      | count + 1 => pour (rest.drop count)
termination_by bytes => bytes.length
decreasing_by
  rw [List.length_drop, List.length_cons]
  omega

def bytesOf (text : String) : List UInt8 := text.toUTF8.data.toList

def print (text : String) : Writing Unit := pour (bytesOf text)

/-- How a writing ends and the sink that it leaves. -/
def perform {Value : Type} (writing : Writing Value) (sink : Sink) :
    Except WriteFault Value × Sink :=
  writing.run.run sink

/-- The bytes that a writing puts into a sink without a limit. -/
def output (writing : Writing Unit) : List UInt8 := (writing.perform .unlimited).2.taken

end Writing

end PolishNotation
