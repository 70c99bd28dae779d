/-
This file shows what a sink with little room holds of a printed report.
-/

import Mathlib.Data.List.Basic
import PolishNotation.Printing

namespace PolishNotation

namespace Sink

/-- Bytes that arrive together are taken as far as there is room. -/
def receive (sink : Sink) (bytes : List UInt8) : Except WriteFault Unit × Sink :=
  match sink.room with
  | none => (.ok (), ⟨none, sink.taken ++ bytes, sink.refusals⟩)
  | some room =>
      if bytes.length ≤ room then
        (.ok (), ⟨some (room - bytes.length), sink.taken ++ bytes, sink.refusals⟩)
      else
        (.error .nothingTaken, ⟨some 0, sink.taken ++ bytes.take room, sink.refusals + 1⟩)

theorem receive_nil (sink : Sink) : sink.receive [] = (.ok (), sink) := by
  obtain ⟨room, taken, refusals⟩ := sink
  cases room <;> simp [receive]

/-- What an offer leaves over is received by the sink after it. -/
theorem receive_cons (sink : Sink) (byte : UInt8) (rest : List UInt8) :
    sink.receive (byte :: rest) =
      match sink.offer (byte :: rest) with
      | (0, next) => (.error .nothingTaken, next)
      | (count + 1, next) => next.receive (rest.drop count) := by
  obtain ⟨room, taken, refusals⟩ := sink
  match room with
  | none => simp [receive, offer]
  | some 0 => simp [receive, offer]
  | some (room + 1) =>
      by_cases fits : rest.length ≤ room
      · have all : rest.take room = rest := List.take_of_length_le fits
        simp [receive, offer, fits, all]
      · have limit : min room rest.length = room := Nat.min_eq_left (by omega)
        simp [receive, offer, fits, limit]
        omega

/-- The second part is not sent after a refusal of the first one. -/
theorem receive_append (sink : Sink) (first second : List UInt8) :
    sink.receive (first ++ second) =
      match sink.receive first with
      | (.ok (), next) => next.receive second
      | (.error fault, next) => (.error fault, next) := by
  obtain ⟨room, taken, refusals⟩ := sink
  match room with
  | none => simp [receive]
  | some room =>
      by_cases firstFits : first.length ≤ room
      · by_cases secondFits : second.length ≤ room - first.length
        · have together : first.length + second.length ≤ room := by omega
          simp [receive, firstFits, secondFits, together]
          omega
        · have tooMany : ¬first.length + second.length ≤ room := by omega
          have all : first.take room = first := List.take_of_length_le firstFits
          simp [receive, firstFits, secondFits, tooMany, List.take_append, all]
      · have tooMany : ¬first.length + second.length ≤ room := by omega
        have nothing : room - first.length = 0 := by omega
        simp [receive, firstFits, tooMany, List.take_append, nothing]

theorem receive_withRoom (room : Nat) (bytes : List UInt8) :
    (withRoom room).receive bytes =
      (if bytes.length > room then .error .nothingTaken else .ok (),
        ⟨some (room - bytes.length), bytes.take (min room bytes.length),
          if bytes.length > room then 1 else 0⟩) := by
  by_cases fits : bytes.length ≤ room
  · have enough : ¬bytes.length > room := Nat.not_lt.mpr fits
    simp [receive, withRoom, fits, enough]
  · have exceeds : bytes.length > room := Nat.lt_of_not_le fits
    have full : room - bytes.length = 0 := by omega
    simp [receive, withRoom, fits, exceeds, full, Nat.min_eq_left (Nat.le_of_lt exceeds)]

end Sink

namespace Writing

/-- Nothing further is written after a fault. -/
theorem perform_bind {Value Result : Type} (writing : Writing Value)
    (next : Value → Writing Result) (sink : Sink) :
    (writing >>= next).perform sink =
      match writing.perform sink with
      | (.ok value, after) => (next value).perform after
      | (.error fault, after) => (.error fault, after) := by
  simp only [perform, ExceptT.run_bind, StateT.run_bind]
  rcases writing.run.run sink with ⟨ending, after⟩
  cases ending with
  | ok value => rfl
  | error fault => rfl

theorem perform_offer (bytes : List UInt8) (sink : Sink) :
    (offer bytes).perform sink = (.ok (sink.offer bytes).1, (sink.offer bytes).2) := rfl

/-- What a sink does not take at once is poured after what it takes. -/
theorem perform_pour_cons (byte : UInt8) (rest : List UInt8) (sink : Sink) :
    (pour (byte :: rest)).perform sink =
      match sink.offer (byte :: rest) with
      | (0, next) => (.error .nothingTaken, next)
      | (count + 1, next) => (pour (rest.drop count)).perform next := by
  rw [pour, perform_bind, perform_offer]
  rcases sink.offer (byte :: rest) with ⟨count, next⟩
  cases count with
  | zero => rfl
  | succ count => rfl

/-- A writing delivers some bytes if every sink receives these bytes from it. -/
def Delivers (writing : Writing Unit) (bytes : List UInt8) : Prop :=
  ∀ sink, writing.perform sink = sink.receive bytes

theorem delivers_return : Delivers (return) [] := fun sink => sink.receive_nil.symm

theorem Delivers.bind {first next : Writing Unit} {bytes more : List UInt8}
    (delivered : Delivers first bytes) (further : Delivers next more) :
    Delivers (first >>= fun _ => next) (bytes ++ more) := by
  intro sink
  rw [perform_bind, delivered, Sink.receive_append]
  rcases sink.receive bytes with ⟨ending, after⟩
  cases ending with
  | ok value => exact further after
  | error fault => rfl

theorem delivers_pour (bytes : List UInt8) : Delivers (pour bytes) bytes := by
  induction bytes using pour.induct with
  | case1 =>
      rw [pour]
      exact delivers_return
  | case2 byte rest inductionHypothesis =>
      intro sink
      rw [perform_pour_cons, Sink.receive_cons]
      split
      · rfl
      · rename_i count next offered
        exact inductionHypothesis count next

theorem bytesOf_append (first second : String) :
    bytesOf (first ++ second) = bytesOf first ++ bytesOf second := by
  have encoded : (first ++ second).toUTF8 = first.toUTF8 ++ second.toUTF8 :=
    String.toByteArray_append
  rw [bytesOf, encoded, ByteArray.data_append, Array.toList_append]
  rfl

theorem bytesOf_injective : Function.Injective bytesOf := by
  intro first second same
  exact String.toByteArray_inj.mp (ByteArray.ext (Array.toList_inj.mp same))

/-- A writing prints a text if it delivers the bytes of the text. -/
def Prints (writing : Writing Unit) (text : String) : Prop :=
  Delivers writing (bytesOf text)

/-- A writing fills every sink with as many bytes as there is room for. -/
structure Fills (writing : Writing Unit) (bytes : List UInt8) : Prop where
  unlimited : writing.perform .unlimited = (.ok (), ⟨none, bytes, 0⟩)
  taken : ∀ room, (writing.perform (.withRoom room)).2.taken =
    bytes.take (min room bytes.length)
  ending : ∀ room, (writing.perform (.withRoom room)).1 =
    if bytes.length > room then .error .nothingTaken else .ok ()
  refusals : ∀ room, (writing.perform (.withRoom room)).2.refusals =
    if bytes.length > room then 1 else 0

/-- The bytes that do not fit are refused once. -/
theorem Delivers.fills {writing : Writing Unit} {bytes : List UInt8}
    (delivered : Delivers writing bytes) : Fills writing bytes where
  unlimited := delivered .unlimited
  taken room := by rw [delivered, Sink.receive_withRoom]
  ending room := by rw [delivered, Sink.receive_withRoom]
  refusals room := by rw [delivered, Sink.receive_withRoom]

theorem Prints.output_eq {writing : Writing Unit} {text : String} (printed : Prints writing text) :
    writing.output = bytesOf text := by
  rw [output, printed .unlimited]
  rfl

theorem prints_print (text : String) : Prints (print text) text := delivers_pour (bytesOf text)

theorem prints_return : Prints (return) "" := delivers_return

theorem Prints.bind {first next : Writing Unit} {text more : String} (printed : Prints first text)
    (further : Prints next more) : Prints (first >>= fun _ => next) (text ++ more) := by
  rw [Prints, bytesOf_append]
  exact Delivers.bind printed further

end Writing

namespace Report

open Writing

theorem text_append (first second : List String) :
    text (first ++ second) = text first ++ text second := String.join_append

theorem text_line (label value : String) :
    text (line label value) = label ++ (" : " ++ (value ++ "\n")) := by
  simp [text, line]

theorem prints_printLine (label value : String) :
    Prints (printLine label value) (text (line label value)) := by
  rw [text_line, ← String.append_assoc]
  exact (prints_print (label ++ " : ")).bind ((prints_print value).bind (prints_print "\n"))

theorem prints_printSequence (sequence : TokenSequence) :
    Prints (printSequence sequence) (sequence.text ++ "\n") :=
  (prints_print sequence.text).bind (prints_print "\n")

theorem prints_printExact (values : Except Fault ExactValues) :
    Prints (printExact values) (text (ofExact values)) := by
  cases values with
  | ok values =>
      rw [ofExact, text_append]
      exact (prints_printLine _ _).bind (prints_printLine _ _)
  | error fault => exact prints_printLine _ _

/-- The labels of the two forms are printed in one piece with their colons. -/
theorem prints_printDerivation (derivation : Derivation) :
    Prints (printDerivation derivation) (text (ofDerivation derivation)) := by
  obtain ⟨expression, postfixForm, postfixValue, prefixForm, prefixValue, exactValues⟩ := derivation
  have postfixLabel : "Postfixe : " = "Postfixe" ++ " : " := by decide
  have prefixLabel : "Préfixe : " = "Préfixe" ++ " : " := by decide
  have printed {exactPart : Writing Unit} {more : String} (further : Prints exactPart more) :=
    (prints_print "Postfixe : ").bind <| (prints_printSequence postfixForm).bind <|
    (prints_printLine "Valeur postfixe" (Decimal.floatText postfixValue)).bind <|
    (prints_print "Préfixe : ").bind <| (prints_printSequence prefixForm).bind <|
    (prints_printLine "Valeur préfixe" (Decimal.floatText prefixValue)).bind further
  rw [postfixLabel, prefixLabel] at printed
  cases exactValues with
  | none =>
      have whole := printed prints_return
      have nothing : text [] = "" := rfl
      simp only [ofDerivation, text_append, text_line, nothing, String.append_assoc] at whole ⊢
      exact whole
  | some values =>
      have whole := printed (prints_printExact values)
      simp only [ofDerivation, text_append, text_line, String.append_assoc] at whole ⊢
      exact whole

theorem prints_printResults (session : Session) :
    Prints (printResults session) (text (results session)) := by
  rw [printResults, results]
  cases session.derivation? with
  | none => exact prints_return
  | some derivation => exact prints_printDerivation derivation

theorem prints_printFailure (session : Session) :
    Prints (printFailure session) (text (failure session)) := by
  rw [printFailure, failure]
  cases session.fault? with
  | none => exact prints_return
  | some fault => exact prints_printLine _ _

/-- A full sink holds the first bytes of the whole output. -/
theorem full_sinks_hold_first_bytes (sequence : TokenSequence) (session : Session) :
    Fills (printSequence sequence) (sequence.display ++ "\n").toUTF8.data.toList ∧
      Fills (printResults session) (text (results session)).toUTF8.data.toList ∧
      Fills (printFailure session) (text (failure session)).toUTF8.data.toList := by
  rw [sequence.display_eq_text]
  exact ⟨(prints_printSequence sequence).fills, (prints_printResults session).fills,
    (prints_printFailure session).fills⟩

/-- The room may end within a character. -/
example : (printSequence (.ofList ["é"])).perform (.withRoom 1) =
    (.error .nothingTaken, ⟨some 0, [0xC3], 1⟩) := by cbv

end Report

end PolishNotation
