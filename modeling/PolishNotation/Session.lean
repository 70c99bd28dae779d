import PolishNotation.Derivation

namespace PolishNotation

/-- A session keeps the entry, the options and what the last evaluation left. -/
structure Session where
  entry : String
  options : Options
  derivation? : Option Derivation
  fault? : Option Fault

namespace Session

def start (options : Options) : Session := ⟨"", options, none, none⟩

instance : Inhabited Session := ⟨start default⟩

/-- The entry and the options stay. -/
def clear (session : Session) : Session :=
  { session with derivation? := none, fault? := none }

/-- What an earlier entry left is cleared before the new entry is derived. -/
def evaluate (session : Session) (entry : String) : Session :=
  let cleared := { session with entry := entry }.clear
  match derive cleared.options cleared.entry with
  | .ok derivation => { cleared with derivation? := some derivation }
  | .error fault => { cleared with fault? := some fault }

def setOptions (session : Session) (options : Options) : Session :=
  { session with options := options }

def setEntry (session : Session) (entry : String) : Session :=
  { session with entry := entry }

/-- The outcome of the last evaluation, as long as the session keeps it. -/
def outcome (session : Session) : Option (Except Fault Derivation) :=
  match session.derivation?, session.fault? with
  | some derivation, _ => some (.ok derivation)
  | none, some fault => some (.error fault)
  | none, none => none

end Session

end PolishNotation
