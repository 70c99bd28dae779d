import PolishNotation.Proofs.DerivationCoherence
import PolishNotation.Report

namespace PolishNotation.Session

/-- A request changes a session. A restart puts a fresh session in its place. -/
inductive Action where
  | evaluate (entry : String)
  | clear
  | setOptions (options : Options)
  | setEntry (entry : String)
  | restart (options : Options)
deriving DecidableEq, Repr

def perform (session : Session) : Action → Session
  | .evaluate entry => session.evaluate entry
  | .clear => session.clear
  | .setOptions options => session.setOptions options
  | .setEntry entry => session.setEntry entry
  | .restart options => start options

/-- The actions are performed in order. -/
def performAll (session : Session) (actions : List Action) : Session :=
  actions.foldl perform session

theorem performAll_append (session : Session) (first second : List Action) :
    session.performAll (first ++ second) = (session.performAll first).performAll second :=
  List.foldl_append ..

/-- At most one of a derivation and a fault is there. -/
def IsExclusive (session : Session) : Prop :=
  session.derivation? = none ∨ session.fault? = none

/-- A session has exactly this derivation or exactly this fault. -/
def Holds (session : Session) : Except Fault Derivation → Prop
  | .ok derivation => session.derivation? = some derivation ∧ session.fault? = none
  | .error fault => session.fault? = some fault ∧ session.derivation? = none

theorem Holds.isExclusive {session : Session} {outcome : Except Fault Derivation}
    (holds : session.Holds outcome) : session.IsExclusive := by
  cases outcome with
  | ok derivation => exact .inr holds.2
  | error fault => exact .inl holds.2

theorem Holds.outcome_eq {session : Session} {outcome : Except Fault Derivation}
    (holds : session.Holds outcome) : session.outcome = some outcome := by
  cases outcome with
  | ok derivation =>
      obtain ⟨present, -⟩ := holds
      rw [Session.outcome, present]
  | error fault =>
      obtain ⟨present, absent⟩ := holds
      rw [Session.outcome, present, absent]

/-- An evaluation leaves nothing of what was there before. -/
theorem holds_evaluate {session : Session} {entry : String} {outcome : Except Fault Derivation}
    (derived : derive session.options entry = outcome) :
    (session.evaluate entry).Holds outcome := by
  have options : ({ session with entry := entry }.clear).options = session.options := rfl
  have typed : ({ session with entry := entry }.clear).entry = entry := rfl
  rw [evaluate, options, typed, derived]
  cases outcome with
  | ok derivation => exact ⟨rfl, rfl⟩
  | error fault => exact ⟨rfl, rfl⟩

/-- An evaluation answers with what becomes of its entry. -/
theorem outcome_evaluate (session : Session) (entry : String) :
    (session.evaluate entry).outcome = some (derive session.options entry) := by
  generalize derived : derive session.options entry = outcome
  exact (holds_evaluate derived).outcome_eq

theorem options_evaluate (session : Session) (entry : String) :
    (session.evaluate entry).options = session.options := by
  unfold evaluate
  dsimp only
  split <;> rfl

theorem IsExclusive.perform {session : Session} (exclusive : session.IsExclusive)
    (action : Action) : (session.perform action).IsExclusive := by
  cases action with
  | evaluate entry =>
      generalize derived : derive session.options entry = outcome
      exact (holds_evaluate derived).isExclusive
  | clear => exact .inl rfl
  | setOptions options => exact exclusive
  | setEntry entry => exact exclusive
  | restart options => exact .inl rfl

theorem IsExclusive.performAll {session : Session} (exclusive : session.IsExclusive)
    (actions : List Action) : (session.performAll actions).IsExclusive := by
  induction actions generalizing session with
  | nil => exact exclusive
  | cons action rest inductionHypothesis => exact inductionHypothesis (exclusive.perform action)

/-- These actions leave the results of a session as they are. -/
def Action.KeepsResults : Action → Prop
  | .setOptions _ | .setEntry _ => True
  | .evaluate _ | .clear | .restart _ => False

theorem Holds.perform {session : Session} {outcome : Except Fault Derivation} {action : Action}
    (holds : session.Holds outcome) (keeps : action.KeepsResults) :
    (session.perform action).Holds outcome := by
  cases action with
  | setOptions options => cases outcome <;> exact holds
  | setEntry entry => cases outcome <;> exact holds
  | evaluate entry => exact keeps.elim
  | clear => exact keeps.elim
  | restart options => exact keeps.elim

theorem Holds.performAll {session : Session} {outcome : Except Fault Derivation}
    {actions : List Action} (holds : session.Holds outcome)
    (keep : ∀ action ∈ actions, action.KeepsResults) :
    (session.performAll actions).Holds outcome := by
  induction actions generalizing session with
  | nil => exact holds
  | cons action rest inductionHypothesis =>
      obtain ⟨keeps, others⟩ := List.forall_mem_cons.mp keep
      exact inductionHypothesis (holds.perform keeps) others

/-- Only new options and a restart change the options. -/
def Action.optionsAfter (options : Options) : Action → Options
  | .setOptions next | .restart next => next
  | .evaluate _ | .clear | .setEntry _ => options

/-- The options that a sequence of actions leaves in force. -/
def optionsInForce (options : Options) (actions : List Action) : Options :=
  actions.foldl Action.optionsAfter options

theorem options_perform (session : Session) (action : Action) :
    (session.perform action).options = action.optionsAfter session.options := by
  cases action with
  | evaluate entry => exact session.options_evaluate entry
  | clear => rfl
  | setOptions options => rfl
  | setEntry entry => rfl
  | restart options => rfl

theorem options_performAll (session : Session) (actions : List Action) :
    (session.performAll actions).options = optionsInForce session.options actions := by
  induction actions generalizing session with
  | nil => rfl
  | cons action rest inductionHypothesis =>
      rw [performAll, List.foldl_cons, optionsInForce, List.foldl_cons, ← options_perform]
      exact inductionHypothesis (session.perform action)

/-- The outcome of an evaluation is held through all actions that keep the results. -/
theorem holds_performAll_of_evaluate (session : Session) (earlier : List Action) (entry : String)
    {later : List Action} (keep : ∀ action ∈ later, action.KeepsResults)
    {outcome : Except Fault Derivation}
    (derived : derive (optionsInForce session.options earlier) entry = outcome) :
    (session.performAll (earlier ++ .evaluate entry :: later)).Holds outcome := by
  rw [← options_performAll] at derived
  have evaluated : ((session.performAll earlier).evaluate entry).Holds outcome :=
    holds_evaluate derived
  rw [performAll_append]
  exact evaluated.performAll keep

/-- An exclusive session writes its results or its fault or nothing. -/
theorem IsExclusive.report {session : Session} (exclusive : session.IsExclusive) :
    Report.text (Report.results session) = "" ∨ Report.text (Report.failure session) = "" := by
  rcases exclusive with noDerivation | noFault
  · left
    rw [Report.results, noDerivation]
    rfl
  · right
    rw [Report.failure, noFault]
    rfl

/-- A session always holds the outcome of its latest evaluation. -/
theorem sessions_hold_the_latest_outcome (options : Options) (actions : List Action) :
    let session := (start options).performAll actions
    (session.derivation? = none ∨ session.fault? = none) ∧
      (Report.text (Report.results session) = "" ∨ Report.text (Report.failure session) = "") ∧
      (∀ earlier entry later, actions = earlier ++ .evaluate entry :: later →
        (∀ action ∈ later, action.KeepsResults) →
          session.Holds (derive (optionsInForce options earlier) entry)) ∧
      session.clear = ⟨session.entry, session.options, none, none⟩ := by
  intro session
  have exclusive : session.IsExclusive := IsExclusive.performAll (.inl rfl) actions
  refine ⟨exclusive, exclusive.report, ?_, rfl⟩
  rintro earlier entry later rfl keep
  generalize derived : derive (optionsInForce options earlier) entry = outcome
  exact holds_performAll_of_evaluate (start options) earlier entry keep derived

/-- The fault stays under new options and under a new entry. -/
theorem sessions_hold_the_latest_outcome_of_letter :
    ((start default).performAll [.evaluate "1+2", .setOptions ⟨⟨true⟩, true⟩, .evaluate "a+1",
        .setOptions ⟨.standard, false⟩, .setEntry "1+2"]).Holds
      (.error (.notNumeric "a" 0)) := by
  have failed : derive ⟨⟨true⟩, true⟩ "a+1" = .error (.notNumeric "a" 0) := by
    have spelled : toPostfix ⟨true⟩ (Text.trim "a+1") = .ofList ["a", "1", "+"] := by
      decide +kernel
    apply derive_of_fault
    rw [spelled]
    rfl
  have held := (sessions_hold_the_latest_outcome default [.evaluate "1+2",
    .setOptions ⟨⟨true⟩, true⟩, .evaluate "a+1", .setOptions ⟨.standard, false⟩,
    .setEntry "1+2"]).2.2.1 [.evaluate "1+2", .setOptions ⟨⟨true⟩, true⟩] "a+1"
      [.setOptions ⟨.standard, false⟩, .setEntry "1+2"] rfl (by simp [Action.KeepsResults])
  have inForce : optionsInForce default [.evaluate "1+2", .setOptions ⟨⟨true⟩, true⟩] =
      ⟨⟨true⟩, true⟩ := rfl
  rw [inForce, failed] at held
  exact held

end PolishNotation.Session
