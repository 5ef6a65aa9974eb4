/-!
# Events of a run

What a run reports: one event for every feature, in order, a summary behind the features of each
specification, and comment lines of the runner itself.  A reporter takes events one by one and may
refuse one, which ends the run.

## Parts

* `Event` and `Failure` are what is reported; `Event.isPass` and `Event.isFail` tell the lines of
  tests apart.
* `Reporter` takes events; `Reporter.recorder` keeps them and `Reporter.limited` refuses all but the
  first few.
-/

namespace Conformance

/-- Why a test failed. -/
inductive Failure
  /-- An exception was raised and none was expected. -/
  | exception (message : String)
  /-- The actual and the expected result differ; both are kept as text. -/
  | mismatch (actual expected : String)
deriving DecidableEq

def Failure.text : Failure → String
  | exception message => "Exception: " ++ message
  | mismatch actual expected => "Assertion: " ++ actual ++ " != " ++ expected

/-- One thing that happened in a run. -/
inductive Event
  /-- A comment of a specification. -/
  | heading (text : String)
  /-- A line of the runner. -/
  | comment (text : String)
  | skipped (text : String)
  | pass (text : String)
  | fail (text : String) (failure : Failure)
  /-- The end of a specification, with the number of tests that passed and of those that ran. -/
  | summary (package : String) (passed total : Nat)
deriving DecidableEq

namespace Event

/-- Whether the event is the line of a test that passed. -/
def isPass : Event → Bool
  | pass _ => true
  | _ => false

/-- Whether the event is the line of a test that failed. -/
def isFail : Event → Bool
  | fail _ _ => true
  | _ => false

end Event

/-- A receiver of events with a state of its own.  Refusing an event gives the reason. -/
structure Reporter (ρ : Type) where
  report : Event → EStateM String ρ Unit

namespace Reporter

/-- Keeps all events in order. -/
def recorder : Reporter (List Event) :=
  ⟨fun event => modify (· ++ [event])⟩

/-- Keeps the first events up to the limit and refuses all later ones. -/
def limited (limit : Nat) : Reporter (List Event) :=
  ⟨fun event => do
    if (← get).length < limit then modify (· ++ [event]) else throw "report limit reached"⟩

end Reporter

end Conformance
