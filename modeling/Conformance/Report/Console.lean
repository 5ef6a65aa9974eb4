import Conformance.Report.Event

/-!
# Console output

Events as lines of text.  Every event is one line, except that a failure has its reason on a second
one, and an empty line stands wherever the kind of line changes.

## Parts

* `LineKind` groups the events: headings, comments, tests and summaries.
* `Event.block` is the text of one event.
* `Console` is the output so far; `Console.write` adds an event and `Console.reporter` takes events
  from a run.
* `Console.render` is the output for a list of events.
-/

namespace Conformance

/-- The kinds of lines between which an empty line stands. -/
inductive LineKind
  | heading
  | comment
  | test
  | summary
deriving DecidableEq

namespace Event

def kind : Event → LineKind
  | heading _ => .heading
  | comment _ => .comment
  | skipped _ | pass _ | fail _ _ => .test
  | summary _ _ _ => .summary

/-- The lines of one event, without the final line feed. -/
def block : Event → String
  | heading text => " # " ++ text
  | comment text => text
  | skipped text => " –  " ++ text
  | pass text => " ✔  " ++ text
  | fail text failure => " ✘  " ++ text ++ "\n" ++ failure.text
  | summary package passed total =>
    (if passed = total then " ✔  " else " ✘  ") ++ package ++ ": " ++ toString passed ++ "/" ++
      toString total

end Event

/-- The output so far and the kind of its last line. -/
structure Console where
  last : Option LineKind
  output : String

namespace Console

/-- The console before the first event. -/
def empty : Console :=
  ⟨none, ""⟩

/-- Write the lines of an event, with an empty line in front if the kind of line changes. -/
def write (c : Console) (event : Event) : Console :=
  let gap := if c.last.any (· ≠ event.kind) then "\n" else ""
  ⟨some event.kind, c.output ++ gap ++ event.block ++ "\n"⟩

/-- Takes every event. -/
def reporter : Reporter Console :=
  ⟨fun event => modify (·.write event)⟩

/-- The output for events in order. -/
def render (events : List Event) : String :=
  (events.foldl write empty).output

end Console

end Conformance
