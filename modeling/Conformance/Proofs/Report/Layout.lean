import Conformance.Proofs.Run.ExitFirst

/-!
# The layout of the console

The console learns of one event after the other and decides on each empty line by the kind of the
line before, which it remembers.  The finished text can be read without that memory: it is the lines
of the events in order, with an empty line between two neighbours that are not of one kind, and
nothing before the first event or behind the last.  So what is written for an event depends on the
event in front of it and on no other, and stays when more events follow.

A run hands its events to the console as it hands them to a recorder, which only keeps them.  What
the recorder has kept can therefore be written later and comes out as the console has it.

## Parts

* `Event.sameKind` tells the four kinds of lines apart, and `Event.gap` is what stands between two
  neighbours.
* `Console.layout` is the text for a list of events.
* `Console.output_write_eq` is one step of the console and `Console.output_takeAll_cons` all of
  them.
* `Console.Deferrable` says that a run can be written later, and `Console.deferrable_of_replay` that
  it can if it is the replay of one timeline.
* `console_lays_out_events` is the result.
-/

namespace Conformance

/-! ## Events as neighbours -/

namespace Event

/-- Whether the event is the line of a test, which is skipped, passes or fails. -/
def isTest : Event → Bool
  | skipped _ | pass _ | fail _ _ => true
  | _ => false

/-- Two headings are of one kind, and so are two lines of the runner, two summaries and the lines of
two tests. -/
def sameKind : Event → Event → Bool
  | heading _, heading _ => true
  | comment _, comment _ => true
  | summary _ _ _, summary _ _ _ => true
  | event, next => event.isTest && next.isTest

/-- The lines of an event, each with its line feed. -/
def lines (event : Event) : String :=
  event.block ++ "\n"

/-- What stands between an event and the next one. -/
def gap (event next : Event) : String :=
  if event.sameKind next then "" else "\n"

lemma sameKind_eq (event next : Event) : event.sameKind next = decide (event.kind = next.kind) := by
  cases event <;> cases next <;> rfl

end Event

namespace Console

/-! ## The text for a list of events -/

/-- The lines of the events in order, and what stands between neighbours. -/
def layout : List Event → String
  | [] => ""
  | [event] => event.lines
  | event :: next :: rest => event.lines ++ event.gap next ++ layout (next :: rest)

/-- What the console writes in front of an event. -/
def lead (c : Console) (event : Event) : String :=
  if c.last.any (· ≠ event.kind) then "\n" else ""

@[simp] lemma lead_empty (event : Event) : empty.lead event = "" := rfl

/-- Behind an event, the console writes what stands between that event and the next. -/
lemma lead_write (c : Console) (event next : Event) :
    (c.write event).lead next = event.gap next := by
  simp only [lead, write, Event.gap, Event.sameKind_eq, Option.any_some]
  by_cases same : event.kind = next.kind <;> simp [same]

lemma output_write_eq (c : Console) (event : Event) :
    (c.write event).output = c.output ++ c.lead event ++ event.lines := by
  simp only [write, lead, Event.lines, String.append_assoc]

/-! ## The console as a reporter -/

lemma take_reporter (c : Console) (event : Event) : reporter.take c event = c.write event := rfl

lemma reporter_takes (c : Console) (events : List Event) : reporter.Takes c events :=
  Reporter.takes_of_accepts console_accepts c events

/-- A console that is handed events adds their layout to its output, behind an empty line if the
first of them is not of the kind of the line before. -/
lemma output_takeAll_cons (c : Console) (event : Event) (rest : List Event) :
    (reporter.takeAll c (event :: rest)).output =
      c.output ++ c.lead event ++ layout (event :: rest) := by
  -- The console remembers the event just written, so the induction is for every console.
  induction rest generalizing c event with
  | nil => exact c.output_write_eq event
  | cons next rest ih =>
    rw [Reporter.takeAll_cons, take_reporter, ih, lead_write, output_write_eq, layout]
    simp only [String.append_assoc]

lemma output_takeAll_empty (events : List Event) :
    (reporter.takeAll empty events).output = layout events := by
  cases events with
  | nil => rfl
  | cons event rest =>
    rw [output_takeAll_cons, lead_empty, String.append_empty]
    exact String.empty_append

/-- Nothing that is written is changed later. -/
lemma exists_output_takeAll (c : Console) (events : List Event) :
    ∃ more, (reporter.takeAll c events).output = c.output ++ more := by
  cases events with
  | nil => exact ⟨"", String.append_empty.symm⟩
  | cons event rest =>
    exact ⟨c.lead event ++ layout (event :: rest),
      (c.output_takeAll_cons event rest).trans (String.append_assoc ..)⟩

end Console

/-! ## Runs -/

section Runs

variable {σ α : Type}

/-- It makes no difference whether a run writes to the console at once, or later, from the events
that a recorder has kept: the run ends alike in the same place, and the console is the same. -/
def Console.Deferrable (run : (ρ : Type) → Reporter ρ → RunM σ ρ α) (p : Place σ) : Prop :=
  run Console reporter (p.session empty) =
    retaken (reporter.takeAll empty ((run _ .recorder).leaves (p.session [])).taken)
      (run _ .recorder (p.session []))

lemma Timeline.replay_recorder (t : Timeline σ α) :
    t.replay .recorder [] = withTaken t.events t.ending := by
  rw [replay_of_takes (Reporter.takes_of_accepts Reporter.recorder_accepts _ _),
    Reporter.takeAll_recorder, List.nil_append]

lemma Timeline.replay_console (t : Timeline σ α) :
    t.replay Console.reporter .empty =
      withTaken (Console.reporter.takeAll .empty t.events) t.ending :=
  replay_of_takes (Console.reporter_takes .empty t.events)

/-- A run that is the replay of one timeline for all reporters can be written later. -/
lemma Console.deferrable_of_replay {run : (ρ : Type) → Reporter ρ → RunM σ ρ α} {p : Place σ}
    (t : Timeline σ α)
    (replays : ∀ (ρ : Type) (reporter : Reporter ρ) (taken : ρ),
      run ρ reporter (p.session taken) = t.replay reporter taken) : Deferrable run p := by
  have kept : ((run _ .recorder).leaves (p.session [])).taken = t.events := by
    rw [RunM.leaves, replays, t.replay_recorder]
    cases t.ending with
    | ok a q => rfl
    | error e q => rfl
  rw [Deferrable, kept, replays, replays, t.replay_recorder, t.replay_console, retaken_withTaken]

end Runs

/-! ## The result -/

/-- **The layout of the console.**  A new console takes all events that it is handed, and what it
writes is their layout: the lines of each event in order, with an empty line between two neighbours
that are of different kinds and nothing else.  More events add to the text and change nothing in it.
A run, be it of one specification or of several, can be written later from the events that a
recorder has kept of it. -/
theorem console_lays_out_events :
    (∀ events : List Event, Console.reporter.Takes .empty events ∧
      (Console.reporter.takeAll .empty events).output = Console.layout events) ∧
    (∀ before after : List Event, ∃ more,
      (Console.reporter.takeAll .empty (before ++ after)).output =
        (Console.reporter.takeAll .empty before).output ++ more) ∧
    ∀ (σ : Type) (h : Host σ) (settings : Settings) (p : Place σ),
      (∀ specs, Console.Deferrable (fun _ reporter => runAll h reporter settings specs) p) ∧
        ∀ spec,
          Console.Deferrable (fun _ reporter => runSpecification h reporter settings spec) p := by
  refine ⟨fun events => ⟨Console.reporter_takes _ _, Console.output_takeAll_empty events⟩, ?_, ?_⟩
  · intro before after
    rw [Reporter.takeAll_append]
    exact Console.exists_output_takeAll _ after
  · intro σ h settings p
    constructor
    · intro specs
      exact Console.deferrable_of_replay (Timeline.ofAll h settings specs p)
        fun _ reporter taken => runAll_eq_replay h reporter settings specs (p.session taken)
    · intro spec
      exact Console.deferrable_of_replay (Timeline.ofSpecification h settings spec p.world)
        fun _ _ taken => runSpecification_eq_replay spec (p.session taken)

/-- Tests are one kind of line, whether they pass, fail or are skipped. -/
example : (Console.reporter.takeAll .empty [.heading "Package", .pass "a == 1", .skipped "b",
      .fail "c == 2" (.mismatch "3" "2"), .summary "Package" 1 2]).output =
    " # Package\n\n ✔  a == 1\n –  b\n ✘  c == 2\nAssertion: 3 != 2\n\n ✘  Package: 1/2\n" := by
  decide +kernel

end Conformance
