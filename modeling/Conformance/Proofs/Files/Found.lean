import Conformance.CommandLine.Program
import Conformance.Proofs.Specification.Statistics

/-!
# What is found is loaded

The search for specifications asks a file system whose answers come in some monad, so one cannot
say which answer it has.  One can say what every answer is like: the search may as well answer with
specifications that come with a proof of being loaded.

## Parts

* `FilesM.Answers` says that all answers of an action are of a kind, and
  `FilesM.Answers.bind_congr` that functions which agree on these answers cannot be told apart
  behind the action.
* `Coupled` says that the answers of two actions stand in a relation, and `FilesM.coupled_map` that
  two functions of the answers of one action are such a pair.
* `Specification.search_loaded` and `Arguments.plan_loaded` are the search and the plan of a command
  line.
* `Arguments.plan_exitFirst` says what exit-first does to a plan.
-/

namespace Conformance

variable {m : Type → Type} [Monad m] {α β : Type}

/-- The answers of two actions stand in a relation: there is one action that gives both answers, and
they always do. -/
def Coupled (r : α → β → Prop) (x : m α) (y : m β) : Prop :=
  ∃ both : m {answers : α × β // r answers.1 answers.2},
    (fun answers => answers.1.1) <$> both = x ∧ (fun answers => answers.1.2) <$> both = y

namespace FilesM

/-- All answers of the action are of a kind: it is an action with such answers, seen as one with any
answers. -/
def Answers (P : α → Prop) (x : FilesM m α) : Prop :=
  ∃ y : FilesM m {a // P a}, Subtype.val <$> y = x

variable {P : α → Prop} {Q : β → Prop}

section Lawful

variable [LawfulMonad m]

lemma answers_pure {a : α} (holds : P a) : Answers P (pure a : FilesM m α) :=
  ⟨pure ⟨a, holds⟩, by simp⟩

lemma answers_trivial (x : FilesM m α) : Answers (fun _ => True) x :=
  ⟨(fun a => ⟨a, trivial⟩) <$> x, by simp⟩

lemma Answers.bind {x : FilesM m α} {f : α → FilesM m β} (first : Answers P x)
    (next : ∀ a, P a → Answers Q (f a)) : Answers Q (x >>= f) := by
  obtain ⟨y, rfl⟩ := first
  choose g g_eq using next
  refine ⟨y >>= fun a => g a.1 a.2, ?_⟩
  rw [map_bind, bind_map_left]
  congr 1
  funext a
  exact g_eq a.1 a.2

lemma answers_of_except {answer : Except Error α} (holds : ∀ a, answer = .ok a → P a) :
    Answers P (ExceptT.mk (pure answer) : FilesM m α) := by
  cases answer with
  | ok a => exact answers_pure (holds a rfl)
  | error e =>
    refine ⟨ExceptT.mk (pure (.error e)), ExceptT.ext ?_⟩
    rw [ExceptT.run_map, ExceptT.run_mk, ExceptT.run_mk, map_pure]
    rfl

/-- Actions that agree on the answers cannot be told apart behind them. -/
lemma Answers.bind_congr {x : FilesM m α} (answers : Answers P x) {f g : α → FilesM m β}
    (agree : ∀ a, P a → f a = g a) : x >>= f = x >>= g := by
  obtain ⟨y, rfl⟩ := answers
  rw [bind_map_left, bind_map_left]
  exact congrArg (y >>= ·) (funext fun a => agree a.1 a.2)

/-- Two functions that are related on all answers of an action are related behind it. -/
lemma coupled_map {γ : Type} {r : β → γ → Prop} {x : FilesM m α} (answers : Answers P x)
    {f : Except Error α → β} {g : Except Error α → γ}
    (related : ∀ a, P a → r (f (.ok a)) (g (.ok a)))
    (failed : ∀ e, r (f (.error e)) (g (.error e))) :
    Coupled r (f <$> x.run) (g <$> x.run) := by
  obtain ⟨y, rfl⟩ := answers
  have at_answer (answer : Except Error {a // P a}) :
      r (f (Subtype.val <$> answer)) (g (Subtype.val <$> answer)) := by
    cases answer with
    | ok a => exact related a.1 a.2
    | error e => exact failed e
  refine ⟨(fun answer => ⟨(_, _), at_answer answer⟩) <$> y.run, ?_, ?_⟩
  · rw [ExceptT.run_map, Functor.map_map, Functor.map_map]
    rfl
  · rw [ExceptT.run_map, Functor.map_map, Functor.map_map]
    rfl

end Lawful

end FilesM

/-! ## Specifications -/

section Found

variable [LawfulMonad m] {σ : Type} (fs : FileSystem m) (h : Host σ)

namespace Specification

variable (runtime : String)

lemma ofFile_loaded (serial : ℕ) (path : String) :
    FilesM.Answers (fun found => ∀ spec ∈ found, spec.Loaded h)
      (ofFile fs h runtime serial path) := by
  unfold ofFile
  split
  · refine (FilesM.answers_trivial (fs.text path)).bind fun text _ => ?_
    refine FilesM.answers_of_except fun found ok spec there => ?_
    rw [Option.mem_def.mp there] at ok
    exact loaded_of_load ok
  · exact FilesM.answers_pure (by simp)

lemma ofFiles_loaded (serial : ℕ) (paths : List String) :
    FilesM.Answers (fun specs => ∀ spec ∈ specs, spec.Loaded h)
      (ofFiles fs h runtime serial paths) := by
  induction paths generalizing serial with
  | nil => exact FilesM.answers_pure (by simp)
  | cons path rest ih =>
    refine (ofFile_loaded fs h runtime serial path).bind fun found loaded => ?_
    refine (ih (serial + 1)).bind fun specs rest_loaded => FilesM.answers_pure ?_
    intro spec there
    rcases List.mem_append.mp there with first | later
    · exact loaded spec (by simpa using first)
    · exact rest_loaded spec later

lemma search_loaded (path : Option String) :
    FilesM.Answers (fun specs => ∀ spec ∈ specs, spec.Loaded h) (search fs h runtime path) :=
  (FilesM.answers_trivial (fs.candidates path)).bind fun paths _ =>
    ofFiles_loaded fs h runtime 0 paths

end Specification

/-! ## Plans -/

namespace Arguments

lemma plan_loaded (a : Arguments) :
    FilesM.Answers (fun plan => ∀ spec ∈ plan.2, spec.Loaded h) (a.plan fs h) := by
  refine (FilesM.answers_trivial (a.settings fs)).bind fun settings _ => ?_
  refine (Specification.search_loaded fs h settings.runtimeTag a.path).bind fun specs loaded => ?_
  exact FilesM.answers_pure loaded

/-- Exit-first on the command line is added to that of the file of settings, and nothing else in the
plan depends on it. -/
lemma plan_exitFirst (a : Arguments) (exitFirst : Bool) :
    ({ a with exitFirst := exitFirst } : Arguments).plan fs h =
      (fun plan : Settings × List Specification =>
        (⟨plan.1.runtimeTag, plan.1.exitFirst || exitFirst⟩, plan.2)) <$>
      ({ a with exitFirst := false } : Arguments).plan fs h := by
  have with_flag : ({ a with exitFirst := exitFirst } : Arguments).settings fs =
      (fun settings : Settings => ⟨settings.runtimeTag, settings.exitFirst || exitFirst⟩) <$>
        ({ a with exitFirst := false } : Arguments).settings fs := by
    unfold settings
    cases a.config with
    | some path => simp only [map_bind, map_pure, Bool.or_false]
    | none =>
      simp only [map_bind]
      refine bind_congr fun there => ?_
      split <;> simp only [map_bind, map_pure, Bool.or_false]
  rw [plan, plan, with_flag, bind_map_left, map_bind]
  simp only [map_bind, map_pure]

end Arguments

end Found

end Conformance
