import Mathlib.Data.List.Basic
import Conformance.CommandLine.Program
import Conformance.Feature.Parse
import Conformance.Proofs.Feature.LeftSides
import Conformance.Proofs.Run.Attempt

/-!
# The calling convention

A call is written as a property with a sequence behind it, and the items of the sequence are of
three kinds: positional arguments, keyword arguments, and the expected result.  The kinds may be
mixed in any order.  What reaches the host is one list of arguments: the positional ones in their order, and
behind them, if there is a keyword argument at all, one mapping with all of these.

On the way there the items are sorted by the shape of their keys, and dereferenced by the shape of
their values.  A keyword argument whose value is null has the shape of a reference node, and so has
a mapping of keyword arguments that holds nothing else.  Neither is taken for one, because the names
have been split off from the values before anything is looked up.

## Parts

* `Value.isPositional`, `Value.keyword?` and `Value.expectation?` are the three kinds, and
  `Payload.ofItems_eq` says that sorting a payload is picking out each of them.
* `Test.parse_of_call` reads a call.
* `Host.caller?` calls or constructs, and `Host.attempt_of_call` executes a call.
* `calling_convention` goes from the entry to the host.
-/

namespace Conformance

variable {σ : Type}

/-! ## The kinds of items -/

namespace Value

/-- Whether an item is a positional argument: anything but a mapping with a single entry whose key
is `==` or ends in `=`. -/
def isPositional : Value → Bool
  | .object [(key, _)] => !(key == "==" || key.toList.getLast? == some '=')
  | _ => true

/-- The name and the value of a keyword argument.  The name is the key without its last `=`,
trimmed. -/
def keyword? : Value → Option (String × Value)
  | .object [(key, value)] =>
    if key ≠ "==" ∧ key.toList.getLast? = some '=' then
      some (String.ofList (Text.trim key.toList.dropLast), value)
    else none
  | _ => none

/-- The expected result that an item states. -/
def expectation? : Value → Option Value
  | .object [(key, value)] => if key = "==" then some value else none
  | _ => none

end Value

namespace Payload

lemma keywordName?_eq (key : String) :
    keywordName? key =
      if key.toList.getLast? = some '=' then some (String.ofList (Text.trim key.toList.dropLast))
      else none := by
  rw [keywordName?, List.getLast?_eq_head?_reverse]
  cases turned : key.toList.reverse with
  | nil => rfl
  | cons c rest =>
    have ends : key.toList = rest.reverse ++ [c] := by
      rw [← List.reverse_reverse key.toList, turned, List.reverse_cons]
    by_cases mark : c = '='
    · subst mark
      simp [ends]
    · simp [mark]

/-- An item goes where its kind belongs. -/
lemma add_ofValue (p : Payload) (v : Value) :
    p.add (.ofValue v) =
      ⟨p.args ++ [v].filter Value.isPositional, p.kwargs.merge ([v].filterMap Value.keyword?),
        ([v].filterMap Value.expectation?).getLast?.getD p.result⟩ := by
  by_cases single : ∃ key value, v = .object [(key, value)]
  · obtain ⟨key, value, rfl⟩ := single
    by_cases is_expected : key = "=="
    · subst is_expected
      simp [PayloadItem.ofValue, equalityMark, add, Value.isPositional, Value.keyword?,
        Value.expectation?, Assoc.merge]
    by_cases mark : key.toList.getLast? = some '='
    · simp [PayloadItem.ofValue, equalityMark, add, Value.isPositional, Value.keyword?,
        Value.expectation?, Assoc.merge, keywordName?_eq, is_expected, mark]
    · simp [PayloadItem.ofValue, equalityMark, add, Value.isPositional, Value.keyword?,
        Value.expectation?, Assoc.merge, keywordName?_eq, is_expected, mark]
  · have other : ∀ key value, v = .object [(key, value)] → False :=
      fun key value same => single ⟨key, value, same⟩
    have positional : PayloadItem.ofValue v = .positional v := PayloadItem.ofValue.eq_2 v other
    have kept : v.isPositional = true := Value.isPositional.eq_2 v other
    have no_keyword : v.keyword? = none := Value.keyword?.eq_2 v other
    have no_expectation : v.expectation? = none := Value.expectation?.eq_2 v other
    simp [positional, add, kept, no_keyword, no_expectation, Assoc.merge]

lemma foldl_add_ofValue (items : List Value) (p : Payload) :
    items.foldl (fun p item => p.add (.ofValue item)) p =
      ⟨p.args ++ items.filter Value.isPositional, p.kwargs.merge (items.filterMap Value.keyword?),
        (items.filterMap Value.expectation?).getLast?.getD p.result⟩ := by
  induction items generalizing p with
  | nil => simp [Assoc.merge]
  | cons item rest ih =>
    have parts : item :: rest = [item] ++ rest := rfl
    rw [List.foldl_cons, ih, add_ofValue, parts, List.filter_append, List.filterMap_append,
      List.filterMap_append]
    simp only [List.append_assoc, Payload.mk.injEq, true_and]
    constructor
    · exact (List.foldl_append ..).symm
    · rw [List.getLast?_append, Option.getD_or]

/-- Sorting a payload is picking out each kind of items in its own order. -/
theorem ofItems_eq (items : List Value) :
    ofItems items =
      ⟨items.filter Value.isPositional, Assoc.ofList (items.filterMap Value.keyword?),
        (items.filterMap Value.expectation?).getLast?.getD .null⟩ :=
  foldl_add_ofValue items empty

end Payload

/-! ## Reading a call -/

/-- An unmarked property in front of a sequence is called, and the items of the sequence are sorted
by their kinds. -/
lemma Test.parse_of_call (views : Views) (runtime : String) (items : List Value)
    {left property : String} {side : LeftSide} (reads : leftSide? left.toList = some side)
    (named : side.property.bind Text.nonEmpty? = some property)
    (unmarked : ∀ stem, property ≠ stem ++ "==") :
    ∃ t, Test.parse views runtime left (.array items) = .ok t ∧ t.property = some property ∧
      t.call = true ∧ t.args = items.filter Value.isPositional ∧
      t.kwargs = Assoc.ofList (items.filterMap Value.keyword?) ∧
      t.result = (items.filterMap Value.expectation?).getLast?.getD .null ∧
      ∀ items', Payload.ofItems items' = Payload.ofItems items →
        Test.parse views runtime left (.array items') = .ok t := by
  have no_mark : ¬ ['=', '='] <:+ property.toList := by
    rintro ⟨stem, ends⟩
    refine unmarked (String.ofList stem) ?_
    rw [← String.toList_inj, ← ends]
    simp
  have parsed (items : List Value) : Test.parse views runtime left (.array items) =
      .ok {
        tags := side.tags.map splitTags
        skip := skipsFor runtime (side.tags.map splitTags)
        assign := side.target.bind Text.nonEmpty?
        property := some property
        call := true
        args := (Payload.ofItems items).args
        kwargs := (Payload.ofItems items).kwargs
        result := (Payload.ofItems items).result
        text := Test.line views (side.target.bind Text.nonEmpty?) (some property) true
          (Payload.ofItems items) } := by
    simp [Test.parse, reads, named, stripMark_of_unmarked no_mark, Value.items?]
  refine ⟨_, parsed items, rfl, rfl, ?_, ?_, ?_, ?_⟩
  · rw [Payload.ofItems_eq]
  · rw [Payload.ofItems_eq]
  · rw [Payload.ofItems_eq]
  · intro items' same
    rw [parsed, same]

/-! ## Executing a call -/

namespace Host

variable (h : Host σ)

/-- What calls a function or constructs with a class, given the arguments.  Nothing else can be
called. -/
def caller? : Value → Option (List Value → HostM σ Value)
  | .function f => some (h.invoke f)
  | .cls c => some (h.construct c.id)
  | _ => none

variable {h} {s : Scope} {t : Test} {property : String} {target : Value}
  {call : List Value → HostM σ Value} {w w₁ w₂ : World σ}

lemma useProperty_of_caller {args : List Value} {kwargs : Mapping}
    (found : s.lookup h property w = .ok target w₁) (callable : h.caller? target = some call) :
    h.useProperty s property true args kwargs w =
      call (args ++ if kwargs.isEmpty then [] else [.object kwargs]) w₁ := by
  have joined : (if kwargs.isEmpty then args else args ++ [.object kwargs]) =
      args ++ if kwargs.isEmpty then [] else [.object kwargs] := by
    cases kwargs.isEmpty <;> simp
  rw [useProperty, bind_of_ok found, if_pos rfl, joined]
  cases target with
  | function f =>
    cases callable
    rfl
  | cls c =>
    cases callable
    rfl
  | _ => cases callable

/-- A test that calls its property does so once, behind all look-ups, and its outcome is settled. -/
lemma attempt_of_call {r : Resolved} (runs : t.skip = false) (reads : t.property = some property)
    (calls : t.call = true) (resolved : s.resolve h t w = .ok r w₁)
    (found : s.lookup h property w₁ = .ok target w₂) (callable : h.caller? target = some call) :
    h.attempt s (.test t) w =
      (do
        let o ← outcome (call (r.args ++ if r.kwargs.isEmpty then [] else [Value.object r.kwargs]))
        h.settle s t r.expected o) w₂ := by
  have used : h.produce s t r w₁ =
      outcome (call (r.args ++ if r.kwargs.isEmpty then [] else [.object r.kwargs])) w₂ := by
    rw [produce_of_property reads, calls, outcome, outcome, useProperty_of_caller found callable]
  rw [attempt_of_runs runs, bind_of_ok resolved, bind_apply, used, bind_apply]

end Host

namespace Scope

variable {s : Scope} {h : Host σ}

/-- Dereferencing keeps the keys of a mapping. -/
lemma keys_of_dereferenceEntries {entries entries' : Mapping} {w w' : World σ}
    (ok : s.dereferenceEntries h entries w = .ok entries' w') : entries'.keys = entries.keys := by
  induction entries generalizing entries' w with
  | nil =>
    cases ok
    rfl
  | cons entry rest ih =>
    obtain ⟨key, item⟩ := entry
    rw [dereferenceEntries] at ok
    obtain ⟨item', w₁, first, ok⟩ := bind_eq_ok_iff.mp ok
    obtain ⟨rest', w₂, others, ok⟩ := bind_eq_ok_iff.mp ok
    cases ok
    rw [Assoc.keys_cons, Assoc.keys_cons, ih others]

end Scope

/-- There is a keyword argument behind the dereferencing exactly if an item states one. -/
lemma isEmpty_of_keys_ofList {kwargs : Mapping} {bindings : List (String × Value)}
    (kept : kwargs.keys = Assoc.keys (Assoc.ofList bindings)) :
    kwargs.isEmpty = bindings.isEmpty := by
  rw [Assoc.keys_ofList] at kept
  have same_length := congrArg List.length kept
  cases bindings with
  | nil => simpa [Assoc.keys, List.isEmpty_iff] using same_length
  | cons binding rest =>
    have some_key : kwargs ≠ [] := by
      rintro rfl
      simp [List.eraseDups_cons] at same_length
    simpa using some_key

/-! ## From the entry to the host -/

/-- **The calling convention.**  Let an entry have a property that does not end in two equals signs
and a sequence of items behind it.

* It is read as a call.  Its arguments are the positional items in order; its keyword arguments have
  each name once, in the order of first appearance, with its last value; and its expected result is
  the last one that is stated, or null.
* Wherever its references can be looked up and its property is a function or a class, executing it
  is one call or construction, behind all look-ups, and settling what that gives.  What is passed are
  the dereferenced positional arguments in order, and behind them, exactly if there is a keyword
  argument among the items, one mapping with the dereferenced keyword arguments.
* An entry with the same items of each kind, in whatever way the kinds are mixed, is read as the
  same test. -/
theorem calling_convention (h : Host σ) (views : Views) (runtime left property : String)
    (side : LeftSide) (items : List Value) (reads : leftSide? left.toList = some side)
    (named : side.property.bind Text.nonEmpty? = some property)
    (unmarked : ∀ stem, property ≠ stem ++ "==") :
    ∃ t, Feature.parse views runtime (.object [(left, .array items)]) = .ok (.test t) ∧
      t.property = some property ∧ t.call = true ∧
      t.args = items.filter Value.isPositional ∧
      t.kwargs.keys = ((items.filterMap Value.keyword?).map Prod.fst).eraseDups ∧
      (∀ name, t.kwargs.get? name =
        ((items.filterMap Value.keyword?).filter fun entry => entry.1 = name).getLast?.map
          Prod.snd) ∧
      t.result = (items.filterMap Value.expectation?).getLast?.getD .null ∧
      (∀ (s : Scope) (w w₁ w₂ w₃ w₄ : World σ) (args : List Value) (kwargs : Mapping)
        (expected target : Value) (call : List Value → HostM σ Value),
        s.dereferenceItems h t.args w = .ok args w₁ →
        s.dereferenceEntries h t.kwargs w₁ = .ok kwargs w₂ →
        s.dereference h t.result w₂ = .ok expected w₃ →
        s.lookup h property w₃ = .ok target w₄ → h.caller? target = some call →
        kwargs.keys = t.kwargs.keys ∧
        h.attempt s (.test { t with skip := false }) w =
          (do
            let o ← Host.outcome (call (args ++
              if (items.filterMap Value.keyword?).isEmpty then [] else [Value.object kwargs]))
            h.settle s t expected o) w₄) ∧
      ∀ items', items'.filter Value.isPositional = items.filter Value.isPositional →
        items'.filterMap Value.keyword? = items.filterMap Value.keyword? →
        items'.filterMap Value.expectation? = items.filterMap Value.expectation? →
        Feature.parse views runtime (.object [(left, .array items')]) = .ok (.test t) := by
  obtain ⟨t, parsed, is_property, calls, args_eq, kwargs_eq, result_eq, alike⟩ :=
    Test.parse_of_call views runtime items reads named unmarked
  refine ⟨t, ?_, is_property, calls, args_eq, ?_, ?_, result_eq, ?_, ?_⟩
  · rw [Feature.parse, parsed]
    rfl
  · rw [kwargs_eq]
    exact Assoc.keys_ofList _
  · intro name
    rw [kwargs_eq]
    exact Assoc.get?_ofList _ name
  · intro s w w₁ w₂ w₃ w₄ args kwargs expected target call positional keywords stated found callable
    have kept := Scope.keys_of_dereferenceEntries keywords
    -- The names stand apart from the values by now, so no keyword argument looks like a reference.
    have resolved : s.resolve h { t with skip := false } w = .ok ⟨args, kwargs, expected⟩ w₃ := by
      rw [Scope.resolve, bind_of_ok positional, bind_of_ok keywords, bind_of_ok stated]
      rfl
    have any_keyword : kwargs.isEmpty = (items.filterMap Value.keyword?).isEmpty := by
      rw [kwargs_eq] at kept
      exact isEmpty_of_keys_ofList kept
    have attempted := Host.attempt_of_call (t := { t with skip := false }) rfl is_property calls
      resolved found callable
    rw [any_keyword] at attempted
    exact ⟨kept, attempted⟩
  · intro items' positional keywords expectations
    have same : Payload.ofItems items' = Payload.ofItems items := by
      rw [Payload.ofItems_eq, Payload.ofItems_eq, positional, keywords, expectations]
    rw [Feature.parse, alike items' same]
    rfl

/-! ### A call with items of all kinds -/

/-- A host whose functions answer what they are called with. -/
def echoHost : Host Unit :=
  { emptyHost with call := fun _ args => pure (.array args) }

/-- A scope with a number and a function. -/
def scopeOfEcho : Scope :=
  ⟨[("x", .int 5), ("f", .function ⟨"f", .host 0⟩)]⟩

/-- Positional arguments, keyword arguments and expected results in turns.  One keyword argument is
null and one is given twice. -/
def mixedItems : List Value :=
  [.int 1, .object [("sep=", .string ",")], .object [("flag =", .null)], .object [("==", .int 1)],
    .reference "x", .object [(" sep =", .reference "x")], .object [("==", .reference "x")]]

/-- The test that these items make of the entry `y = f`. -/
def mixedTest : Test where
  tags := none
  skip := false
  assign := some "y"
  property := some "f"
  call := true
  args := [.int 1, .reference "x"]
  kwargs := [("sep", .reference "x"), ("flag", .null)]
  result := .reference "x"
  text := "y = f(1, x, sep=x, flag=null) == x"

theorem mixed_items_are_passed :
    leftSide? "y = f".toList = some ⟨none, some "y ".toList, some " f".toList⟩ ∧
    (some " f".toList).bind Text.nonEmpty? = some "f" ∧ (∀ stem, "f" ≠ stem ++ "==") ∧
    Feature.parse .none "rs" (.object [("y = f", .array mixedItems)]) = .ok (.test mixedTest) ∧
    mixedTest.kwargs.keys = ["sep", "flag"] ∧
    echoHost.attempt scopeOfEcho (.test mixedTest) ⟨[], ()⟩ =
      (do
        let o ← Host.outcome (echoHost.invoke ⟨"f", .host 0⟩
          [.int 1, .int 5, .object [("sep", .int 5), ("flag", .null)]])
        echoHost.settle scopeOfEcho mixedTest (.int 5) o) ⟨[], ()⟩ := by
  have reads : leftSide? "y = f".toList = some ⟨none, some "y ".toList, some " f".toList⟩ := rfl
  have named : (some " f".toList).bind Text.nonEmpty? = some "f" := by decide
  have unmarked : ∀ stem, "f" ≠ stem ++ "==" := by
    intro stem same
    have lengths := congrArg String.length same
    rw [String.length_append] at lengths
    have name_length : "f".length = 1 := rfl
    have mark_length : "==".length = 2 := rfl
    omega
  have is_mixed : Feature.parse .none "rs" (.object [("y = f", .array mixedItems)]) =
      .ok (.test mixedTest) := rfl
  obtain ⟨t, parsed, -, -, -, keys, -, -, executed, -⟩ := calling_convention echoHost .none "rs"
    "y = f" "f" _ mixedItems reads named unmarked
  rw [is_mixed] at parsed
  cases parsed
  have attempted := executed scopeOfEcho ⟨[], ()⟩ ⟨[], ()⟩ ⟨[], ()⟩ ⟨[], ()⟩ ⟨[], ()⟩
    [.int 1, .int 5] [("sep", .int 5), ("flag", .null)] (.int 5) (.function ⟨"f", .host 0⟩)
    (echoHost.invoke ⟨"f", .host 0⟩) rfl rfl rfl rfl rfl
  exact ⟨reads, named, unmarked, is_mixed, keys, attempted.2⟩

end Conformance
