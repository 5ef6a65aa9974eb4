import Conformance.CommandLine.Program
import Conformance.Proofs.Json.Token
import Conformance.Proofs.Run.Attempt
import Conformance.Proofs.Value.SortedForm

/-!
# Rendered values are read back

A reader of JSON with ordered objects: tokens go through an automaton that keeps the sequences and
mappings that are open around the place where it stands.  It follows the grammar of JSON and takes
any text that is JSON, not only the texts that values are rendered to, and it reads the whole text.

The text of a plain value without reference nodes is JSON, and what it is read back as is the value
itself, with the entries of its mappings in their order.  So two such values never have one text,
and a test that fails because two of them differ shows two texts.

## Parts

* `Json.State`, `Json.step` and `Json.read?` are the reader.
* `Json.Spells` says that a text is read as a certain value wherever a value may stand.
* `Json.listed` is the text of a list of things, each of which is read after the ones before it.
* `Json.spells_renderWith` is the text of a value.
* `rendering_is_decodable` is the result.
-/

namespace Conformance

namespace Json

open Text Value

/-! ## The reader -/

/-- A sequence or a mapping in which a value is to come: what is in it so far, and the key that the
value is for. -/
inductive Frame
  | items (before : List Value)
  | entry (before : Mapping) (key : String)

/-- What may come next.  `around` are the sequences and mappings that are open there, from inside to
outside. -/
inductive State
  /-- A value. -/
  | value (around : List Frame)
  /-- The first item of a sequence, or its end. -/
  | firstItem (around : List Frame)
  /-- The first key of a mapping, or its end. -/
  | firstKey (around : List Frame)
  /-- The key of a further entry. -/
  | key (before : Mapping) (around : List Frame)
  /-- The colon behind a key. -/
  | colon (before : Mapping) (key : String) (around : List Frame)
  /-- A comma and a further item, or the end of the sequence. -/
  | items (before : List Value) (around : List Frame)
  /-- A comma and a further entry, or the end of the mapping. -/
  | entries (before : Mapping) (around : List Frame)
  /-- Nothing: the value is complete. -/
  | done (v : Value)

/-- Put a complete value where it belongs. -/
def deliver (v : Value) : List Frame → State
  | [] => .done v
  | .items before :: around => .items (before ++ [v]) around
  | .entry before key :: around => .entries (before.insert key v) around

/-- Begin a value with a token. -/
def begin? (around : List Frame) : Token → Option State
  | .openArray => some (.firstItem around)
  | .openObject => some (.firstKey around)
  | .string s => some (deliver (.string s) around)
  | .scalar v => some (deliver v around)
  | _ => none

def step : State → Token → Option State
  | .value around, token => begin? around token
  | .firstItem around, .closeArray => some (deliver (.array []) around)
  | .firstItem around, token => begin? (.items [] :: around) token
  | .firstKey around, .closeObject => some (deliver (.object []) around)
  | .firstKey around, .string key => some (.colon [] key around)
  | .key before around, .string key => some (.colon before key around)
  | .colon before key around, .colon => some (.value (.entry before key :: around))
  | .items before around, .comma => some (.value (.items before :: around))
  | .items before around, .closeArray => some (deliver (.array before) around)
  | .entries before around, .comma => some (.key before around)
  | .entries before around, .closeObject => some (deliver (.object before) around)
  | _, _ => none

/-- Go through tokens from one state to another. -/
def run? (s : State) (tokens : List Token) : Option State :=
  tokens.foldlM step s

/-- The value of a JSON text. -/
def read? (text : String) : Option Value := do
  let tokens ← tokens? 0 text.toList
  match ← run? (.value []) tokens with
  | .done v => some v
  | _ => none

/-- White space, every kind of escape and repeated keys are read as in any JSON text. -/
example : read? " \x7b \"b\" : 1, \"\\u0061\":[true,\"\\ud83d\\ude00\"],\"b\":-20 \x7d\n" =
    some (.object [("b", .int (-20)), ("a", .array [.bool true, .string "😀"])]) := by
  rfl

/-- A comma must be followed by something. -/
example : read? "[1,]" = none := by
  rfl

/-! ## Steps -/

variable {s s' target : State} {tokens : List Token}

@[simp] lemma run?_nil (s : State) : run? s [] = some s := rfl

lemma run?_cons (s : State) (token : Token) (tokens : List Token) :
    run? s (token :: tokens) = (step s token).bind (run? · tokens) :=
  List.foldlM_cons

lemma run?_append (s : State) (tokens others : List Token) :
    run? s (tokens ++ others) = (run? s tokens).bind (run? · others) :=
  List.foldlM_append

/-- A run that moves can begin in any state that allows at least the same first steps. -/
lemma run?_of_step (allows : ∀ token next, step s token = some next → step s' token = some next)
    (moves : s ≠ target) (run : run? s tokens = some target) : run? s' tokens = some target := by
  cases tokens with
  | nil =>
    cases run
    exact absurd rfl moves
  | cons token tokens =>
    rw [run?_cons] at run ⊢
    obtain ⟨next, first, rest⟩ := Option.bind_eq_some_iff.mp run
    rw [allows token next first]
    exact rest

/-- The first item of a sequence is read like any other. -/
lemma run?_firstItem {around around' : List Frame} {before : List Value}
    (run : run? (.value (.items [] :: around)) tokens = some (.items before around')) :
    run? (.firstItem around) tokens = some (.items before around') := by
  refine run?_of_step ?_ (by simp) run
  intro token next first
  cases token with
  | closeArray => cases first
  | _ => exact first

/-- The first entry of a mapping is read like any other. -/
lemma run?_firstKey {around around' : List Frame} {before : Mapping}
    (run : run? (.key [] around) tokens = some (.entries before around')) :
    run? (.firstKey around) tokens = some (.entries before around') := by
  refine run?_of_step ?_ (by simp) run
  intro token next first
  cases token with
  | string key => exact first
  | _ => cases first

/-! ## Texts that are read in one way -/

/-- Wherever a value may stand, the text is read as this one. -/
def Spells (text : List Char) (v : Value) : Prop :=
  ∃ tokens, Lexes text tokens ∧ ∀ around, run? (.value around) tokens = some (deliver v around)

lemma spells_of_lexes {text : List Char} {token : Token} {v : Value} (lexes : Lexes text [token])
    (begins : ∀ around, begin? around token = some (deliver v around)) : Spells text v := by
  refine ⟨[token], lexes, fun around => ?_⟩
  rw [run?_cons, step, begins around]
  rfl

/-- A list of things with commas between them is read, from the first to the last, if each of them
is read after those before it.  `Allowed` is what the things read so far must satisfy. -/
lemma listed {α : Type} {write : α → List Char} (Allowed : List α → Prop)
    (before after : List Frame → List α → State)
    (comma : ∀ around done, step (after around done) .comma = some (before around done))
    (prefixed : ∀ {done more : List α}, Allowed (done ++ more) → Allowed done)
    {elements : List α} (nonempty : elements ≠ [])
    (each : ∀ x ∈ elements, ∃ tokens, Lexes (write x) tokens ∧ ∀ around done,
      Allowed (done ++ [x]) →
        run? (before around done) tokens = some (after around (done ++ [x]))) :
    ∃ tokens, Lexes ([','].intercalate (elements.map write)) tokens ∧ ∀ around done,
      Allowed (done ++ elements) →
        run? (before around done) tokens = some (after around (done ++ elements)) := by
  -- The induction is for every `done`, which grows by the element that has been read.
  induction elements with
  | nil => exact absurd rfl nonempty
  | cons x rest ih =>
    rw [List.forall_mem_cons] at each
    obtain ⟨⟨tokens, lexes, reads⟩, each⟩ := each
    cases rest with
    | nil => exact ⟨tokens, by simpa using lexes, reads⟩
    | cons y rest =>
      obtain ⟨others, lexes', reads'⟩ := ih (List.cons_ne_nil _ _) each
      refine ⟨tokens ++ .comma :: others, ?_, ?_⟩
      · rw [List.map_cons, List.map_cons, List.intercalate_cons_cons, List.append_assoc]
        exact lexes.append_punctuation rfl lexes'
      · intro around done allowed
        rw [List.append_cons done x] at allowed ⊢
        rw [run?_append, reads around done (prefixed allowed), Option.bind_some, run?_cons,
          comma, Option.bind_some, reads' around _ allowed]

/-! ## The texts of values -/

lemma spells_array {write : Value → List Char} {items : List Value}
    (each : ∀ item ∈ items, Spells (write item) item) :
    Spells (bracketed '[' ']' (items.map write)) (.array items) := by
  by_cases nonempty : items = []
  · subst nonempty
    exact ⟨[.openArray, .closeArray], .punctuation rfl (.punctuation rfl .nil), fun _ => rfl⟩
  · have item_read (item : Value) (mem : item ∈ items) : ∃ tokens, Lexes (write item) tokens ∧
        ∀ around done, True → run? (.value (.items done :: around)) tokens =
          some (.items (done ++ [item]) around) := by
      obtain ⟨tokens, lexes, reads⟩ := each item mem
      exact ⟨tokens, lexes, fun around done _ => reads (.items done :: around)⟩
    obtain ⟨tokens, lexes, reads⟩ := listed (fun _ => True)
      (fun around done => .value (.items done :: around)) (fun around done => .items done around)
      (fun _ _ => rfl) (fun _ => trivial) nonempty item_read
    refine ⟨.openArray :: (tokens ++ [.closeArray]),
      .punctuation rfl (lexes.append_punctuation rfl .nil), fun around => ?_⟩
    have inside := run?_firstItem (reads around [] trivial)
    rw [run?_cons, step, begin?, Option.bind_some, run?_append, inside]
    rfl

/-- An entry, of a key that was not there before, is read behind the entries before it. -/
lemma entry_read {text : List Char} {key : String} {v : Value} (spells : Spells text v) :
    ∃ tokens, Lexes (quote key.toList ++ ':' :: text) tokens ∧
      ∀ around done, (Assoc.keys (done ++ [(key, v)])).Nodup →
        run? (.key done around) tokens = some (.entries (done ++ [(key, v)]) around) := by
  obtain ⟨tokens, lexes, reads⟩ := spells
  refine ⟨[.string key] ++ .colon :: tokens, (lexes_quote key).append_punctuation rfl lexes, ?_⟩
  intro around done distinct
  -- Inserting keeps the place of a key that is there, and only a new one goes to the end.
  have absent : key ∉ Assoc.keys done := by
    rw [Assoc.keys, List.map_append, List.nodup_append'] at distinct
    exact fun there => distinct.2.2 there (List.mem_singleton_self key)
  calc run? (.key done around) ([.string key] ++ .colon :: tokens)
      = run? (.value (.entry done key :: around)) tokens := rfl
    _ = some (.entries (done.insert key v) around) := reads _
    _ = some (.entries (done ++ [(key, v)]) around) := by rw [Assoc.insert_of_notMem absent]

lemma spells_object {write : Value → List Char} {entries : List (String × Value)}
    (distinct : (Assoc.keys entries).Nodup)
    (each : ∀ entry ∈ entries, Spells (write entry.2) entry.2) :
    Spells
      (bracketed '\x7b' '\x7d'
        (entries.map fun entry => quote entry.1.toList ++ ':' :: write entry.2))
      (.object entries) := by
  by_cases nonempty : entries = []
  · subst nonempty
    exact ⟨[.openObject, .closeObject], .punctuation rfl (.punctuation rfl .nil), fun _ => rfl⟩
  · have prefixed {done more : Mapping} (both : (Assoc.keys (done ++ more)).Nodup) :
        (Assoc.keys done).Nodup := by
      rw [Assoc.keys, List.map_append] at both
      exact both.of_append_left
    obtain ⟨tokens, lexes, reads⟩ := listed (fun done => (Assoc.keys done).Nodup)
      (fun around done => .key done around) (fun around done => .entries done around)
      (fun _ _ => rfl) prefixed nonempty fun entry mem => entry_read (each entry mem)
    refine ⟨.openObject :: (tokens ++ [.closeObject]),
      .punctuation rfl (lexes.append_punctuation rfl .nil), fun around => ?_⟩
    have inside := run?_firstKey (reads around [] distinct)
    rw [run?_cons, step, begin?, Option.bind_some, run?_append, inside]
    rfl

/-- The text of a plain value without reference nodes is read as the value. -/
theorem spells_renderWith (shown : InstanceRef → List Char) {v : Value} (plain : v.Plain)
    (free : v.ReferenceFree) : Spells (v.renderWith shown) v := by
  induction plain with
  | null =>
    rw [renderWith.eq_def]
    exact spells_of_lexes (lexes_scalar rfl rfl) fun _ => rfl
  | bool b =>
    rw [renderWith.eq_def]
    cases b <;> exact spells_of_lexes (lexes_scalar rfl rfl) fun _ => rfl
  | int i =>
    rw [renderWith.eq_def]
    exact spells_of_lexes (lexes_intDigits i) fun _ => rfl
  | string s =>
    rw [renderWith.eq_def]
    exact spells_of_lexes (lexes_quote s) fun _ => rfl
  | @array items each ih =>
    have texts : renderWith shown (.array items) =
        bracketed '[' ']' (items.map (renderWith shown)) := by
      rw [renderWith.eq_def, ← renderItems_eq_map]
    rw [texts]
    exact spells_array fun item mem => ih item mem (free.of_mem_children mem)
  | @object entries distinct each ih =>
    have no_node (path : String) : entries ≠ [(path, .null)] := by
      rintro rfl
      exact free [] path rfl
    rw [renderWith_object no_node, renderEntries_eq_map]
    exact spells_object distinct fun entry mem =>
      ih entry mem (free.of_mem_children (List.mem_map_of_mem mem))

/-- A plain value without reference nodes is read back from its text. -/
theorem read?_render {v : Value} (plain : v.Plain) (free : v.ReferenceFree) (views : Views) :
    read? (v.render views) = some v := by
  obtain ⟨shown, eq⟩ := exists_renderWith views
  obtain ⟨tokens, lexes, reads⟩ := spells_renderWith shown plain free
  have cut : tokens? 0 (v.renderWith shown) = some tokens := by
    have ends : EndsScalar [] := fun c front => by cases front
    simpa [tokens?] using lexes [] ends
  rw [read?, eq, String.toList_ofList, cut]
  show (run? (.value []) tokens).bind _ = _
  rw [reads []]
  rfl

end Json

/-! ## Decodable rendering -/

/-- The two texts of a test that fails by a mismatch are those of its outcome and of what was
expected, and the outcome did not pass. -/
lemma Host.mismatch_of_verdict {σ : Type} {h : Host σ} {w : World σ} {t : Test} {expected : Value}
    {o : Outcome} {text actual wanted : String}
    (failed : h.verdict w t expected o = .fail text (.mismatch actual wanted)) :
    o.passes (h.equal w) expected = false ∧ actual = h.render w o.value ∧
      wanted = h.render w expected := by
  unfold verdict at failed
  split at failed
  case isTrue => cases failed
  case isFalse failing =>
    refine ⟨Bool.not_eq_true _ ▸ failing, ?_⟩
    unfold Outcome.failure at failed
    split at failed
    case h_1 => cases failed
    case h_2 =>
      cases failed
      exact ⟨rfl, rfl⟩

/-- **Rendering is decodable.**  The text of a plain value without reference nodes is JSON, and read
back, as a whole, it is the same value.  So two of these values with one text are identical, and if
a test fails because its outcome is not what was expected, both being such values, it shows two
different texts. -/
theorem rendering_is_decodable :
    (∀ (views : Views) (v : Value), v.Plain → v.ReferenceFree →
      Json.read? (v.render views) = some v) ∧
    (∀ (views views' : Views) (v u : Value), v.Plain → v.ReferenceFree → u.Plain →
      u.ReferenceFree → v.render views = u.render views' → v = u) ∧
    ∀ (σ : Type) (h : Host σ) (w : World σ) (t : Test) (expected : Value) (o : Outcome),
      expected.Plain → expected.ReferenceFree → o.value.Plain → o.value.ReferenceFree →
      ∀ text actual wanted, h.verdict w t expected o = .fail text (.mismatch actual wanted) →
        actual ≠ wanted := by
  have one_text (views views' : Views) (v u : Value) (plain : v.Plain) (free : v.ReferenceFree)
      (plain' : u.Plain) (free' : u.ReferenceFree) (same : v.render views = u.render views') :
      v = u := by
    have read := Json.read?_render plain free views
    rw [same, Json.read?_render plain' free' views'] at read
    exact (Option.some.inj read).symm
  refine ⟨fun views v plain free => Json.read?_render plain free views, one_text, ?_⟩
  intro σ h w t expected o plain free plain' free' text actual wanted failed same_text
  obtain ⟨failing, rfl, rfl⟩ := Host.mismatch_of_verdict failed
  have same : o.value = expected := one_text _ _ _ _ plain' free' plain free same_text
  have self : h.equal w expected expected = true := (plain.equal_iff plain (h.views w)).mpr rfl
  rw [Outcome.passes_of_eq same self] at failing
  exact Bool.false_ne_true failing.symm

/-! ### Characters that need an escape -/

/-- Sequences and mappings inside one another, with quotes and control characters in a key and in a
string. -/
def labelled (label : String) : Value :=
  .object [("a\"b", .array [.int (-5), .null, .string label]), ("", .object [])]

lemma plain_labelled (label : String) : (labelled label).Plain := by
  have items : (Value.array [.int (-5), .null, .string label]).Plain :=
    .array (by simp [Value.Plain.int, Value.Plain.null, Value.Plain.string])
  have empty : (Value.object []).Plain := .object List.nodup_nil (by simp)
  have distinct : ["a\"b", ""].Nodup := by decide
  exact .object distinct (by simp [items, empty])

lemma referenceFree_labelled (label : String) : (labelled label).ReferenceFree := by
  have leaf {v : Value} := v.referenceFree_of_no_children
  refine Value.referenceFree_of_children rfl ?_
  simp only [labelled, Value.children, List.map_cons, List.map_nil, List.forall_mem_cons]
  refine ⟨Value.referenceFree_of_children rfl ?_, leaf rfl rfl, by simp⟩
  simp only [Value.children, List.forall_mem_cons]
  exact ⟨leaf rfl rfl, leaf rfl rfl, leaf rfl rfl, by simp⟩

/-- A backslash is written twice, a control character by its number. -/
example : (labelled "\\\x01").render .none =
    "\x7b\"a\\\"b\":[-5,null,\"\\\\\\u0001\"],\"\":\x7b\x7d\x7d" := by
  decide

/-- A test that expects the value with a label of a backslash and a control character. -/
def labelTest : Test where
  tags := none
  skip := false
  assign := none
  property := some "label"
  call := false
  args := []
  kwargs := []
  result := labelled "\\\x01"
  text := "label"

theorem labelled_read_back :
    Json.read? ((labelled "\\\x01").render .none) = some (labelled "\\\x01") ∧
    (labelled "").render .none ≠ (labelled "\"").render .none ∧
    emptyHost.verdict ⟨[], ()⟩ labelTest labelTest.result ⟨labelled "\\", none⟩ =
      .fail "label" (.mismatch (emptyHost.render ⟨[], ()⟩ (labelled "\\"))
        (emptyHost.render ⟨[], ()⟩ labelTest.result)) ∧
    emptyHost.render ⟨[], ()⟩ (labelled "\\") ≠ emptyHost.render ⟨[], ()⟩ labelTest.result := by
  have failed : emptyHost.verdict ⟨[], ()⟩ labelTest labelTest.result ⟨labelled "\\", none⟩ =
      .fail "label" (.mismatch (emptyHost.render ⟨[], ()⟩ (labelled "\\"))
        (emptyHost.render ⟨[], ()⟩ labelTest.result)) := by decide
  refine ⟨?_, ?_, failed, ?_⟩
  · exact rendering_is_decodable.1 .none _ (plain_labelled _) (referenceFree_labelled _)
  · intro same_text
    have same : labelled "" = labelled "\"" := rendering_is_decodable.2.1 .none .none _ _
      (plain_labelled _) (referenceFree_labelled _) (plain_labelled _) (referenceFree_labelled _)
      same_text
    simp [labelled] at same
  · exact rendering_is_decodable.2.2 Unit emptyHost ⟨[], ()⟩ labelTest _ ⟨labelled "\\", none⟩
      (plain_labelled _) (referenceFree_labelled _) (plain_labelled _) (referenceFree_labelled _)
      _ _ _ failed

end Conformance
