import Conformance.Proofs.Run.Visibility

/-!
# Dereferencing is substitution

Look-ups can call functions of the host, and what these answer may change from call to call.  So it
matters which look-ups are made, how often and in which order.  Dereferencing makes one for each
reference node of the value, in document order, and puts the answers in the places of the nodes.
Around the nodes the value stays as it is, and nothing is looked for inside of an answer.

The reference nodes are listed ahead of the walk, so that looking up and replacing come apart: the
look-ups depend on the list alone, and the replacement on the value and the answers.

## Parts

* `Value.nodes` lists the reference nodes.  `Value.mem_nodes_iff` and `Value.pairwise_nodes` say
  that it has each of them once and in document order.
* `Value.fill` puts answers in their places.  `Value.at?_fill_of_node` and `Value.outline_at?_fill`
  say what stands then at a node and elsewhere.
* `Scope.dereference_eq_fill` takes dereferencing apart into look-ups and replacement.
* `dereference_is_ordered_substitution` is the result.
-/

namespace Conformance

variable {σ ρ : Type}

/-! ## The reference nodes of a value -/

namespace Value

/-- A reference node of a value: where it stands and the path that it names. -/
structure ReferenceNode where
  position : List ℕ
  path : String

/-- The node of a child as a node of the value around it. -/
def ReferenceNode.under (n : ℕ) (node : ReferenceNode) : ReferenceNode :=
  ⟨n :: node.position, node.path⟩

mutual

/-- The reference nodes of a value in document order. -/
def nodes : Value → List ReferenceNode
  | .object [(path, .null)] => [⟨[], path⟩]
  | .object entries => nodesOfEntries 0 entries
  | .array items => nodesOfItems 0 items
  | _ => []

/-- The reference nodes of items that are counted from the given number on. -/
def nodesOfItems (n : ℕ) : List Value → List ReferenceNode
  | [] => []
  | item :: rest => item.nodes.map (.under n) ++ nodesOfItems (n + 1) rest

/-- The reference nodes of entries that are counted from the given number on. -/
def nodesOfEntries (n : ℕ) : List (String × Value) → List ReferenceNode
  | [] => []
  | (_, item) :: rest => item.nodes.map (.under n) ++ nodesOfEntries (n + 1) rest

end

variable {v u : Value} {items : List Value} {position : List ℕ} {path : String}

lemma nodesOfEntries_eq (n : ℕ) (entries : List (String × Value)) :
    nodesOfEntries n entries = nodesOfItems n (entries.map Prod.snd) := by
  induction entries generalizing n with
  | nil => rfl
  | cons entry rest ih => rw [nodesOfEntries, List.map_cons, nodesOfItems, ih]

lemma nodes_reference (path : String) : (reference path).nodes = [⟨[], path⟩] := by
  rw [reference, nodes]

/-- The nodes of anything but a reference node are those of its children. -/
lemma nodes_eq_nodesOfItems (shape : v.reference? = none) :
    v.nodes = nodesOfItems 0 v.children := by
  cases v with
  | array items => rw [nodes, children]
  | object entries =>
    have no_node : ∀ path, entries = [(path, .null)] → False := by
      rintro path rfl
      cases shape
    rw [nodes.eq_2 _ no_node, nodesOfEntries_eq, children]
  | _ => rfl

lemma mem_nodesOfItems_iff (n : ℕ) (items : List Value) :
    ⟨position, path⟩ ∈ nodesOfItems n items ↔
      ∃ i item below, items[i]? = some item ∧ position = (n + i) :: below ∧
        ⟨below, path⟩ ∈ item.nodes := by
  induction items generalizing n with
  | nil => simp [nodesOfItems]
  | cons item rest ih =>
    rw [nodesOfItems, List.mem_append, List.mem_map, ih]
    constructor
    · rintro (⟨⟨below, path⟩, mem, same⟩ | ⟨i, other, below, there, rfl, mem⟩)
      · cases same
        exact ⟨0, item, below, rfl, rfl, mem⟩
      · exact ⟨i + 1, other, below, there, by rw [Nat.add_right_comm, Nat.add_assoc], mem⟩
    · rintro ⟨i, other, below, there, rfl, mem⟩
      cases i with
      | zero =>
        cases there
        exact Or.inl ⟨⟨below, path⟩, mem, rfl⟩
      | succ i =>
        exact Or.inr ⟨i, other, below, there, by rw [Nat.add_right_comm, Nat.add_assoc], mem⟩

/-- The nodes are at the positions of the reference nodes and nowhere else. -/
lemma mem_nodes_iff : ⟨position, path⟩ ∈ v.nodes ↔ v.at? position = some (.reference path) := by
  induction position generalizing v with
  | nil =>
    cases shape : v.reference? with
    | some other =>
      rw [eq_reference_of_reference? shape, nodes_reference, List.mem_singleton, at?_nil]
      constructor
      · intro same
        cases same
        rfl
      · intro same
        cases same
        rfl
    | none =>
      rw [nodes_eq_nodesOfItems shape, mem_nodesOfItems_iff, at?_nil]
      constructor
      · rintro ⟨i, item, below, -, same, -⟩
        cases same
      · intro same
        cases same
        cases shape
  | cons n below ih =>
    cases shape : v.reference? with
    | some other =>
      rw [eq_reference_of_reference? shape, nodes_reference, List.mem_singleton]
      constructor
      · intro same
        cases same
      · intro there
        cases eq_null_of_at?_reference there
    | none =>
      rw [nodes_eq_nodesOfItems shape, mem_nodesOfItems_iff, at?_cons, child?_eq_getElem?,
        Option.bind_eq_some_iff]
      constructor
      · rintro ⟨i, item, below, there, same, mem⟩
        cases same
        exact ⟨item, by rwa [Nat.zero_add], ih.mp mem⟩
      · rintro ⟨item, there, found⟩
        exact ⟨n, item, below, there, by rw [Nat.zero_add], ih.mpr found⟩

/-- The nodes of later children come later. -/
lemma pairwise_nodesOfItems (n : ℕ)
    (each : ∀ item ∈ items,
      item.nodes.Pairwise fun node later => node.position < later.position) :
    (nodesOfItems n items).Pairwise fun node later => node.position < later.position := by
  induction items generalizing n with
  | nil => exact .nil
  | cons item rest ih =>
    rw [List.forall_mem_cons] at each
    rw [nodesOfItems, List.pairwise_append]
    refine ⟨?_, ih (n + 1) each.2, ?_⟩
    · rw [List.pairwise_map]
      exact each.1.imp fun before => List.Lex.cons before
    · intro node mem later mem_later
      obtain ⟨inner, -, rfl⟩ := List.mem_map.mp mem
      obtain ⟨i, other, below, -, at_later, -⟩ := (mem_nodesOfItems_iff (n + 1) rest).mp mem_later
      rw [at_later]
      exact List.Lex.rel (by omega)

/-- Document order is the lexicographic order of positions. -/
lemma pairwise_nodes (v : Value) :
    v.nodes.Pairwise fun node later => node.position < later.position := by
  induction v using induction_on_children with
  | step v ih =>
    cases shape : v.reference? with
    | some path =>
      rw [eq_reference_of_reference? shape, nodes_reference]
      exact List.pairwise_singleton ..
    | none =>
      rw [nodes_eq_nodesOfItems shape]
      exact pairwise_nodesOfItems 0 ih

/-! ## Putting answers in their places -/

mutual

/-- The value with its reference nodes replaced by answers, which are taken in document order. -/
def fill : Value → List Value → Value
  | .object [(_, .null)], answers => answers.headD .null
  | .object entries, answers => .object (fillEntries entries answers)
  | .array items, answers => .array (fillItems items answers)
  | v, _ => v

def fillItems : List Value → List Value → List Value
  | [], _ => []
  | item :: rest, answers =>
    item.fill (answers.take item.nodes.length) ::
      fillItems rest (answers.drop item.nodes.length)

def fillEntries : List (String × Value) → List Value → List (String × Value)
  | [], _ => []
  | (key, item) :: rest, answers =>
    (key, item.fill (answers.take item.nodes.length)) ::
      fillEntries rest (answers.drop item.nodes.length)

end

/-- The value with null in place of everything directly inside. -/
def outline : Value → Value
  | .array items => .array (items.map fun _ => .null)
  | .object entries => .object (entries.map fun entry => (entry.1, .null))
  | v => v

lemma map_snd_fillEntries (entries : List (String × Value)) (answers : List Value) :
    (fillEntries entries answers).map Prod.snd = fillItems (entries.map Prod.snd) answers := by
  induction entries generalizing answers with
  | nil => rfl
  | cons entry rest ih => rw [fillEntries, List.map_cons, List.map_cons, fillItems, ih]

lemma map_fst_fillEntries (entries : List (String × Value)) (answers : List Value) :
    (fillEntries entries answers).map Prod.fst = entries.map Prod.fst := by
  induction entries generalizing answers with
  | nil => rfl
  | cons entry rest ih => rw [fillEntries, List.map_cons, List.map_cons, ih]

lemma length_fillItems (items answers : List Value) :
    (fillItems items answers).length = items.length := by
  induction items generalizing answers with
  | nil => rfl
  | cons item rest ih => rw [fillItems, List.length_cons, List.length_cons, ih]

lemma fill_object {entries : List (String × Value)}
    (shape : (Value.object entries).reference? = none) (answers : List Value) :
    (Value.object entries).fill answers = .object (fillEntries entries answers) := by
  refine fill.eq_2 _ _ ?_
  rintro path rfl
  cases shape

/-- Around the nodes nothing changes. -/
lemma outline_fill (shape : v.reference? = none) (answers : List Value) :
    (v.fill answers).outline = v.outline := by
  cases v with
  | array items =>
    rw [fill, outline, outline, List.map_const', List.map_const', length_fillItems]
  | object entries =>
    have keep (entries : List (String × Value)) :
        (entries.map fun entry => (entry.1, Value.null)) =
          (entries.map Prod.fst).map fun key => (key, .null) := by
      rw [List.map_map]
      rfl
    rw [fill_object shape, outline, outline, keep, keep, map_fst_fillEntries]
  | _ => rfl

/-- The children are filled one after the other. -/
lemma children_fill (shape : v.reference? = none) (answers : List Value) :
    (v.fill answers).children = fillItems v.children answers := by
  cases v with
  | array items => rw [fill, children, children]
  | object entries => rw [fill_object shape, children, children, map_snd_fillEntries]
  | _ => rfl

/-- Every child is filled with its part of the answers, in which its nodes have the same answers as
in the whole. -/
lemma exists_part {n i : ℕ} {answers : List Value} {item : Value}
    (fits : answers.length = (nodesOfItems n items).length) (there : items[i]? = some item) :
    ∃ part, part.length = item.nodes.length ∧
      (fillItems items answers)[i]? = some (item.fill part) ∧
      ∀ below path u, (⟨(n + i) :: below, path⟩, u) ∈ (nodesOfItems n items).zip answers →
        (⟨below, path⟩, u) ∈ item.nodes.zip part := by
  induction items generalizing n i answers with
  | nil => cases there
  | cons first rest ih =>
    rw [nodesOfItems, List.length_append, List.length_map] at fits
    have first_fits : (answers.take first.nodes.length).length = first.nodes.length := by
      rw [List.length_take]
      omega
    have rest_fits :
        (answers.drop first.nodes.length).length = (nodesOfItems (n + 1) rest).length := by
      rw [List.length_drop]
      omega
    have zipped : (nodesOfItems n (first :: rest)).zip answers =
        (first.nodes.map (ReferenceNode.under n)).zip (answers.take first.nodes.length) ++
          (nodesOfItems (n + 1) rest).zip (answers.drop first.nodes.length) := by
      rw [nodesOfItems, ← List.zip_append (by rw [List.length_map, first_fits]),
        List.take_append_drop]
    rw [zipped]
    cases i with
    | zero =>
      cases there
      refine ⟨answers.take item.nodes.length, first_fits, rfl, ?_⟩
      intro below path u mem
      rcases List.mem_append.mp mem with mem | mem
      · rw [List.zip_map_left, List.mem_map] at mem
        obtain ⟨⟨⟨position, other⟩, answer⟩, mem_inner, same⟩ := mem
        cases same
        exact mem_inner
      · obtain ⟨j, item, below', -, same, -⟩ :=
          (mem_nodesOfItems_iff (n + 1) rest).mp (List.of_mem_zip mem).1
        rw [List.cons.injEq] at same
        omega
    | succ i =>
      obtain ⟨part, length, filled, paired⟩ := ih rest_fits there
      refine ⟨part, length, filled, ?_⟩
      intro below path u mem
      rcases List.mem_append.mp mem with mem | mem
      · obtain ⟨inner, -, same⟩ := List.mem_map.mp (List.of_mem_zip mem).1
        cases same
      · refine paired below path u ?_
        rwa [Nat.add_right_comm, Nat.add_assoc]

/-- Every node is replaced by its answer. -/
lemma at?_fill_of_node {node : ReferenceNode} {answers : List Value}
    (fits : answers.length = v.nodes.length) (paired : (node, u) ∈ v.nodes.zip answers) :
    (v.fill answers).at? node.position = some u := by
  obtain ⟨position, path⟩ := node
  have there := mem_nodes_iff.mp (List.of_mem_zip paired).1
  induction position generalizing v answers with
  | nil =>
    cases there
    obtain ⟨answer, rfl⟩ := List.length_eq_one_iff.mp fits
    rw [nodes_reference] at paired
    cases List.mem_singleton.mp paired
    rw [reference, fill]
    rfl
  | cons n below ih =>
    cases shape : v.reference? with
    | some other =>
      rw [eq_reference_of_reference? shape] at there
      cases eq_null_of_at?_reference there
    | none =>
      rw [at?_cons, child?_eq_getElem?] at there
      obtain ⟨child, inside, below_there⟩ := Option.bind_eq_some_iff.mp there
      rw [nodes_eq_nodesOfItems shape] at fits paired
      obtain ⟨part, part_fits, filled, paired_below⟩ := exists_part fits inside
      rw [at?_cons, child?_eq_getElem?, children_fill shape, filled, Option.bind_some]
      refine ih part_fits (paired_below below path u ?_) below_there
      rwa [Nat.zero_add]

/-- A value with a position outside of its nodes is not a node itself. -/
lemma reference?_eq_none_of_outside
    (outside : ∀ node ∈ v.nodes, ¬ node.position <+: position) : v.reference? = none := by
  cases shape : v.reference? with
  | some path =>
    rw [eq_reference_of_reference? shape, nodes_reference] at outside
    exact absurd List.nil_prefix (outside ⟨[], path⟩ (List.mem_singleton_self _))
  | none => rfl

/-- Everything else stays as it is. -/
lemma outline_at?_fill {x : Value} {answers : List Value}
    (fits : answers.length = v.nodes.length) (there : v.at? position = some x)
    (outside : ∀ node ∈ v.nodes, ¬ node.position <+: position) :
    ∃ x', (v.fill answers).at? position = some x' ∧ x'.outline = x.outline := by
  have shape := reference?_eq_none_of_outside outside
  induction position generalizing v answers with
  | nil =>
    cases there
    exact ⟨_, rfl, outline_fill shape answers⟩
  | cons n below ih =>
    rw [at?_cons, child?_eq_getElem?] at there
    obtain ⟨child, inside, there⟩ := Option.bind_eq_some_iff.mp there
    rw [nodes_eq_nodesOfItems shape] at fits outside
    obtain ⟨part, part_fits, filled, -⟩ := exists_part fits inside
    rw [at?_cons, child?_eq_getElem?, children_fill shape, filled, Option.bind_some]
    have child_outside : ∀ node ∈ child.nodes, ¬ node.position <+: below := by
      rintro ⟨inner, path⟩ mem starts
      refine outside ⟨n :: inner, path⟩ ?_ ((List.prefix_cons_inj n).mpr starts)
      exact (mem_nodesOfItems_iff 0 v.children).mpr
        ⟨n, child, inner, inside, by rw [Nat.zero_add], mem⟩
    exact ih part_fits there child_outside (reference?_eq_none_of_outside child_outside)

end Value

/-! ## Looking up and replacing -/

namespace Scope

variable (s : Scope) (h : Host σ)

/-- Look up reference nodes one after the other. -/
def lookupNodes (nodes : List Value.ReferenceNode) : HostM σ (List Value) :=
  nodes.mapM fun node => s.lookup h node.path

variable {s h}

lemma length_of_mapM_eq_ok {α β : Type} {f : α → HostM σ β} {as : List α} {bs : List β}
    {w w' : World σ} (ok : as.mapM f w = .ok bs w') : bs.length = as.length := by
  induction as generalizing bs w with
  | nil =>
    cases ok
    rfl
  | cons a as ih =>
    rw [List.mapM_cons] at ok
    obtain ⟨b, w₁, -, ok⟩ := bind_eq_ok_iff.mp ok
    obtain ⟨bs, w₂, others, ok⟩ := bind_eq_ok_iff.mp ok
    cases ok
    rw [List.length_cons, List.length_cons, ih others]

lemma lookupNodes_append (nodes more : List Value.ReferenceNode) :
    s.lookupNodes h (nodes ++ more) = (do
      let answers ← s.lookupNodes h nodes
      let later ← s.lookupNodes h more
      return answers ++ later) :=
  List.mapM_append

lemma lookupNodes_under (n : ℕ) (nodes : List Value.ReferenceNode) :
    s.lookupNodes h (nodes.map (.under n)) = s.lookupNodes h nodes := by
  induction nodes with
  | nil => rfl
  | cons node rest ih =>
    rw [lookupNodes, lookupNodes, List.map_cons, List.mapM_cons, List.mapM_cons]
    rw [lookupNodes, lookupNodes] at ih
    rw [ih]
    rfl

/-- Filling an item and then what follows it is filling both from one row of answers. -/
lemma fill_then {β γ : Type} (item : Value) (n : ℕ) (more : List Value.ReferenceNode)
    (fillRest : List Value → β) (join : Value → β → γ) :
    (do
      let first ← item.fill <$> s.lookupNodes h item.nodes
      let rest ← fillRest <$> s.lookupNodes h more
      return join first rest) =
    (fun answers => join (item.fill (answers.take item.nodes.length))
        (fillRest (answers.drop item.nodes.length))) <$>
      s.lookupNodes h (item.nodes.map (.under n) ++ more) := by
  rw [lookupNodes_append, lookupNodes_under]
  simp only [map_eq_pure_bind, bind_assoc, pure_bind]
  funext w
  cases first : s.lookupNodes h item.nodes w with
  | error e w₁ => rw [bind_of_error first, bind_of_error first]
  | ok answers w₁ =>
    have length := length_of_mapM_eq_ok first
    rw [bind_of_ok first, bind_of_ok first]
    cases second : s.lookupNodes h more w₁ with
    | error e w₂ => rw [bind_of_error second, bind_of_error second]
    | ok later w₂ =>
      rw [bind_of_ok second, bind_of_ok second, ← length, List.take_left, List.drop_left]

/-- Dereferencing is looking up the reference nodes and replacing them by the answers. -/
theorem dereference_eq_fill (s : Scope) (h : Host σ) (v : Value) :
    s.dereference h v = v.fill <$> s.lookupNodes h v.nodes := by
  refine dereference.induct
    (fun v => s.dereference h v = v.fill <$> s.lookupNodes h v.nodes)
    (fun items => ∀ n, s.dereferenceItems h items =
      Value.fillItems items <$> s.lookupNodes h (Value.nodesOfItems n items))
    (fun entries => ∀ n, s.dereferenceEntries h entries =
      Value.fillEntries entries <$> s.lookupNodes h (Value.nodesOfEntries n entries))
    ?reference ?object ?array ?other ?noItems ?item ?noEntries ?entry v
  case reference =>
    intro path
    have one : s.lookupNodes h [⟨[], path⟩] = (fun answer => [answer]) <$> s.lookup h path := by
      rw [lookupNodes, List.mapM_cons, map_eq_pure_bind]
      rfl
    have filled (answers : List Value) :
        (Value.object [(path, .null)]).fill answers = answers.headD .null := by
      rw [Value.fill]
    have is_node : (Value.object [(path, .null)]).nodes = [⟨[], path⟩] := by
      rw [Value.nodes]
    rw [dereference, is_node, one, ← comp_map]
    simp only [Function.comp_def, filled, List.headD_cons, id_map']
  case object =>
    intro entries no_node ih
    have filled (answers : List Value) :
        (Value.object entries).fill answers = .object (Value.fillEntries entries answers) :=
      Value.fill.eq_2 _ _ no_node
    rw [dereference.eq_2 _ _ _ no_node, ih 0, Value.nodes.eq_2 _ no_node]
    simp only [map_eq_pure_bind, bind_assoc, pure_bind, filled]
  case array =>
    intro items ih
    have filled (answers : List Value) :
        (Value.array items).fill answers = .array (Value.fillItems items answers) := by
      rw [Value.fill]
    rw [dereference, ih 0, Value.nodes]
    simp only [map_eq_pure_bind, bind_assoc, pure_bind, filled]
  case other =>
    intro v no_node not_object not_array
    have filled : v.fill [] = v := Value.fill.eq_4 _ _ no_node not_object not_array
    rw [dereference.eq_4 _ _ _ no_node not_object not_array,
      Value.nodes.eq_4 _ no_node not_object not_array, lookupNodes, List.mapM_nil, map_pure, filled]
  case noItems =>
    intro n
    rfl
  case item =>
    intro item rest first others n
    rw [dereferenceItems, first, others (n + 1), fill_then item n, Value.nodesOfItems]
    rfl
  case noEntries =>
    intro n
    rfl
  case entry =>
    intro key item rest first others n
    rw [dereferenceEntries, first, others (n + 1), fill_then item n, Value.nodesOfEntries]
    rfl

/-- Looking up fails at the first node whose look-up fails, in the world that the look-ups before it
have left. -/
lemma lookupNodes_eq_error_iff {nodes : List Value.ReferenceNode} {w w' : World σ} {e : Error} :
    s.lookupNodes h nodes w = .error e w' ↔
      ∃ before node after answers w₁, nodes = before ++ node :: after ∧
        s.lookupNodes h before w = .ok answers w₁ ∧ s.lookup h node.path w₁ = .error e w' := by
  constructor
  · intro fails
    induction nodes generalizing w with
    | nil => cases fails
    | cons node rest ih =>
      rw [lookupNodes, List.mapM_cons] at fails
      rcases bind_eq_error_iff.mp fails with fails | ⟨answer, w₁, first, fails⟩
      · exact ⟨[], node, rest, [], w, rfl, rfl, fails⟩
      rcases bind_eq_error_iff.mp fails with fails | ⟨answers, w₂, -, answered⟩
      · obtain ⟨before, later, after, answers, w₂, rfl, earlier, fails⟩ := ih fails
        refine ⟨node :: before, later, after, answer :: answers, w₂, rfl, ?_, fails⟩
        rw [lookupNodes, List.mapM_cons, bind_of_ok first]
        exact bind_of_ok earlier
      · cases answered
  · rintro ⟨before, node, after, answers, w₁, rfl, earlier, fails⟩
    rw [lookupNodes_append, bind_of_ok earlier]
    refine bind_of_error ?_
    rw [lookupNodes, List.mapM_cons]
    exact bind_of_error fails

lemma dereference_eq_ok_iff {v v' : Value} {w w' : World σ} :
    s.dereference h v w = .ok v' w' ↔
      ∃ answers, s.lookupNodes h v.nodes w = .ok answers w' ∧ v' = v.fill answers := by
  rw [dereference_eq_fill, map_eq_pure_bind, bind_eq_ok_iff]
  constructor
  · rintro ⟨answers, w₁, answered, filled⟩
    cases filled
    exact ⟨answers, answered, rfl⟩
  · rintro ⟨answers, answered, rfl⟩
    exact ⟨answers, w', answered, rfl⟩

lemma dereference_eq_error_iff {v : Value} {w w' : World σ} {e : Error} :
    s.dereference h v w = .error e w' ↔ s.lookupNodes h v.nodes w = .error e w' := by
  rw [dereference_eq_fill, map_eq_pure_bind, bind_eq_error_iff]
  constructor
  · rintro (fails | ⟨answers, w₁, -, filled⟩)
    · exact fails
    · cases filled
  · exact Or.inl

end Scope

/-- An action on the world leaves the scope of a run as it is. -/
lemma RunM.scope_leaves_ofHost {α : Type} (action : HostM σ α) (session : Session σ ρ) :
    ((RunM.ofHost action).leaves session).scope = session.scope := by
  rw [leaves, ofHost_apply]
  cases action session.world <;> rfl

/-- **Dereferencing is ordered substitution.**

* The list of the reference nodes of a value has exactly the positions at which there is one, in
  document order, which is the lexicographic order of positions.
* If all of them can be looked up, one after the other and each once, the value is dereferenced, and
  the world is the one that the last look-up leaves.  Otherwise dereferencing ends in the error of
  the first look-up that fails, in the world that this one leaves.
* In the result the answer of each node stands in its place.  At every other position that is not
  inside of a node there is still a sequence of the same length, a mapping with the same keys in the
  same order, or the same scalar or host object.
* A value without reference nodes comes back as it is, and no world changes.  The scope of a run
  never does. -/
theorem dereference_is_ordered_substitution (s : Scope) (h : Host σ) (v : Value) :
    (∀ position path, ⟨position, path⟩ ∈ v.nodes ↔ v.at? position = some (.reference path)) ∧
    v.nodes.Pairwise (fun node later => node.position < later.position) ∧
    (∀ v' w w', s.dereference h v w = .ok v' w' ↔
      ∃ answers, s.lookupNodes h v.nodes w = .ok answers w' ∧ answers.length = v.nodes.length ∧
        v' = v.fill answers) ∧
    (∀ e w w', s.dereference h v w = .error e w' ↔
      ∃ before node after answers w₁, v.nodes = before ++ node :: after ∧
        s.lookupNodes h before w = .ok answers w₁ ∧ s.lookup h node.path w₁ = .error e w') ∧
    (∀ answers, answers.length = v.nodes.length →
      (∀ node u, (node, u) ∈ v.nodes.zip answers → (v.fill answers).at? node.position = some u) ∧
      ∀ position x, v.at? position = some x → (∀ node ∈ v.nodes, ¬ node.position <+: position) →
        ∃ x', (v.fill answers).at? position = some x' ∧ x'.outline = x.outline) ∧
    (v.ReferenceFree → ∀ w, s.dereference h v w = .ok v w) ∧
    ∀ session : Session σ ρ,
      ((RunM.ofHost (session.scope.dereference h v)).leaves session).scope = session.scope := by
  refine ⟨fun position path => Value.mem_nodes_iff, v.pairwise_nodes, ?_, ?_, ?_,
    Scope.dereference_of_referenceFree s h v, fun session => RunM.scope_leaves_ofHost _ session⟩
  · intro v' w w'
    rw [Scope.dereference_eq_ok_iff]
    constructor
    · rintro ⟨answers, answered, filled⟩
      exact ⟨answers, answered, Scope.length_of_mapM_eq_ok answered, filled⟩
    · rintro ⟨answers, answered, -, filled⟩
      exact ⟨answers, answered, filled⟩
  · intro e w w'
    rw [Scope.dereference_eq_error_iff, Scope.lookupNodes_eq_error_iff]
  · intro answers fits
    exact ⟨fun node u => Value.at?_fill_of_node fits,
      fun position x => Value.outline_at?_fill fits⟩

/-! ### A function that counts its calls -/

/-- A host whose functions answer how often they have been called. -/
def tallyHost : Host ℕ where
  packages := []
  extensions := []
  call _ _ := fun w =>
    .ok (.object [("count", .int (Int64.ofNat (w.state + 1)))]) { w with state := w.state + 1 }
  construct _ _ := pure .null
  member _ _ := pure none
  setMember _ _ _ := pure ()
  views _ := .none
  thunkDepth _ := 1

def scopeOfTally : Scope :=
  ⟨[("tally", .function ⟨"tally", .host 0⟩)]⟩

/-- References to the count at two depths. -/
def countedThrice : Value :=
  .array [.reference "tally.count",
    .object [("second", .reference "tally.count"), ("kept", .bool true)], .reference "tally.count"]

/-- The count goes up from left to right, and the shape stays.  What has been replaced is not looked
up again. -/
theorem references_counted_in_order :
    scopeOfTally.dereference tallyHost countedThrice ⟨[], 0⟩ =
      .ok (.array [.int 1, .object [("second", .int 2), ("kept", .bool true)], .int 3])
        ⟨[], 3⟩ ∧
    (countedThrice.fill [.int 1, .int 2, .int 3]).at? [1, 0] = some (.int 2) ∧
    scopeOfTally.dereference tallyHost
        (.array [.int 1, .object [("second", .int 2), ("kept", .bool true)], .int 3]) ⟨[], 3⟩ =
      .ok (.array [.int 1, .object [("second", .int 2), ("kept", .bool true)], .int 3])
        ⟨[], 3⟩ := by
  have leaf {v : Value} := v.referenceFree_of_no_children
  have inner : (Value.object [("second", .int 2), ("kept", .bool true)]).ReferenceFree := by
    refine Value.referenceFree_of_children rfl ?_
    simp only [Value.children, List.map_cons, List.map_nil, List.forall_mem_cons]
    exact ⟨leaf rfl rfl, leaf rfl rfl, by simp⟩
  have replaced : (Value.array
      [.int 1, .object [("second", .int 2), ("kept", .bool true)], .int 3]).ReferenceFree := by
    refine Value.referenceFree_of_children rfl ?_
    simp only [Value.children, List.forall_mem_cons]
    exact ⟨leaf rfl rfl, inner, leaf rfl rfl, by simp⟩
  obtain ⟨-, -, answers, -, stands, -, -⟩ :=
    dereference_is_ordered_substitution (ρ := Unit) scopeOfTally tallyHost countedThrice
  obtain ⟨-, -, -, -, -, unchanged, -⟩ :=
    dereference_is_ordered_substitution (ρ := Unit) scopeOfTally tallyHost
      (.array [.int 1, .object [("second", .int 2), ("kept", .bool true)], .int 3])
  have second : (⟨[1, 0], "tally.count"⟩, Value.int 2) ∈
      countedThrice.nodes.zip [.int 1, .int 2, .int 3] := .tail _ (.head _)
  exact ⟨(answers _ _ _).mpr ⟨[.int 1, .int 2, .int 3], rfl, rfl, rfl⟩,
    (stands [.int 1, .int 2, .int 3] rfl).1 ⟨[1, 0], "tally.count"⟩ (.int 2) second,
    unchanged replaced ⟨[], 3⟩⟩

end Conformance
