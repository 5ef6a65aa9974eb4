import Conformance.Proofs.Fixture.Chains

/-!
# Look-ups in parts

A path can be cut at any of its dots.  What the part in front names is looked up first, and the
segments behind are read on it one by one; the answer, the error and what happens to the host
objects are those of the whole path.  The part in front may be any text, with empty segments too,
and a path without dots names an entry of the scope.  The three together say what every path names.

## Parts

* `Path.ofString_intercalate` splits a text that has been joined from a path and further segments.
* `Host.properties_append` and `Host.properties_eq_foldlM` cut a walk in parts.
* `Scope.LooksUp` is the walk of a path by the rules for owners.
* `lookup_composes` is the result.
-/

namespace Conformance

open Text

/-! ## Joined paths -/

namespace Text

lemma cut_append (separator : Char) (text more : List Char) :
    cut separator (text ++ separator :: more) =
      ((cut separator text).1, (cut separator text).2 ++ pieces separator more) := by
  induction text with
  | nil => simp [cut, pieces]
  | cons c rest ih =>
    rw [List.cons_append, cut, ih, cut]
    by_cases same : c = separator <;> simp [same]

/-- Stretches without separators that are joined to a text come out as they are. -/
lemma cut_intercalate {separator : Char} (text : List Char) {more : List (List Char)}
    (clean : ∀ piece ∈ more, separator ∉ piece) :
    cut separator ([separator].intercalate (text :: more)) =
      ((cut separator text).1, (cut separator text).2 ++ more) := by
  induction more generalizing text with
  | nil => simp [List.intercalate]
  | cons piece more ih =>
    rw [List.forall_mem_cons] at clean
    rw [List.intercalate_cons_cons, List.append_assoc, List.singleton_append, cut_append, pieces,
      ih piece clean.2, cut_of_notMem clean.1, List.nil_append]

end Text

lemma Path.ofString_intercalate (path : String) {segments : List String}
    (dotFree : ∀ segment ∈ segments, '.' ∉ segment.toList) :
    ofString (".".intercalate (path :: segments)) =
      ⟨(ofString path).first, (ofString path).rest ++ segments⟩ := by
  have clean : ∀ piece ∈ segments.map String.toList, '.' ∉ piece := by
    simpa using dotFree
  have joined : (".".intercalate (path :: segments)).toList =
      ['.'].intercalate (path.toList :: segments.map String.toList) := String.toList_intercalate
  simp only [ofString, joined, cut_intercalate path.toList clean, List.map_append, List.map_map,
    Function.comp_def, String.ofList_toList, List.map_id']

/-! ## Walks in parts -/

variable {σ : Type}

namespace Host

variable (h : Host σ)

lemma properties_append (owner : Value) (before after : List String) :
    h.properties owner (before ++ after) =
      h.properties owner before >>= fun v => h.properties v after := by
  induction before generalizing owner with
  | nil => rfl
  | cons segment before ih =>
    have onward : (fun child => h.properties child (before ++ after)) =
        fun child => h.properties child before >>= fun v => h.properties v after :=
      funext ih
    rw [List.cons_append, properties, onward, properties, bind_assoc]

/-- A walk reads its segments from left to right. -/
lemma properties_eq_foldlM (owner : Value) (segments : List String) :
    h.properties owner segments = segments.foldlM h.property owner := by
  induction segments generalizing owner with
  | nil => rfl
  | cons segment rest ih =>
    rw [properties, List.foldlM_cons]
    exact congrArg (h.property owner segment >>= ·) (funext ih)

end Host

namespace Scope

/-- A path is looked up in a world by the rules for owners: the functions that are called on the
way, and how it ends. -/
def LooksUp (s : Scope) (h : Host σ) (path : String) (w : World σ) (fs : List FunctionRef)
    (ending : EStateM.Result Error (World σ) Value) : Prop :=
  h.Reads ((s.get? (Path.ofString path).first).getD .null) (Path.ofString path).rest w fs ending

variable (s : Scope) (h : Host σ)

lemma lookup_intercalate (path : String) {segments : List String}
    (dotFree : ∀ segment ∈ segments, '.' ∉ segment.toList) :
    s.lookup h (".".intercalate (path :: segments)) =
      s.lookup h path >>= fun v => segments.foldlM h.property v := by
  have behind : (fun v => segments.foldlM h.property v) = fun v => h.properties v segments :=
    funext fun v => (h.properties_eq_foldlM v segments).symm
  rw [lookup, lookup, Path.ofString_intercalate path dotFree, behind, h.properties_append]

variable {s h} {path : String} {segments : List String} {w w₁ w' : World σ}
  {fs more : List FunctionRef} {v : Value} {e : Error}
  {ending : EStateM.Result Error (World σ) Value}

lemma LooksUp.append (front : s.LooksUp h path w fs (.ok v w₁))
    (behind : h.Reads v segments w₁ more ending)
    (dotFree : ∀ segment ∈ segments, '.' ∉ segment.toList) :
    s.LooksUp h (".".intercalate (path :: segments)) w (fs ++ more) ending := by
  rw [LooksUp, Path.ofString_intercalate path dotFree]
  exact Host.Reads.append front behind

lemma LooksUp.append_of_error (front : s.LooksUp h path w fs (.error e w'))
    (dotFree : ∀ segment ∈ segments, '.' ∉ segment.toList) :
    s.LooksUp h (".".intercalate (path :: segments)) w fs (.error e w') := by
  rw [LooksUp, Path.ofString_intercalate path dotFree]
  exact Host.Reads.append_of_error front segments

end Scope

/-! ## The result -/

/-- **Look-ups in parts.**  To look up a path with further segments behind it is to look up the path
and then to read the segments on what it names, one after the other and up to the first error; a
path without dots names an entry of the scope, which is answered as it is.  If the host is right
about its bound, a look-up goes by the rules for owners whenever they lead to an end: functions are
called for the owners on the way and not for the value at its end.  Of a path with further segments
the calls are those of the path and then those of the segments, or those of the path if it fails. -/
theorem lookup_composes {σ : Type} (s : Scope) (h : Host σ) (path : String) (segments : List String)
    (dotFree : ∀ segment ∈ segments, '.' ∉ segment.toList) :
    (s.lookup h (".".intercalate (path :: segments)) = do
      segments.foldlM h.property (← s.lookup h path)) ∧
    ('.' ∉ path.toList → ∀ w, s.lookup h path w = .ok ((s.get? path).getD .null) w ∧
      s.LooksUp h path w [] (.ok ((s.get? path).getD .null) w)) ∧
    (h.BoundsThunks → ∀ w,
      (∀ fs ending, s.LooksUp h path w fs ending → s.lookup h path w = ending) ∧
      ((∃ fs, s.LooksUp h path w fs (s.lookup h path w)) ∨
        ∃ name w', s.lookup h path w = .error (.thunksTooDeep name) w')) ∧
    ∀ w fs,
      (∀ v w₁ more ending, s.LooksUp h path w fs (.ok v w₁) → h.Reads v segments w₁ more ending →
        s.LooksUp h (".".intercalate (path :: segments)) w (fs ++ more) ending) ∧
      ∀ e w', s.LooksUp h path w fs (.error e w') →
        s.LooksUp h (".".intercalate (path :: segments)) w fs (.error e w') := by
  refine ⟨s.lookup_intercalate h path dotFree, ?_, ?_, ?_⟩
  · intro single w
    have split := Path.ofString_of_notMem single
    constructor
    · rw [Scope.lookup, split]
      rfl
    · rw [Scope.LooksUp, split]
      exact .done _ w
  · intro bounded w
    exact ⟨fun fs ending looks => Host.properties_of_reads bounded looks,
      Host.reads_or_too_deep h _ _ w⟩
  · intro w fs
    exact ⟨fun v w₁ more ending front behind => front.append behind dotFree,
      fun e w' front => front.append_of_error dotFree⟩

/-! ### A chain of functions -/

open Fixture

/-- A function that counts its calls. -/
def tickRef : FunctionRef :=
  ⟨"tick", .host 0⟩

/-- A function that hands out a mapping with the counting function in it. -/
def innerRef : FunctionRef :=
  ⟨"inner", .host 1⟩

/-- A function that hands out that function. -/
def confRef : FunctionRef :=
  ⟨"conf", .host 2⟩

def confWorld (count : Int64) : World Stage :=
  ⟨[], ⟨#[.counter count, .const (.object [("tick", .function tickRef)]),
    .const (.function innerRef)], #[], #[]⟩⟩

def confHost : Host Stage :=
  ((Setup.load ⟨[], []⟩).run emptyWorld).1

def confScope : Scope :=
  ⟨[("conf", .function confRef)]⟩

lemma conf_invoke (name : String) (id : ℕ) :
    confHost.invoke ⟨name, .host id⟩ [] = perform [] [] id := rfl

/-- The owners of the first segment are unwound, and the counting function that it finds is not
called. -/
lemma conf_reads_tick {rest : List String} {more : List FunctionRef}
    {ending : EStateM.Result Error (World Stage) Value}
    (later : confHost.Reads (.function tickRef) rest (confWorld 0) more ending) :
    confHost.Reads (.function confRef) ("tick" :: rest) (confWorld 0)
      ([confRef, innerRef] ++ more) ending := by
  have conf : confHost.invoke confRef [] (confWorld 0) =
      .ok (.function innerRef) (confWorld 0) := by
    rw [confRef, conf_invoke, perform]
    rfl
  have inner : confHost.invoke innerRef [] (confWorld 0) =
      .ok (.object [("tick", .function tickRef)]) (confWorld 0) := by
    rw [innerRef, conf_invoke, perform]
    rfl
  exact .onward (.calls conf (.calls inner (.owner _ rfl))) rfl later

/-- A function is answered as it is at the end of a path.  It is called when there is one more
segment, and the call counts although what it answers does not have the segment. -/
theorem conf_looked_up_in_parts :
    confHost.BoundsThunks ∧ (∀ segment ∈ ["tick", "x"], '.' ∉ segment.toList) ∧
    confScope.LooksUp confHost "conf.tick.x" (confWorld 0) [confRef, innerRef, tickRef]
      (.error (.undefinedMember "x" "number") (confWorld 1)) ∧
    confScope.lookup confHost "conf.tick.x" (confWorld 0) =
      .error (.undefinedMember "x" "number") (confWorld 1) ∧
    confScope.lookup confHost "conf.tick" (confWorld 0) =
      .ok (.function tickRef) (confWorld 0) := by
  have bounded : confHost.BoundsThunks := boundsThunks_load _ _
  have dotFree : ∀ segment ∈ ["tick", "x"], '.' ∉ segment.toList := by decide
  obtain ⟨-, entry, -, parts⟩ := lookup_composes confScope confHost "conf" ["tick", "x"] dotFree
  obtain ⟨-, front⟩ := entry (by decide) (confWorld 0)
  have counted : confHost.invoke tickRef [] (confWorld 0) = .ok (.int 1) (confWorld 1) := by
    rw [tickRef, conf_invoke, perform]
    rfl
  have whole : confScope.LooksUp confHost "conf.tick.x" (confWorld 0)
      [confRef, innerRef, tickRef] (.error (.undefinedMember "x" "number") (confWorld 1)) :=
    (parts (confWorld 0) []).1 _ _ _ _ front
      (conf_reads_tick (.missing (.calls counted (.owner _ rfl)) rfl))
  obtain ⟨-, -, byRules, -⟩ := lookup_composes confScope confHost "conf.tick.x" [] (by simp)
  obtain ⟨-, -, byRules', -⟩ := lookup_composes confScope confHost "conf.tick" [] (by simp)
  exact ⟨bounded, dotFree, whole, (byRules bounded _).1 _ _ whole,
    (byRules' bounded _).1 _ _ (conf_reads_tick (.done _ _))⟩

end Conformance
