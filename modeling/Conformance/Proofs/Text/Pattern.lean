import Mathlib.Data.List.TakeWhile
import Conformance.Feature.Grammar

/-!
# Patterns

A pattern describes a piece of text from left to right, and some of its parts have names.  There may
be several ways to read a text by a pattern, because a run of characters can be cut short and an
optional part can be left out.  They are tried in a fixed order: a run takes as much as it can before
it takes less, an optional part is read before it is left out, and an earlier choice counts for more
than a later one.  The first way that leads through the whole pattern is the one that counts, and a
text is searched from left to right for a place where there is one.

This order makes patterns hard to reason about, since what an early part takes depends on all that
stands behind it.  Most of these dependencies are void.  A run that is followed by something outside
of its class never gives a character back, and this is what most of the lemmas below come down to.

## Parts

* `Pattern` is the syntax, and `Pattern.readings` lists the ways to read a text, the preferred ones
  first.
* `Pattern.first?` is what the way that counts captures, and `Pattern.search?` looks for a place.
* `splits` cuts a run off a text in every way.  `flatMap_splits` and `exists_splits_append` say which
  of the cuts come into question.
* `Pattern.upTo` and `Pattern.toLineEnd` are the two shapes of a named part, with what they capture.
* `Pattern.map_search_lineStart_seq` reduces a search to the starts of the lines.
-/

namespace Conformance

/-! ## Syntax -/

/-- A description of a piece of text, with names from `ι` for some of its parts. -/
inductive Pattern (ι : Type)
  /-- Nothing, in front of the text or behind a line feed. -/
  | lineStart
  /-- Nothing, behind the text or in front of a line feed. -/
  | lineEnd
  /-- One character of a class. -/
  | one (cls : Char → Bool)
  /-- A run of characters of a class, which may be empty. -/
  | many (cls : Char → Bool)
  /-- A part that may be left out. -/
  | optional (p : Pattern ι)
  /-- A part with a name. -/
  | named (name : ι) (p : Pattern ι)
  /-- One part behind the other. -/
  | seq (p q : Pattern ι)

/-- The named parts that were read. -/
abbrev Captures (ι : Type) :=
  List (ι × List Char)

/-- One way to read the front of a text: what is taken, what is captured, and what is left. -/
structure Reading (ι : Type) where
  taken : List Char
  captures : Captures ι
  rest : List Char

/-- One reading behind the other. -/
def Reading.andThen {ι : Type} (r s : Reading ι) : Reading ι :=
  ⟨r.taken ++ s.taken, r.captures ++ s.captures, s.rest⟩

/-! ## Readings in their order -/

/-- The ways to cut a run of a class off a text, the longest run first. -/
def splits (cls : Char → Bool) : List Char → List (List Char × List Char)
  | [] => [([], [])]
  | c :: rest =>
    if cls c then (splits cls rest).map (fun cut => (c :: cut.1, cut.2)) ++ [([], c :: rest)]
    else [([], c :: rest)]

namespace Pattern

variable {ι : Type}

/-- All ways to read a text that stands behind the given character, in the order in which they are
tried. -/
def readings : Pattern ι → Option Char → List Char → List (Reading ι)
  | lineStart, last, text => if last = none ∨ last = some '\n' then [⟨[], [], text⟩] else []
  | lineEnd, _, text => if text.head? = none ∨ text.head? = some '\n' then [⟨[], [], text⟩] else []
  | one _, _, [] => []
  | one cls, _, c :: rest => if cls c then [⟨[c], [], rest⟩] else []
  | many cls, _, text => (splits cls text).map fun cut => ⟨cut.1, [], cut.2⟩
  | optional p, last, text => p.readings last text ++ [⟨[], [], text⟩]
  | named name p, last, text =>
    (p.readings last text).map fun r => { r with captures := (name, r.taken) :: r.captures }
  | seq p q, last, text =>
    (p.readings last text).flatMap fun r =>
      (q.readings (r.taken.getLast?.or last) r.rest).map r.andThen

/-- What the first way to read a text captures. -/
def first? (p : Pattern ι) (last : Option Char) (text : List Char) : Option (Captures ι) :=
  (p.readings last text).head?.map Reading.captures

/-- The same at the first place of a text where there is a way, the place behind the text
included. -/
def searchFrom (p : Pattern ι) (last : Option Char) : List Char → Option (Captures ι)
  | [] => p.first? last []
  | c :: rest => (p.first? last (c :: rest)).or (p.searchFrom (some c) rest)

/-- What a pattern captures in a text. -/
def search? (p : Pattern ι) (text : List Char) : Option (Captures ι) :=
  p.searchFrom none text

end Pattern

/-! ## The first place of a character -/

section FirstPlace

variable {stop : Char} {before : List Char}

lemma ne_of_absent {text : List Char} (absent : stop ∉ text) :
    ∀ c ∈ text, decide (c ≠ stop) = true := by
  intro c there
  rw [decide_eq_true_iff]
  rintro rfl
  exact absent there

lemma takeWhile_ne_append (first : stop ∉ before) (rest : List Char) :
    (before ++ stop :: rest).takeWhile (· ≠ stop) = before := by
  rw [List.takeWhile_append_of_pos (ne_of_absent first)]
  simp

lemma dropWhile_ne_append (first : stop ∉ before) (rest : List Char) :
    (before ++ stop :: rest).dropWhile (· ≠ stop) = stop :: rest := by
  rw [List.dropWhile_append_of_pos (ne_of_absent first)]
  simp

lemma dropWhile_ne_of_notMem {text : List Char} (absent : stop ∉ text) :
    text.dropWhile (· ≠ stop) = [] := by
  rw [List.dropWhile_eq_nil_iff]
  exact ne_of_absent absent

end FirstPlace

/-! ## The cuts that come into question -/

section Splits

variable {cls : Char → Bool}

lemma splits_nil : splits cls [] = [([], [])] := rfl

lemma splits_cons {c : Char} (inside : cls c = true) (rest : List Char) :
    splits cls (c :: rest) =
      (splits cls rest).map (fun cut => (c :: cut.1, cut.2)) ++ [([], c :: rest)] :=
  if_pos inside

lemma splits_cons_of_outside {c : Char} (outside : ¬ cls c = true) (rest : List Char) :
    splits cls (c :: rest) = [([], c :: rest)] :=
  if_neg outside

lemma splits_of_outside {text : List Char} (outside : ∀ c, text.head? = some c → cls c = false) :
    splits cls text = [([], text)] := by
  cases text with
  | nil => rfl
  | cons c rest =>
    refine splits_cons_of_outside ?_ rest
    simp [outside c rfl]

/-- The longest run comes first. -/
lemma exists_splits (cls : Char → Bool) (text : List Char) :
    ∃ more, splits cls text = (text.takeWhile cls, text.dropWhile cls) :: more := by
  induction text with
  | nil => exact ⟨[], rfl⟩
  | cons c rest ih =>
    by_cases inside : cls c = true
    · obtain ⟨more, longest⟩ := ih
      rw [splits_cons inside, longest, List.map_cons, List.takeWhile_cons_of_pos inside,
        List.dropWhile_cons_of_pos inside]
      exact ⟨_, rfl⟩
    · rw [List.takeWhile_cons_of_neg inside, List.dropWhile_cons_of_neg inside]
      exact ⟨[], splits_cons_of_outside inside rest⟩

/-- Behind it comes the run that gives its last character back. -/
lemma exists_splits_append {run : List Char} {c : Char} {rest : List Char}
    (inside : ∀ b ∈ run ++ [c], cls b = true)
    (outside : ∀ b, rest.head? = some b → cls b = false) :
    ∃ more, splits cls (run ++ c :: rest) = (run ++ [c], rest) :: (run, c :: rest) :: more := by
  induction run with
  | nil =>
    have single := splits_of_outside outside
    rw [List.nil_append, splits_cons (inside c (by simp)), single]
    exact ⟨[], rfl⟩
  | cons b run ih =>
    obtain ⟨more, cuts⟩ := ih fun b' there => inside b' (List.mem_cons_of_mem b there)
    rw [List.cons_append, splits_cons (inside b (by simp)), cuts]
    exact ⟨_, rfl⟩

/-- Only the longest run comes into question in front of what cannot start inside of the class. -/
lemma flatMap_splits {α : Type} {f : List Char × List Char → List α}
    (refuses : ∀ taken c rest, cls c = true → f (taken, c :: rest) = []) (text : List Char) :
    (splits cls text).flatMap f = f (text.takeWhile cls, text.dropWhile cls) := by
  induction text generalizing f with
  | nil => simp [splits_nil]
  | cons c rest ih =>
    by_cases inside : cls c = true
    · have shorter := ih (f := fun cut => f (c :: cut.1, cut.2))
        fun taken b rest within => refuses (c :: taken) b rest within
      rw [splits_cons inside, List.flatMap_append, List.flatMap_map, shorter,
        List.takeWhile_cons_of_pos inside, List.dropWhile_cons_of_pos inside]
      simp [refuses [] c rest inside]
    · simp [splits_cons_of_outside inside, inside]

end Splits

/-! ## Readings of one part -/

namespace Pattern

variable {ι : Type} {p q : Pattern ι} {cls : Char → Bool} {last : Option Char} {text : List Char}

lemma readings_lineStart : (lineStart : Pattern ι).readings last text =
    if last = none ∨ last = some '\n' then [⟨[], [], text⟩] else [] := rfl

lemma readings_lineEnd : (lineEnd : Pattern ι).readings last text =
    if text.head? = none ∨ text.head? = some '\n' then [⟨[], [], text⟩] else [] := rfl

lemma readings_one {c : Char} {rest : List Char} : (one cls : Pattern ι).readings last (c :: rest) =
    if cls c then [⟨[c], [], rest⟩] else [] := rfl

lemma readings_many : (many cls : Pattern ι).readings last text =
    (splits cls text).map fun cut => ⟨cut.1, [], cut.2⟩ := rfl

lemma readings_optional : (optional p).readings last text =
    p.readings last text ++ [⟨[], [], text⟩] := rfl

lemma readings_named {name : ι} : (named name p).readings last text =
    (p.readings last text).map fun r => { r with captures := (name, r.taken) :: r.captures } := rfl

lemma readings_seq : (seq p q).readings last text =
    (p.readings last text).flatMap fun r =>
      (q.readings (r.taken.getLast?.or last) r.rest).map r.andThen := rfl

/-! ## What a part in front captures -/

lemma first?_seq : (seq p q).first? last text =
    (p.readings last text).findSome? fun r =>
      (q.first? (r.taken.getLast?.or last) r.rest).map (r.captures ++ ·) := by
  rw [first?, readings_seq, List.head?_flatMap, List.map_findSome?]
  congr 1
  funext r
  simp only [Function.comp_apply, List.head?_map, Option.map_map, first?]
  rfl

lemma readings_seq_assoc {r : Pattern ι} :
    (seq (seq p q) r).readings last text = (seq p (seq q r)).readings last text := by
  simp only [readings_seq, List.flatMap_assoc, List.flatMap_map, List.map_flatMap, List.map_map]
  congr 1
  funext first
  congr 1
  funext second
  simp only [Reading.andThen, List.getLast?_append, Option.or_assoc]
  congr 1
  funext third
  simp [Reading.andThen, List.append_assoc]

lemma first?_seq_assoc {r : Pattern ι} :
    (seq (seq p q) r).first? last text = (seq p (seq q r)).first? last text := by
  rw [first?, readings_seq_assoc, first?]

lemma first?_lineStart_seq : (seq lineStart q).first? last text =
    if last = none ∨ last = some '\n' then q.first? last text else none := by
  rw [first?_seq, readings_lineStart]
  split <;> simp

lemma first?_lineEnd : (lineEnd : Pattern ι).first? last text =
    if text.head? = none ∨ text.head? = some '\n' then some [] else none := by
  rw [first?, readings_lineEnd]
  split <;> rfl

lemma first?_one_seq {c : Char} {rest : List Char} :
    (seq (one cls) q).first? last (c :: rest) = if cls c then q.first? (some c) rest else none := by
  rw [first?_seq, readings_one]
  split <;> simp

/-- An optional part is left out if the pattern cannot be read to its end with it. -/
lemma first?_optional_seq : (seq (optional p) q).first? last text =
    ((seq p q).first? last text).or (q.first? last text) := by
  rw [first?_seq, first?_seq, readings_optional, List.findSome?_append]
  simp

/-- A run takes as much as leaves something to read to the rest of the pattern. -/
lemma first?_many_seq : (seq (many cls) q).first? last text =
    (splits cls text).findSome? fun cut => q.first? (cut.1.getLast?.or last) cut.2 := by
  rw [first?_seq, readings_many, List.findSome?_map]
  congr 1
  funext cut
  simp

/-- A run in front of what cannot start inside of its class takes all it can. -/
lemma first?_many_seq_of_refuses
    (refuses : ∀ last c rest, cls c = true → q.readings last (c :: rest) = []) :
    (seq (many cls) q).first? last text =
      q.first? ((text.takeWhile cls).getLast?.or last) (text.dropWhile cls) := by
  have shorter : ∀ taken c rest, cls c = true →
      (q.readings (taken.getLast?.or last) (c :: rest)).map
        (Reading.mk taken [] (c :: rest)).andThen = [] := by
    intro taken c rest inside
    rw [refuses _ c rest inside, List.map_nil]
  have longest := flatMap_splits (f := fun cut =>
    (q.readings (cut.1.getLast?.or last) cut.2).map (Reading.mk cut.1 [] cut.2).andThen) shorter text
  rw [first?, readings_seq, readings_many, List.flatMap_map, longest, List.head?_map, Option.map_map]
  rfl

/-! ## Named parts -/

/-- All up to a character, with the character behind it. -/
def upTo (name : ι) (stop : Char) : Pattern ι :=
  seq (named name (many (· ≠ stop))) (one (· = stop))

/-- There is one way to read up to a character, to the first place where it stands. -/
lemma readings_upTo (name : ι) (stop : Char) : (upTo name stop).readings last text =
    match text.dropWhile (· ≠ stop) with
    | [] => []
    | _ :: rest =>
      [⟨text.takeWhile (· ≠ stop) ++ [stop], [(name, text.takeWhile (· ≠ stop))], rest⟩] := by
  have shorter : ∀ taken c rest, decide (c ≠ stop) = true →
      ((one (· = stop)).readings (taken.getLast?.or last) (c :: rest)).map
        (Reading.mk taken [(name, taken)] (c :: rest)).andThen = [] := by
    intro taken c rest other
    simp_all [readings_one]
  have longest := flatMap_splits (f := fun cut =>
    ((one (· = stop)).readings (cut.1.getLast?.or last) cut.2).map
      (Reading.mk cut.1 [(name, cut.1)] cut.2).andThen) shorter text
  rw [upTo, readings_seq, readings_named, readings_many, List.flatMap_map, List.flatMap_map, longest]
  cases behind : text.dropWhile (· ≠ stop) with
  | nil => rfl
  | cons c rest =>
    have found : c = stop := by
      have head := List.head?_dropWhile_not (fun c => decide (c ≠ stop)) text
      rw [behind] at head
      simpa using head
    simp [readings_one, Reading.andThen, found]

lemma first?_upTo_seq_of_notMem {name : ι} {stop : Char} (absent : stop ∉ text) :
    (seq (upTo name stop) q).first? last text = none := by
  rw [first?_seq, readings_upTo, dropWhile_ne_of_notMem absent]
  rfl

lemma first?_upTo_seq {name : ι} {stop : Char} {before : List Char} (first : stop ∉ before)
    (rest : List Char) : (seq (upTo name stop) q).first? last (before ++ stop :: rest) =
      (q.first? (some stop) rest).map ((name, before) :: ·) := by
  rw [first?_seq, readings_upTo, takeWhile_ne_append first, dropWhile_ne_append first]
  simp

/-- A character of a class and the rest of its line. -/
def toLineEnd (name : ι) (cls : Char → Bool) : Pattern ι :=
  named name (seq (one cls) (many (· ≠ '\n')))

lemma readings_toLineEnd (name : ι) (c : Char) (rest : List Char) :
    (toLineEnd name cls).readings last (c :: rest) =
      if cls c then
        (splits (· ≠ '\n') rest).map fun cut => ⟨c :: cut.1, [(name, c :: cut.1)], cut.2⟩
      else [] := by
  rw [toLineEnd, readings_named, readings_seq, readings_one]
  split
  · simp [readings_many, Reading.andThen]
  · rfl

lemma first?_toLineEnd_seq (name : ι) (c : Char) (rest : List Char) :
    (seq (toLineEnd name cls) lineEnd).first? last (c :: rest) =
      if cls c then some [(name, c :: rest.takeWhile (· ≠ '\n'))] else none := by
  rw [first?_seq, readings_toLineEnd]
  split
  · obtain ⟨more, cuts⟩ := exists_splits (· ≠ '\n') rest
    have at_end : (rest.dropWhile (· ≠ '\n')).head? = none ∨
        (rest.dropWhile (· ≠ '\n')).head? = some '\n' := by
      have head := List.head?_dropWhile_not (fun c => decide (c ≠ '\n')) rest
      cases ahead : (rest.dropWhile (· ≠ '\n')).head? with
      | none => exact .inl rfl
      | some b =>
        rw [ahead] at head
        exact .inr (by simpa using head)
    rw [cuts, List.map_cons, List.findSome?_cons, first?_lineEnd, if_pos at_end]
    rfl
  · rfl

/-! ## Searching at line starts -/

/-- A pattern that starts at a line start is searched for at the line starts.  What is read off the
captures is left open, and the search may also go on in the middle of a line. -/
lemma map_searchFrom_lineStart_seq {α : Type} {view : Captures ι → α} {here : List Char → Option α}
    (agrees : ∀ last text, (q.first? last text).map view = here text)
    (last : Option Char) (text : List Char) :
    ((seq lineStart q).searchFrom last text).map view =
      (if last = none ∨ last = some '\n' then here text else none).or
        ((laterLines text).findSome? here) := by
  have at_place : ∀ last text, ((seq lineStart q).first? last text).map view =
      if last = none ∨ last = some '\n' then here text else none := by
    intro last text
    rw [first?_lineStart_seq]
    split
    · exact agrees last text
    · rfl
  induction text generalizing last with
  | nil => rw [searchFrom, at_place, laterLines, List.findSome?_nil, Option.or_none]
  | cons c rest ih =>
    have behind_feed : (some c = none ∨ some c = some '\n') ↔ c = '\n' := by simp
    rw [searchFrom, Option.map_or, at_place, ih, laterLines, if_congr behind_feed rfl rfl]
    by_cases feed : c = '\n'
    · rw [if_pos feed, if_pos feed, List.findSome?_cons]
      cases here rest <;> rfl
    · rw [if_neg feed, if_neg feed, Option.none_or]

lemma map_search_lineStart_seq {α : Type} {view : Captures ι → α} {here : List Char → Option α}
    (agrees : ∀ last text, (q.first? last text).map view = here text) (text : List Char) :
    ((seq lineStart q).search? text).map view = (lineStarts text).findSome? here := by
  rw [search?, map_searchFrom_lineStart_seq agrees, if_pos (.inl rfl), lineStarts,
    List.findSome?_cons]
  cases here text <;> rfl

end Pattern

end Conformance
