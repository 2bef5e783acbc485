import FlutterZero.LicensesCpp.LicenseChecker
import Mathlib.Data.List.ReduceOption

/-! # Matches with groups

`FindMatchForSelectedMatcher` and `FindMatch` (`catalog.cc`) with what RE2 returns: a range of the query
for the match and one for each capturing group, or none for a group that does not take part.

The text of a match without groups is a part of the query, the one of a match with groups is a string
of its own.

* `nonGroupText` — the copy of what is between the groups, by their numbers;
* `CopiesGaps` — the ranges for which the copy is what is outside of all groups;
* `findMatch_sound_iff` — the queries for which the matches are disjoint and their texts right.
-/

namespace FlutterZero.LicensesCpp

/-! ## What RE2 returns -/

abbrev Range := Nat × Nat

structure Submatches (length : Nat) where
  full : Range
  groups : List (Option Range)
  full_within : full.1 ≤ full.2 ∧ full.2 ≤ length
  groups_within : ∀ group, some group ∈ groups → full.1 ≤ group.1 ∧ group.1 ≤ group.2 ∧ group.2 ≤ full.2

structure GroupMatcher where
  name : String
  numberOfCapturingGroups : Nat
  run : (query : String) → Option (Submatches query.toList.length)
  groups_length : ∀ query found, run query = some found → found.groups.length = numberOfCapturingGroups

inductive CatalogFault where
  | readFromNull
deriving DecidableEq, Repr

/-! ## The text outside of the groups -/

def slice (text : List Char) (start stop : Nat) : List Char := (text.drop start).take (stop - start)

def copyFrom (text : List Char) (position : Option Nat) (stop : Nat) : Except CatalogFault (List Char) :=
  match position with
  | none => .error .readFromNull
  | some start => .ok (if start < stop then slice text start stop else [])

/-- The loop over the groups.  A group that does not take part has a null pointer, which is not greater than
the position and is the next one. -/
def nonGroupText (text : List Char) (stop : Nat) : Option Nat → List (Option Range) → Except CatalogFault (List Char)
  | position, [] => copyFrom text position stop
  | _, none :: groups => nonGroupText text stop none groups
  | position, some group :: groups => do
    let copied ← copyFrom text position group.1
    let rest ← nonGroupText text stop (some group.2) groups
    return copied ++ rest

namespace GroupMatcher

def findMatchForSelectedMatcher (matcher : GroupMatcher) (query : String) : Except CatalogFault (Option Match) :=
  match matcher.run query with
  | none => .ok none
  | some found => do
    if matcher.numberOfCapturingGroups = 0 then
      return some ⟨matcher.name, .ofList (slice query.toList found.full.1 found.full.2),
        -- an empty view is taken for a match that owns its text
        if found.full.1 = found.full.2 then none else some found.full⟩
    else
      let text ← nonGroupText query.toList found.full.2 (some found.full.1) found.groups
      return some ⟨matcher.name, .ofList text, none⟩

def entry (matcher : GroupMatcher) : CatalogEntry where
  name := matcher.name
  matcher query :=
    match matcher.findMatchForSelectedMatcher query with
    | .ok (some found) => some (found.matchedText, found.range)
    | _ => none

end GroupMatcher

structure GroupCatalog where
  matchers : List GroupMatcher
  selector : String → List (Fin matchers.length)

namespace GroupCatalog

def selected (catalog : GroupCatalog) (query : String) : List GroupMatcher :=
  (catalog.selector query).map catalog.matchers.get

def toCatalog (catalog : GroupCatalog) : Catalog where
  entries := catalog.matchers.map GroupMatcher.entry
  selector query := (catalog.selector query).map (Fin.cast (List.length_map _).symm)

def findMatch (catalog : GroupCatalog) (query : String) : Except CatalogFault (Except Status (List Match)) := do
  let _ ← (catalog.selected query).mapM fun matcher => matcher.findMatchForSelectedMatcher query
  return catalog.toCatalog.findMatch query

end GroupCatalog

/-! ## Positions -/

def positions (start stop : Nat) : List Nat := List.range' start (stop - start)

theorem mem_positions {start stop p : Nat} : p ∈ positions start stop ↔ start ≤ p ∧ p < stop := by
  rw [positions, List.mem_range'_1]
  omega

theorem length_positions (start stop : Nat) : (positions start stop).length = stop - start := List.length_range'

theorem positions_append {start middle stop : Nat} (first : start ≤ middle) (second : middle ≤ stop) :
    positions start middle ++ positions middle stop = positions start stop := by
  obtain ⟨n, rfl⟩ := Nat.exists_eq_add_of_le first
  obtain ⟨m, rfl⟩ := Nat.exists_eq_add_of_le second
  rw [positions, positions, positions, Nat.add_sub_cancel_left, Nat.add_sub_cancel_left, Nat.add_assoc,
    Nat.add_sub_cancel_left]
  exact List.range'_append_1

def InRange (p : Nat) (range : Range) : Prop := range.1 ≤ p ∧ p < range.2

instance (p : Nat) (range : Range) : Decidable (InRange p range) := inferInstanceAs (Decidable (_ ∧ _))

def outside (groups : List Range) (start stop : Nat) : List Nat :=
  (positions start stop).filter fun p => ∀ group ∈ groups, ¬ InRange p group

def copied (stop : Nat) : Nat → List Range → List Nat
  | position, [] => positions position stop
  | position, group :: groups => positions position group.1 ++ copied stop group.2 groups

/-- Whatever is copied starts where no group went further, and no later group is in it. -/
def CopiesGaps (stop : Nat) : Nat → Nat → List Range → Prop
  | highest, position, [] => position < stop → highest ≤ position
  | highest, position, group :: groups =>
    (position < group.1 → highest ≤ position ∧
      ∀ later ∈ groups, ∀ p, position ≤ p → p < group.1 → ¬ InRange p later) ∧
    CopiesGaps stop (max highest group.2) group.2 groups

section Gaps

variable {stop highest position : Nat} {group : Range} {groups : List Range}

theorem outside_cons (ordered : group.1 ≤ group.2) (within : group.2 ≤ stop) :
    outside (group :: groups) highest stop =
      outside groups highest group.1 ++ outside groups (max highest group.2) stop := by
  -- what is asked of a position of either side
  have split : ∀ ps : List Nat, ps.filter (fun p => ∀ g ∈ group :: groups, ¬ InRange p g) =
      (ps.filter fun p => ¬ InRange p group).filter fun p => ∀ g ∈ groups, ¬ InRange p g := by
    intro ps
    rw [List.filter_filter]
    refine List.filter_congr fun p _ => ?_
    simp only [List.forall_mem_cons, Bool.decide_and, Bool.and_comm]
  have all : ∀ {a b}, (∀ p, a ≤ p → p < b → ¬ InRange p group) →
      (positions a b).filter (fun p => ¬ InRange p group) = positions a b := by
    intro a b free
    rw [List.filter_eq_self]
    intro p inside
    obtain ⟨low, high⟩ := mem_positions.mp inside
    exact decide_eq_true (free p low high)
  have none : ∀ {a b}, (∀ p, a ≤ p → p < b → InRange p group) →
      (positions a b).filter (fun p => ¬ InRange p group) = [] := by
    intro a b taken
    rw [List.filter_eq_nil_iff]
    intro p inside
    obtain ⟨low, high⟩ := mem_positions.mp inside
    simpa using taken p low high
  unfold outside
  rw [split, ← List.filter_append]
  congr 1
  obtain before | inside := Nat.le_total highest group.1
  · rw [Nat.max_eq_right (by omega), ← positions_append before (Nat.le_trans ordered within),
      ← positions_append ordered within, List.filter_append, List.filter_append, all, none, all, List.nil_append]
    all_goals
      intro p low high
      unfold InRange
      omega
  · have empty : positions highest group.1 = [] := by
      rw [positions, Nat.sub_eq_zero_of_le inside]
      rfl
    rw [empty, List.nil_append]
    obtain behind | reaches := Nat.le_total group.2 highest
    · rw [Nat.max_eq_left behind, all]
      intro p low high
      unfold InRange
      omega
    · rw [Nat.max_eq_right reaches, ← positions_append reaches within, List.filter_append, none, all, List.nil_append]
      all_goals
        intro p low high
        unfold InRange
        omega

theorem length_outside_le (groups : List Range) (stop : Nat) (behind : position ≤ highest) :
    (outside groups highest stop).length ≤ (positions position stop).length := by
  apply Nat.le_trans (List.length_filter_le _ _)
  rw [length_positions, length_positions]
  omega

theorem length_outside_eq_iff (behind : position ≤ highest) :
    (outside groups highest stop).length = (positions position stop).length ↔
      (position < stop → highest ≤ position ∧ ∀ g ∈ groups, ∀ p, position ≤ p → p < stop → ¬ InRange p g) := by
  constructor
  · intro same proper
    have fewer := List.length_filter_le (fun p => ∀ g ∈ groups, ¬ InRange p g) (positions highest stop)
    unfold outside at same
    rw [same, length_positions, length_positions] at fewer
    have level : highest = position := by omega
    subst level
    refine ⟨Nat.le_refl _, fun g member p low high => ?_⟩
    have free := List.length_filter_eq_length_iff.mp same p (mem_positions.mpr ⟨low, high⟩)
    exact of_decide_eq_true free g member
  · intro free
    by_cases proper : position < stop
    · obtain ⟨level, apart⟩ := free proper
      obtain rfl := Nat.le_antisymm behind level
      refine List.length_filter_eq_length_iff.mpr fun p inside => decide_eq_true fun g member => ?_
      obtain ⟨low, high⟩ := mem_positions.mp inside
      exact apart g member p low high
    · have none : (positions position stop).length = 0 := by
        rw [length_positions]
        omega
      have most := length_outside_le groups stop behind
      omega

theorem length_outside_copied (behind : position ≤ highest) (below : highest ≤ stop)
    (within : ∀ g ∈ groups, g.1 ≤ g.2 ∧ g.2 ≤ stop) :
    (outside groups highest stop).length ≤ (copied stop position groups).length ∧
      ((outside groups highest stop).length = (copied stop position groups).length ↔
        CopiesGaps stop highest position groups) := by
  induction groups generalizing highest position with
  | nil =>
    refine ⟨length_outside_le [] stop behind, (length_outside_eq_iff behind).trans ?_⟩
    simp [CopiesGaps]
  | cons group groups ih =>
    obtain ⟨⟨ordered, inside⟩, within⟩ := List.forall_mem_cons.mp within
    have most := length_outside_le groups group.1 behind
    obtain ⟨rest, equal⟩ := ih (Nat.le_max_right highest group.2) (Nat.max_le.mpr ⟨below, inside⟩) within
    rw [outside_cons ordered inside, copied, CopiesGaps, List.length_append, List.length_append,
      ← length_outside_eq_iff behind, ← equal]
    omega

theorem copied_eq_outside (behind : position ≤ highest) (below : highest ≤ stop)
    (within : ∀ g ∈ groups, g.1 ≤ g.2 ∧ g.2 ≤ stop) (copies : CopiesGaps stop highest position groups) :
    copied stop position groups = outside groups highest stop := by
  -- a gap that is copied is outside of all groups
  have gap : ∀ {position highest stop : Nat} {groups : List Range}, position ≤ highest →
      (position < stop → highest ≤ position ∧ ∀ g ∈ groups, ∀ p, position ≤ p → p < stop → ¬ InRange p g) →
      positions position stop = outside groups highest stop := by
    intro position highest stop groups behind free
    by_cases proper : position < stop
    · obtain ⟨level, apart⟩ := free proper
      obtain rfl := Nat.le_antisymm behind level
      refine (List.filter_eq_self.mpr fun p inside => decide_eq_true fun g member => ?_).symm
      obtain ⟨low, high⟩ := mem_positions.mp inside
      exact apart g member p low high
    · have none : stop - position = 0 := by omega
      have none' : stop - highest = 0 := by omega
      simp [positions, outside, none, none']
  induction groups generalizing highest position with
  | nil => exact gap behind fun proper => ⟨copies proper, fun g member => nomatch member⟩
  | cons group groups ih =>
    obtain ⟨⟨ordered, inside⟩, within⟩ := List.forall_mem_cons.mp within
    obtain ⟨first, copies⟩ := copies
    rw [outside_cons ordered inside, copied, gap behind first,
      ih (Nat.le_max_right highest group.2) (Nat.max_le.mpr ⟨below, inside⟩) within copies]

end Gaps

/-! ## Texts -/

def charsAt (text : List Char) (ps : List Nat) : List Char := ps.filterMap fun p => text[p]?

section Texts

variable {text : List Char} {start stop position : Nat} {groups : List Range} {ps : List Nat}

theorem length_charsAt (inside : ∀ p ∈ ps, p < text.length) : (charsAt text ps).length = ps.length := by
  induction ps with
  | nil => rfl
  | cons p ps ih =>
    obtain ⟨here, inside⟩ := List.forall_mem_cons.mp inside
    rw [charsAt, List.filterMap_cons_some (List.getElem?_eq_getElem here), List.length_cons, List.length_cons]
    exact congrArg (· + 1) (ih inside)

theorem slice_eq (within : stop ≤ text.length) : slice text start stop = charsAt text (positions start stop) := by
  unfold slice positions
  generalize size : stop - start = n
  have bound : start + n ≤ text.length ∨ n = 0 := by omega
  clear size
  induction n generalizing start with
  | zero => rfl
  | succ n ih =>
    have here : start < text.length := by omega
    rw [List.range'_succ, charsAt, List.filterMap_cons_some (List.getElem?_eq_getElem here),
      List.drop_eq_getElem_cons here, List.take_succ_cons, ih (by omega)]
    rfl

theorem copyFrom_eq (within : stop ≤ text.length) :
    copyFrom text (some start) stop = .ok (charsAt text (positions start stop)) := by
  unfold copyFrom
  dsimp only
  rw [slice_eq within]
  split
  · rfl
  · have none : stop - start = 0 := by omega
    rw [positions, none]
    rfl

theorem nonGroupText_of_set (groups_within : ∀ g ∈ groups, g.1 ≤ g.2 ∧ g.2 ≤ stop) (within : stop ≤ text.length) :
    nonGroupText text stop (some position) (groups.map some) = .ok (charsAt text (copied stop position groups)) := by
  induction groups generalizing position with
  | nil => exact copyFrom_eq within
  | cons group groups ih =>
    obtain ⟨⟨ordered, inside⟩, groups_within⟩ := List.forall_mem_cons.mp groups_within
    rw [List.map_cons, nonGroupText, copyFrom_eq (by omega), ih groups_within, copied, charsAt, charsAt, charsAt,
      List.filterMap_append]
    rfl

theorem nonGroupText_null (groups : List (Option Range)) :
    nonGroupText text stop none groups = .error .readFromNull := by
  induction groups with
  | nil => rfl
  | cons group groups ih =>
    cases group with
    | none => exact ih
    | some group => rfl

theorem nonGroupText_of_unset {groups : List (Option Range)} (unset : none ∈ groups) (position : Option Nat) :
    nonGroupText text stop position groups = .error .readFromNull := by
  induction groups generalizing position with
  | nil => cases unset
  | cons group groups ih =>
    cases group with
    | none => exact nonGroupText_null groups
    | some group =>
      cases unset with
      | tail _ unset =>
        rw [nonGroupText, ih unset]
        cases copyFrom text position group.1 <;> rfl

theorem lt_of_mem_copied (groups_within : ∀ g ∈ groups, g.1 ≤ g.2 ∧ g.2 ≤ stop) {p : Nat}
    (inside : p ∈ copied stop position groups) : p < stop := by
  induction groups generalizing position with
  | nil => exact (mem_positions.mp inside).2
  | cons group groups ih =>
    obtain ⟨⟨ordered, bound⟩, groups_within⟩ := List.forall_mem_cons.mp groups_within
    obtain inside | inside := List.mem_append.mp inside
    · have := (mem_positions.mp inside).2
      omega
    · exact ih groups_within inside

theorem charsAt_copied_iff (groups_within : ∀ g ∈ groups, g.1 ≤ g.2 ∧ g.2 ≤ stop) (below : start ≤ stop)
    (within : stop ≤ text.length) :
    charsAt text (copied stop start groups) = charsAt text (outside groups start stop) ↔
      CopiesGaps stop start start groups := by
  constructor
  · intro same
    have lengths := congrArg List.length same
    rw [length_charsAt, length_charsAt] at lengths
    · exact (length_outside_copied (Nat.le_refl _) below groups_within).2.mp lengths.symm
    · intro p inside
      have := (mem_positions.mp (List.mem_of_mem_filter inside)).2
      omega
    · intro p inside
      have := lt_of_mem_copied groups_within inside
      omega
  · intro copies
    rw [copied_eq_outside (Nat.le_refl _) below groups_within copies]

end Texts

namespace Submatches

variable {length : Nat} (found : Submatches length)

def Participates : Prop := none ∉ found.groups

def ranges : List Range := found.groups.reduceOption

def ungrouped (text : List Char) : List Char := charsAt text (outside found.ranges found.full.1 found.full.2)

variable {found}

theorem ranges_within : ∀ g ∈ found.ranges, g.1 ≤ g.2 ∧ g.2 ≤ found.full.2 := by
  intro g inside
  exact (found.groups_within g (List.reduceOption_mem_iff.mp inside)).2

theorem Participates.groups_eq (all : found.Participates) : found.groups = found.ranges.map some := by
  unfold Participates at all
  unfold ranges
  generalize found.groups = groups at all
  induction groups with
  | nil => rfl
  | cons group groups ih =>
    rw [List.mem_cons, not_or] at all
    cases group with
    | none => exact absurd rfl all.1
    | some group => rw [List.reduceOption_cons_of_some, List.map_cons, ← ih all.2]

end Submatches

/-! ## The matches of a query -/

namespace Catalog

theorem findOverlap_eq_none_iff {reported : List Match} :
    findOverlap reported = none ↔ reported.Pairwise fun a b => overlaps a b = false := by
  induction reported with
  | nil => simp [findOverlap]
  | cons result results ih =>
    rw [findOverlap, List.pairwise_cons, ← ih]
    cases overlapping : results.find? (overlaps result) with
    | none =>
      have apart := List.find?_eq_none.mp overlapping
      simp only [Bool.not_eq_true] at apart
      exact ⟨fun rest => ⟨apart, rest⟩, fun both => both.2⟩
    | some other =>
      have found := List.find?_some overlapping
      have inside := List.mem_of_find?_eq_some overlapping
      refine iff_of_false (fun none => nomatch none) fun both => ?_
      rw [both.1 other inside] at found
      cases found

theorem findMatch_eq_ok_iff {catalog : Catalog} {query : String} {selected : List CatalogEntry} {reported : List Match}
    (selects : (catalog.selector query).map catalog.entries.get = selected) :
    catalog.findMatch query = .ok reported ↔ selected ≠ [] ∧
      (∀ entry ∈ selected, (findMatchForSelectedMatcher entry query).isSome) ∧
      reported = selected.filterMap (fun entry => findMatchForSelectedMatcher entry query) ∧
      reported.Pairwise fun a b => overlaps a b = false := by
  have missed : (selected.filter fun entry => (findMatchForSelectedMatcher entry query).isNone) = [] ↔
      ∀ entry ∈ selected, (findMatchForSelectedMatcher entry query).isSome := by
    rw [List.filter_eq_nil_iff]
    exact forall₂_congr fun entry _ => by cases findMatchForSelectedMatcher entry query <;> simp
  unfold findMatch
  dsimp only
  rw [selects]
  by_cases none : selected = []
  · rw [if_pos none]
    exact iff_of_false (fun ok => nomatch ok) fun found => found.1 none
  · rw [if_neg none]
    by_cases all : ∀ entry ∈ selected, (findMatchForSelectedMatcher entry query).isSome
    · rw [if_neg (not_not.mpr (missed.mpr all))]
      cases overlapping : findOverlap (selected.filterMap fun entry => findMatchForSelectedMatcher entry query) with
      | some pair =>
        refine iff_of_false (fun ok => nomatch ok) ?_
        rintro ⟨-, -, rfl, apart⟩
        rw [findOverlap_eq_none_iff.mpr apart] at overlapping
        cases overlapping
      | none =>
        constructor
        · intro ok
          cases ok
          exact ⟨none, all, rfl, findOverlap_eq_none_iff.mp overlapping⟩
        · rintro ⟨-, -, rfl, -⟩
          rfl
    · rw [if_pos fun found => all (missed.mp found)]
      exact iff_of_false (fun ok => nomatch ok) fun found => all found.2.1

end Catalog

namespace GroupMatcher

variable {matcher : GroupMatcher} {query : String} {found : Submatches query.toList.length}

def report (matcher : GroupMatcher) (query : String) (found : Submatches query.toList.length) : Match where
  matcher := matcher.name
  matchedText := .ofList (charsAt query.toList (copied found.full.2 found.full.1 found.ranges))
  range := if matcher.numberOfCapturingGroups = 0 ∧ found.full.1 ≠ found.full.2 then some found.full else none

theorem find_of_participates (run : matcher.run query = some found) (all : found.Participates) :
    matcher.findMatchForSelectedMatcher query = .ok (some (matcher.report query found)) := by
  unfold findMatchForSelectedMatcher report
  rw [run]
  dsimp only
  by_cases none : matcher.numberOfCapturingGroups = 0
  · have empty : found.groups = [] := List.eq_nil_of_length_eq_zero (none ▸ matcher.groups_length query found run)
    have ranges : found.ranges = [] := by rw [Submatches.ranges, empty]; rfl
    rw [if_pos none, slice_eq found.full_within.2, ranges, copied]
    by_cases same : found.full.1 = found.full.2
    · rw [if_pos same, if_neg fun proper => proper.2 same]
      rfl
    · rw [if_neg same, if_pos ⟨none, same⟩]
      rfl
  · rw [if_neg none, if_neg fun proper => none proper.1, all.groups_eq,
      nonGroupText_of_set Submatches.ranges_within found.full_within.2]
    rfl

theorem find_of_unset (run : matcher.run query = some found) (unset : ¬ found.Participates) :
    matcher.findMatchForSelectedMatcher query = .error .readFromNull := by
  unfold Submatches.Participates at unset
  rw [not_not] at unset
  have grouped : matcher.numberOfCapturingGroups ≠ 0 := by
    rw [← matcher.groups_length query found run]
    exact fun none => nomatch (List.eq_nil_of_length_eq_zero none ▸ unset)
  unfold findMatchForSelectedMatcher
  rw [run]
  dsimp only
  rw [if_neg grouped, nonGroupText_of_unset unset]
  rfl

theorem find_entry (safe : ∀ found, matcher.run query = some found → found.Participates) :
    Catalog.findMatchForSelectedMatcher matcher.entry query = (matcher.run query).map (matcher.report query) := by
  unfold Catalog.findMatchForSelectedMatcher entry
  dsimp only
  cases run : matcher.run query with
  | none =>
    unfold findMatchForSelectedMatcher
    rw [run]
    rfl
  | some found =>
    rw [find_of_participates run (safe found run)]
    rfl

end GroupMatcher

def Apart (a b : Range) : Prop := ∀ p, ¬ (InRange p a ∧ InRange p b)

theorem overlaps_report_iff {a b : GroupMatcher} {query : String} {fa fb : Submatches query.toList.length} :
    Catalog.overlaps (a.report query fa) (b.report query fb) = false ↔
      (a.numberOfCapturingGroups = 0 → b.numberOfCapturingGroups = 0 → Apart fa.full fb.full) := by
  obtain ⟨⟨startA, stopA⟩, _, ⟨orderedA, _⟩, _⟩ := fa
  obtain ⟨⟨startB, stopB⟩, _, ⟨orderedB, _⟩, _⟩ := fb
  unfold Catalog.overlaps GroupMatcher.report Apart InRange
  dsimp only at orderedA orderedB ⊢
  by_cases viewA : a.numberOfCapturingGroups = 0 ∧ startA ≠ stopA
  · rw [if_pos viewA]
    by_cases viewB : b.numberOfCapturingGroups = 0 ∧ startB ≠ stopB
    · rw [if_pos viewB]
      simp only [Bool.and_eq_false_iff, decide_eq_false_iff_not, Nat.not_lt]
      constructor
      · intro apart _ _ p both
        omega
      · intro apart
        have first := apart viewA.1 viewB.1 (max startA startB)
        omega
    · rw [if_neg viewB]
      refine iff_of_true rfl fun _ none p both => viewB ⟨none, ?_⟩
      omega
  · rw [if_neg viewA]
    refine iff_of_true rfl fun none _ p both => viewA ⟨none, ?_⟩
    omega

theorem mapM_ok_iff {α β ε : Type} {f : α → Except ε β} {xs : List α} :
    (∃ ys, xs.mapM f = .ok ys) ↔ ∀ x ∈ xs, ∃ y, f x = .ok y := by
  induction xs with
  | nil => exact iff_of_true ⟨[], rfl⟩ fun _ inside => nomatch inside
  | cons x xs ih =>
    rw [List.forall_mem_cons, ← ih, List.mapM_cons]
    cases f x with
    | error fault => exact iff_of_false (fun ⟨_, ok⟩ => nomatch ok) fun both => nomatch both.1.choose_spec
    | ok y =>
      cases xs.mapM f with
      | error fault => exact iff_of_false (fun ⟨_, ok⟩ => nomatch ok) fun both => nomatch both.2.choose_spec
      | ok ys => exact iff_of_true ⟨y :: ys, rfl⟩ ⟨⟨y, rfl⟩, ys, rfl⟩

namespace GroupCatalog

variable {catalog : GroupCatalog} {query : String}

def NoneUnset (catalog : GroupCatalog) (query : String) : Prop :=
  ∀ matcher ∈ catalog.selected query, ∀ found, matcher.run query = some found → found.Participates

theorem findMatch_ok_iff : (∃ outcome, catalog.findMatch query = .ok outcome) ↔ catalog.NoneUnset query := by
  have every : (∀ matcher ∈ catalog.selected query, ∃ result, matcher.findMatchForSelectedMatcher query = .ok result) ↔
      catalog.NoneUnset query := by
    refine forall₂_congr fun matcher _ => ?_
    cases run : matcher.run query with
    | none =>
      refine iff_of_true ⟨none, ?_⟩ fun found run => nomatch run
      rw [GroupMatcher.findMatchForSelectedMatcher, run]
    | some found =>
      simp only [Option.some.injEq, forall_eq']
      by_cases all : found.Participates
      · exact iff_of_true ⟨_, GroupMatcher.find_of_participates run all⟩ all
      · rw [GroupMatcher.find_of_unset run all]
        exact iff_of_false (fun ⟨_, ok⟩ => nomatch ok) all
  rw [← every, ← mapM_ok_iff, findMatch]
  cases (catalog.selected query).mapM fun matcher => matcher.findMatchForSelectedMatcher query with
  | error fault => exact iff_of_false (fun ⟨_, ok⟩ => nomatch ok) fun ⟨_, ok⟩ => nomatch ok
  | ok results => exact iff_of_true ⟨_, rfl⟩ ⟨results, rfl⟩

theorem findMatch_eq (safe : catalog.NoneUnset query) :
    catalog.findMatch query = .ok (catalog.toCatalog.findMatch query) := by
  obtain ⟨outcome, ok⟩ := findMatch_ok_iff.mpr safe
  rw [findMatch] at ok ⊢
  cases run : (catalog.selected query).mapM fun matcher => matcher.findMatchForSelectedMatcher query with
  | error fault =>
    rw [run] at ok
    cases ok
  | ok results => rfl

theorem selected_toCatalog : (catalog.toCatalog.selector query).map catalog.toCatalog.entries.get =
    (catalog.selected query).map GroupMatcher.entry := by
  unfold toCatalog selected
  rw [List.map_map, List.map_map]
  refine List.map_congr_left fun i _ => ?_
  simp [List.get_eq_getElem]

/-- Matches are returned: everything that is selected matches, and the parts of the query are apart. -/
structure Accepts (catalog : GroupCatalog) (query : String) : Prop where
  selects : catalog.selected query ≠ []
  all : ∀ matcher ∈ catalog.selected query, (matcher.run query).isSome
  views : (catalog.selected query).Pairwise fun a b => ∀ fa fb, a.run query = some fa → b.run query = some fb →
    a.numberOfCapturingGroups = 0 → b.numberOfCapturingGroups = 0 → Apart fa.full fb.full

def reports (catalog : GroupCatalog) (query : String) : List Match :=
  (catalog.selected query).filterMap fun matcher => (matcher.run query).map (matcher.report query)

theorem findMatch_toCatalog_iff (safe : catalog.NoneUnset query) {reported : List Match} :
    catalog.toCatalog.findMatch query = .ok reported ↔ catalog.Accepts query ∧ reported = catalog.reports query := by
  have found : ∀ matcher ∈ catalog.selected query, Catalog.findMatchForSelectedMatcher matcher.entry query =
      (matcher.run query).map (matcher.report query) :=
    fun matcher inside => GroupMatcher.find_entry (safe matcher inside)
  have results : ((catalog.selected query).map GroupMatcher.entry).filterMap
      (fun entry => Catalog.findMatchForSelectedMatcher entry query) = catalog.reports query := by
    rw [List.filterMap_map]
    exact List.filterMap_congr found
  have all : (∀ entry ∈ (catalog.selected query).map GroupMatcher.entry,
      (Catalog.findMatchForSelectedMatcher entry query).isSome) ↔
        ∀ matcher ∈ catalog.selected query, (matcher.run query).isSome := by
    rw [List.forall_mem_map]
    exact forall₂_congr fun matcher inside => by rw [found matcher inside, Option.isSome_map]
  have views : (catalog.reports query).Pairwise (fun a b => Catalog.overlaps a b = false) ↔
      (catalog.selected query).Pairwise fun a b => ∀ fa fb, a.run query = some fa → b.run query = some fb →
        a.numberOfCapturingGroups = 0 → b.numberOfCapturingGroups = 0 → Apart fa.full fb.full := by
    rw [reports, List.pairwise_filterMap]
    refine iff_of_eq (congrArg (List.Pairwise · _) ?_)
    funext a b
    simp only [Option.map_eq_some_iff, forall_exists_index, and_imp, forall_apply_eq_imp_iff₂, overlaps_report_iff]
    exact propext ⟨fun h fa fb ra rb => h fa ra fb rb, fun h fa ra fb rb => h fa fb ra rb⟩
  rw [Catalog.findMatch_eq_ok_iff selected_toCatalog, results, all]
  constructor
  · rintro ⟨selects, every, rfl, apart⟩
    exact ⟨⟨fun none => selects (by rw [none]; rfl), every, views.mp apart⟩, rfl⟩
  · rintro ⟨⟨selects, every, apart⟩, rfl⟩
    exact ⟨fun none => selects (List.map_eq_nil_iff.mp none), every, rfl, views.mpr apart⟩

def Disjoint (catalog : GroupCatalog) (query : String) : Prop :=
  (catalog.selected query).Pairwise fun a b =>
    ∀ fa fb, a.run query = some fa → b.run query = some fb → Apart fa.full fb.full

def Extracted (catalog : GroupCatalog) (query : String) (reported : List Match) : Prop :=
  List.Forall₂ (fun matcher result => ∀ found, matcher.run query = some found →
    result.matcher = matcher.name ∧ result.matchedText = .ofList (found.ungrouped query.toList))
    (catalog.selected query) reported

/-- Nothing is read from null, and the matches that are returned are disjoint and have the right texts. -/
def Sound (catalog : GroupCatalog) (query : String) : Prop :=
  ∃ outcome, catalog.findMatch query = .ok outcome ∧ ∀ reported, outcome = .ok reported →
    catalog.Disjoint query ∧ catalog.Extracted query reported

/-- The ranges of a matcher with groups and of any other have nothing in common. -/
def GroupedApart (catalog : GroupCatalog) (query : String) : Prop :=
  (catalog.selected query).Pairwise fun a b => ∀ fa fb, a.run query = some fa → b.run query = some fb →
    a.numberOfCapturingGroups ≠ 0 ∨ b.numberOfCapturingGroups ≠ 0 → Apart fa.full fb.full

def GapsCopied (catalog : GroupCatalog) (query : String) : Prop :=
  ∀ matcher ∈ catalog.selected query, ∀ found, matcher.run query = some found →
    CopiesGaps found.full.2 found.full.1 found.full.1 found.ranges

theorem disjoint_iff (accepts : catalog.Accepts query) : catalog.Disjoint query ↔ catalog.GroupedApart query := by
  constructor
  · exact fun disjoint => disjoint.imp fun apart fa fb ra rb _ => apart fa fb ra rb
  · intro grouped
    refine (accepts.views.and grouped).imp fun {a b} both fa fb ra rb => ?_
    by_cases views : a.numberOfCapturingGroups = 0 ∧ b.numberOfCapturingGroups = 0
    · exact both.1 fa fb ra rb views.1 views.2
    · exact both.2 fa fb ra rb (not_and_or.mp views)

theorem extracted_iff (accepts : catalog.Accepts query) :
    catalog.Extracted query (catalog.reports query) ↔ catalog.GapsCopied query := by
  have all := accepts.all
  unfold Extracted GapsCopied reports
  generalize catalog.selected query = selected at all ⊢
  induction selected with
  | nil => simp
  | cons matcher matchers ih =>
    obtain ⟨here, all⟩ := List.forall_mem_cons.mp all
    obtain ⟨found, run⟩ := Option.isSome_iff_exists.mp here
    have reported : (matcher.run query).map (matcher.report query) = some (matcher.report query found) := by
      rw [run, Option.map_some]
    have rest : _ ↔ _ := ih all
    rw [List.filterMap_cons_some (f := fun m : GroupMatcher => (m.run query).map (m.report query)) reported,
      List.forall₂_cons, rest, List.forall_mem_cons, run]
    refine and_congr_left fun _ => ?_
    simp only [Option.some.injEq, forall_eq']
    rw [← charsAt_copied_iff Submatches.ranges_within found.full_within.1 found.full_within.2]
    exact ⟨fun same => String.ofList_injective same.2, fun same => ⟨rfl, congrArg String.ofList same⟩⟩

/-- The matches are right if all groups take part, no match with groups has anything in common with another one,
and whatever is copied is outside of all groups. -/
theorem findMatch_sound_iff (catalog : GroupCatalog) (query : String) : catalog.Sound query ↔
    catalog.NoneUnset query ∧ (catalog.Accepts query → catalog.GroupedApart query ∧ catalog.GapsCopied query) := by
  constructor
  · rintro ⟨outcome, ok, right⟩
    have safe := findMatch_ok_iff.mp ⟨outcome, ok⟩
    refine ⟨safe, fun accepts => ?_⟩
    rw [findMatch_eq safe] at ok
    obtain ⟨disjoint, extracted⟩ := right _
      ((Except.ok.inj ok).symm.trans ((findMatch_toCatalog_iff safe).mpr ⟨accepts, rfl⟩))
    exact ⟨(disjoint_iff accepts).mp disjoint, (extracted_iff accepts).mp extracted⟩
  · rintro ⟨safe, right⟩
    refine ⟨_, findMatch_eq safe, fun reported ok => ?_⟩
    obtain ⟨accepts, rfl⟩ := (findMatch_toCatalog_iff safe).mp ok
    obtain ⟨apart, copies⟩ := right accepts
    exact ⟨(disjoint_iff accepts).mpr apart, (extracted_iff accepts).mpr copies⟩

/-! ### Matches that are not right -/

def sample (name : String) (full : Range) (groups : List (Option Range)) (full_ordered : full.1 ≤ full.2)
    (groups_within : ∀ group, some group ∈ groups → full.1 ≤ group.1 ∧ group.1 ≤ group.2 ∧ group.2 ≤ full.2) :
    GroupMatcher where
  name := name
  numberOfCapturingGroups := groups.length
  run query :=
    if within : full.2 ≤ query.toList.length then some ⟨full, groups, ⟨full_ordered, within⟩, groups_within⟩ else none
  groups_length := by
    intro query found run
    split at run
    · cases run
      rfl
    · cases run

/-- `(b)`, `ab`, `((a)b)` and `ab(x)?` in the query `ab`. -/
def lastLetter : GroupMatcher := sample "last" (1, 2) [some (1, 2)] (by decide) (by simp)

def bothLetters : GroupMatcher := sample "both" (0, 2) [] (by decide) (by simp)

def nestedGroups : GroupMatcher := sample "nested" (0, 2) [some (0, 2), some (0, 1)] (by decide) (by simp)

def optionalGroup : GroupMatcher := sample "optional" (0, 2) [none] (by decide) (by simp)

def everything (matchers : List GroupMatcher) : GroupCatalog := ⟨matchers, fun _ => List.finRange matchers.length⟩

/-- A match with groups is not compared with another one, what is behind an inner group is copied again, and a
group that is unset makes a copy start at null. -/
theorem findMatch_not_sound : ¬ (everything [lastLetter, bothLetters]).Sound "ab" ∧
    ¬ (everything [nestedGroups]).Sound "ab" ∧ ¬ (everything [optionalGroup]).Sound "ab" := by
  refine ⟨?_, ?_, ?_⟩
  · rintro ⟨outcome, ok, right⟩
    have found : (everything [lastLetter, bothLetters]).findMatch "ab" =
      .ok (.ok [⟨"last", "", none⟩, ⟨"both", "ab", some (0, 2)⟩]) := rfl
    rw [found] at ok
    obtain ⟨disjoint, -⟩ := right _ (Except.ok.inj ok).symm
    obtain ⟨first, -⟩ := List.pairwise_cons.mp disjoint
    -- the second letter is in both
    exact first bothLetters (List.mem_singleton_self _) _ _ rfl rfl 1 ⟨by decide, by decide⟩
  · rintro ⟨outcome, ok, right⟩
    have found : (everything [nestedGroups]).findMatch "ab" = .ok (.ok [⟨"nested", "b", none⟩]) := rfl
    rw [found] at ok
    obtain ⟨-, extracted⟩ := right _ (Except.ok.inj ok).symm
    have text := ((List.forall₂_cons.mp extracted).1 _ rfl).2
    exact absurd text (by decide)
  · rintro ⟨outcome, ok, right⟩
    cases ok

end GroupCatalog

end FlutterZero.LicensesCpp
