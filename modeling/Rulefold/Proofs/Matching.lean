import Rulefold.Proofs.Cases
import Rulefold.Proofs.Folding

/-!
# Folding preserves what matches

A gathered match holds when all tests of one of the rules do, whether the values are gathered in a
set or the tuples in a set of tuples. So a survivor fires exactly when a rule that it stands for
does, and the first rule to fire in a chain is answered by the survivor that stands for it.
-/

namespace Rulefold

theorem Match.Tests.eq_field {subject : Field} {test : Match} (tests : test.Tests subject) :
    test = .field subject test.right := by
  rcases test with ⟨op, left, right⟩
  rcases tests with ⟨rfl, rfl⟩
  rfl

theorem Match.has_anonymous_gatheredFlags (selectors : Nat) :
    (gatheredFlags selectors).has .anonymous = true := by
  unfold gatheredFlags
  split <;> decide

namespace Packet

/-- Says whether fields, one or several, have their values in the key of an element. -/
def HasKey (packet : Packet) : List Field → Expr → Prop
  | [subject], key => packet.satisfies (.field subject key) = true
  | subjects, key => ∃ values, key = .concat values ∧
      List.Forall₂ (fun subject value => packet.satisfies (.field subject value) = true)
        subjects values

variable {packet : Packet}

theorem exists_mem_members_iff {subject : Field} {value : Expr} :
    (∃ element ∈ value.members, packet.satisfies (.field subject element.key) = true) ↔
      packet.satisfies (.field subject value) = true := by
  unfold Expr.members
  split
  · rename_i elements isElements
    rcases Expr.anonymousElements?_eq_some_iff.mp isElements with ⟨flags, rfl, anonymous⟩
    rw [packet.satisfies_set subject flags elements anonymous, List.any_eq_true]
  · simp [Expr.key]

theorem forall₂_right_iff {subjects : List Field} {table : List Match}
    (tested : List.Forall₂ Match.Tests subjects table) :
    List.Forall₂ (fun subject value => packet.satisfies (.field subject value) = true)
        subjects (table.map Match.right) ↔
      ∀ test ∈ table, packet.satisfies test = true := by
  induction tested with
  | nil => simp
  | cons tests _ ih =>
      rw [List.map_cons, List.forall₂_cons, ih, List.forall_mem_cons, ← tests.eq_field]

/-- The members that the tests of a rule bring to the set stand for all the tests together. -/
theorem exists_mem_joinedMembers_iff {subjects : List Field} {table : List Match}
    (tested : List.Forall₂ Match.Tests subjects table) (someSubject : subjects ≠ []) :
    (∃ element ∈ Match.joinedMembers table, packet.HasKey subjects element.key) ↔
      ∀ test ∈ table, packet.satisfies test = true := by
  match subjects, table, tested with
  | [subject], [test], .cons tests .nil =>
      simp only [Match.joinedMembers, HasKey, exists_mem_members_iff, ← tests.eq_field,
        List.forall_mem_singleton]
  | first :: second :: rest, firstTest :: secondTest :: tests, tested =>
      rw [← forall₂_right_iff tested]
      simp [Match.joinedMembers, HasKey, Expr.key]

theorem satisfies_gather_iff_hasKey {subjects : List Field} {first : List Match}
    (tested : List.Forall₂ Match.Tests subjects first) (someSubject : subjects ≠ [])
    (others : List (List Match)) :
    packet.satisfies (Match.gather first others) = true ↔
      ∃ element ∈ (first :: others).flatMap Match.joinedMembers,
        packet.HasKey subjects element.key := by
  rw [← Expr.exists_mem_distinct_iff]
  have anonymous := Match.has_anonymous_gatheredFlags first.length
  match subjects, first, tested with
  | [subject], [test], .cons tests .nil =>
      have isField := packet.satisfies_set subject _
        (Expr.distinct (([test] :: others).flatMap Match.joinedMembers)) anonymous
      rw [Match.field, ← tests.2] at isField
      rw [Match.gather, Match.joinedSubject, isField, List.any_eq_true]
      rfl
  | firstSubject :: secondSubject :: rest, firstTest :: secondTest :: tests, tested =>
      have lefts : (firstTest :: secondTest :: tests).map Match.left =
          (firstSubject :: secondSubject :: rest).map Expr.field := by
        rw [← List.forall₂_eq_eq_eq, List.forall₂_map_left_iff, List.forall₂_map_right_iff]
        exact tested.flip.imp fun _ _ tests => tests.2
      have isTuple := packet.satisfies_concat (firstSubject :: secondSubject :: rest) _
        (Expr.distinct (((firstTest :: secondTest :: tests) :: others).flatMap
          Match.joinedMembers)) anonymous
      rw [Match.fields, ← lefts] at isTuple
      exact isTuple

/-- A gathered match holds exactly when all tests of one of the rules do. -/
theorem satisfies_gather_iff {subjects : List Field} {first : List Match}
    {others : List (List Match)} (someSubject : subjects ≠ [])
    (tested : ∀ table ∈ first :: others, List.Forall₂ Match.Tests subjects table) :
    packet.satisfies (Match.gather first others) = true ↔
      ∃ table ∈ first :: others, ∀ test ∈ table, packet.satisfies test = true := by
  rw [satisfies_gather_iff_hasKey (tested first (by simp)) someSubject]
  constructor
  · intro found
    rcases found with ⟨element, member, hasKey⟩
    rcases List.mem_flatMap.mp member with ⟨table, inTables, inTable⟩
    refine ⟨table, inTables, ?_⟩
    exact (exists_mem_joinedMembers_iff (tested table inTables) someSubject).mp
      ⟨element, inTable, hasKey⟩
  · intro found
    rcases found with ⟨table, inTables, all⟩
    rcases (exists_mem_joinedMembers_iff (tested table inTables) someSubject).mpr all with
      ⟨element, inTable, hasKey⟩
    exact ⟨element, List.mem_flatMap.mpr ⟨table, inTables, inTable⟩, hasKey⟩

end Packet

namespace Run.Proper

variable {grid : Grid} {run : Run} {packet : Packet}

theorem satisfies_gathered_iff (proper : run.Proper grid) (sound : grid.Sound) :
    packet.satisfies run.gathered = true ↔
      ∃ row ∈ run.rows, packet.fires row.rule = true := by
  have tested : ∀ table ∈ run.tables,
      List.Forall₂ Match.Tests (run.selectors.filterMap grid.field?) table := by
    intro table member
    rcases List.mem_map.mp member with ⟨row, inRun, rfl⟩
    exact Row.forall₂_testList sound (proper.mem_grid row inRun) (proper.plain inRun)
      (proper.selectors_subset inRun)
  have fires_iff : ∀ row ∈ run.rows, packet.fires row.rule = true ↔
      ∀ test ∈ row.testList run.selectors, packet.satisfies test = true := by
    intro row inRun
    simp only [Packet.fires, List.all_eq_true, (proper.perm_testList sound inRun).mem_iff]
  rcases proper.exists_first with ⟨first, rest, rows⟩
  have tables : run.tables =
      first.testList run.selectors :: rest.map fun row => row.testList run.selectors := by
    rw [Run.tables, rows, List.map_cons]
  have someSubject : run.selectors.filterMap grid.field? ≠ [] := by
    intro empty
    have firstMember : first ∈ run.rows := by
      simp [rows]
    have sameLength := (tested (first.testList run.selectors) (by simp [tables])).length_eq
    rw [empty, Row.length_testList sound (proper.mem_grid first firstMember)
      (proper.plain firstMember) (proper.selectors_subset firstMember)] at sameLength
    exact proper.selectors_ne_nil (List.length_eq_zero_iff.mp sameLength.symm)
  have found : packet.satisfies run.gathered = true ↔
      ∃ table ∈ run.tables, ∀ test ∈ table, packet.satisfies test = true := by
    rw [tables] at tested
    rw [gathered, tables]
    exact Packet.satisfies_gather_iff someSubject tested
  rw [found, Run.tables]
  simp only [List.mem_map, exists_exists_and_eq_and]
  apply exists_congr
  intro row
  apply and_congr_right
  intro inRun
  exact (fires_iff row inRun).symm

theorem fires_survivor_iff (proper : run.Proper grid) (sound : grid.Sound) {survivor : Rule}
    (folds : run.fold = .ok survivor) :
    packet.fires survivor = true ↔ ∃ row ∈ run.rows, packet.fires row.rule = true := by
  rw [← proper.satisfies_gathered_iff sound, Packet.fires, proper.tests_survivor sound folds]
  simp

end Run.Proper

namespace Packet

variable {packet : Packet}

theorem fires_survivor_iff {grid : Grid} (sound : grid.Sound) {segment : Segment}
    (member : segment ∈ grid.segments) {survivor : Rule}
    (leaves : segment.survivor = .ok survivor) :
    packet.fires survivor = true ↔ ∃ row ∈ segment.rows, packet.fires row.rule = true := by
  cases segment with
  | kept row =>
      cases leaves
      simp [Segment.rows]
  | merged run =>
      exact (Grid.proper_of_mem_segments sound member).fires_survivor_iff sound leaves

/-- The first row to fire is in the segment of the first survivor to fire. -/
theorem findIdx?_survivors {segments : List Segment} {survivors : List Rule}
    (agree : List.Forall₂ (fun segment survivor =>
      packet.fires survivor = true ↔ ∃ row ∈ segment.rows, packet.fires row.rule = true)
      segments survivors) {row : Row}
    (first : (segments.flatMap Segment.rows).find? (fun row => packet.fires row.rule) = some row) :
    ∃ place ∈ survivors.findIdx? packet.fires, ∃ segment ∈ segments[place]?,
      row ∈ segment.rows := by
  induction agree with
  | nil => cases first
  | @cons segment survivor segments survivors here agree ih =>
      rw [List.flatMap_cons, List.find?_append] at first
      rw [List.findIdx?_cons]
      cases found : segment.rows.find? fun row => packet.fires row.rule with
      | some other =>
          rw [found, Option.some_or, Option.some_inj] at first
          subst first
          have inSegment := List.mem_of_find?_eq_some found
          have firesHere := List.find?_some found
          have fires := here.mpr ⟨other, inSegment, firesHere⟩
          exact ⟨0, by simp [fires], segment, rfl, inSegment⟩
      | none =>
          rw [found, Option.none_or] at first
          have silent : packet.fires survivor = false := by
            rw [← Bool.not_eq_true, here]
            simpa using found
          rcases ih first with ⟨place, isFirst, later, isLater, inLater⟩
          rw [Option.mem_def] at isFirst
          exact ⟨place + 1, by simp [silent, isFirst], later, isLater, inLater⟩

end Packet

namespace Chain

variable {config : Config} {files : Files} {chain : Chain}

/-- For each rule of the folded chain, the places of the rules that it stands for. -/
def stands (chain : Chain) : List (List Nat) :=
  chain.grid.segments.map fun segment => segment.rows.map Row.index

theorem flatten_stands : chain.stands.flatten = List.range chain.rules.length := by
  rw [stands, ← List.flatMap_def, ← List.map_flatMap, Grid.flatMap_rows_segments]
  exact Grid.map_index_rows_ofRules chain.rules

theorem find?_rows {packet : Packet} {first : Nat}
    (isFirst : chain.rules.findIdx? packet.fires = some first) :
    ∃ row, chain.grid.rows.find? (fun row => packet.fires row.rule) = some row ∧
      row.index = first := by
  rw [← chain.map_rule_rows, List.findIdx?_map, List.findIdx?_eq_some_iff_getElem] at isFirst
  rcases isFirst with ⟨inside, fires, before⟩
  refine ⟨chain.grid.rows[first], ?_, (Grid.getElem?_rows (List.getElem?_eq_getElem inside)).1⟩
  rw [List.find?_eq_some_iff_getElem]
  refine ⟨fires, first, inside, rfl, ?_⟩
  intro earlier isEarlier
  simpa using before earlier isEarlier

/-- Folding preserves what matches: a rule of the folded chain fires exactly when one of the rules
that it stands for does, and the first rule to fire is stood for by the first to fire afterwards. -/
theorem fires_fold {folded : Folded} (folds : chain.fold config files = .ok folded)
    (packet : Packet) :
    chain.stands.flatten = List.range chain.rules.length ∧
      List.Forall₂ (fun indices survivor => packet.fires survivor = true ↔
          ∃ index ∈ indices, ∃ rule ∈ chain.rules[index]?, packet.fires rule = true)
        chain.stands folded.chain.rules ∧
      ∀ first ∈ chain.rules.findIdx? packet.fires,
        ∃ place ∈ folded.chain.rules.findIdx? packet.fires,
          ∃ indices ∈ chain.stands[place]?, first ∈ indices := by
  have agree : List.Forall₂ (fun segment survivor => segment ∈ chain.grid.segments ∧
      (packet.fires survivor = true ↔ ∃ row ∈ segment.rows, packet.fires row.rule = true))
      chain.grid.segments folded.chain.rules := by
    refine (foldsTo_of_fold_eq_ok folds).survivors_mem.imp fun segment survivor here =>
      ⟨here.1, ?_⟩
    exact Packet.fires_survivor_iff chain.sound_grid here.1 here.2
  refine ⟨flatten_stands, ?_, ?_⟩
  · rw [stands, List.forall₂_map_left_iff]
    refine agree.imp fun segment survivor here => here.2.trans ?_
    simp only [List.mem_map, exists_exists_and_eq_and]
    apply exists_congr
    intro row
    apply and_congr_right
    intro inSegment
    have inGrid : row ∈ chain.grid.rows := by
      rw [← Grid.flatMap_rows_segments]
      exact List.mem_flatMap.mpr ⟨segment, here.1, inSegment⟩
    simp [Grid.getElem?_index inGrid]
  · intro first isFirst
    rcases find?_rows isFirst with ⟨row, found, rfl⟩
    rw [← Grid.flatMap_rows_segments] at found
    rcases Packet.findIdx?_survivors (agree.imp fun _ _ here => here.2) found with
      ⟨place, isPlace, segment, isSegment, inSegment⟩
    refine ⟨place, isPlace, segment.rows.map Row.index, ?_, List.mem_map_of_mem inSegment⟩
    rw [Option.mem_def] at isSegment ⊢
    rw [stands, List.getElem?_map, isSegment, Option.map_some]

/-- Two rules with two selectors, two with one, and one without. -/
def mixed : Chain := .ofStatements [
  [.number (.metadata .mark .unspecified) 1, .number (.route .mtu) 1, .verdict .accept none],
  [.number (.route .mtu) 2, .number (.metadata .mark .unspecified) 2, .verdict .accept none],
  [.number (.route .mtu) 3, .verdict .drop none],
  [.number (.route .mtu) 4, .verdict .drop none],
  [.verdict .accept none]]

theorem fires_fold_mixed : ∃ folded, mixed.fold .standard (.ofList []) = .ok folded ∧
    ∃ place ∈ folded.chain.rules.findIdx?
        (Packet.just [.field (.route .mtu) (.literal (.number 4))]).fires,
      ∃ indices ∈ mixed.stands[place]?, 3 ∈ indices := by
  have fits : mixed.grid.width ≤ Config.standard.maxShapes := by
    decide
  rcases exists_fold_of_width_le fits with ⟨folded, folds⟩
  exact ⟨folded, folds, (fires_fold folds (.just _)).2.2 3 (by decide)⟩

end Chain

end Rulefold
