import Rulefold.Proofs.FixedPoint

/-!
# Where a chain falls apart

The segments of a grid hold the longest stretches of rules in which each belongs in one run with
the next. So it can be told from the rules alone where a chain falls into segments, and the
numbering of the columns does not count. What a segment leaves is another matter: the order of the
columns shows in the order of the components of a tuple.
-/

namespace Rulefold

section SplitBy

variable {α β : Type} {related : α → α → Bool}

theorem splitBy_eq {list : List α} {parts : List (List α)} (flatten : list = parts.flatten)
    (noneEmpty : [] ∉ parts)
    (inside : ∀ part ∈ parts, part.IsChain fun first second => related first second = true)
    (between : parts.IsChain fun first second =>
      ∀ last ∈ first.getLast?, ∀ head ∈ second.head?, related last head = false) :
    list.splitBy related = parts := by
  rw [List.splitBy_eq_iff]
  refine ⟨flatten, noneEmpty, inside, ?_⟩
  apply between.imp_of_mem_imp
  intro first second firstMember secondMember apart
  have firstNotNil : first ≠ [] := fun empty => noneEmpty (empty ▸ firstMember)
  have secondNotNil : second ≠ [] := fun empty => noneEmpty (empty ▸ secondMember)
  exact ⟨firstNotNil, secondNotNil, apart _ (List.getLast?_eq_some_getLast firstNotNil) _
    (List.head?_eq_some_head secondNotNil)⟩

section Each

variable {each : β → List α} {items : List β}

theorem exists_getLast?_flatMap (ne_nil : ∀ item ∈ items, each item ≠ []) {last : α}
    (isLast : last ∈ (items.flatMap each).getLast?) :
    ∃ item ∈ items.getLast?, last ∈ (each item).getLast? := by
  rcases List.eq_nil_or_concat' items with rfl | ⟨before, item, rfl⟩
  · cases isLast
  · have notNil := ne_nil item (by simp)
    refine ⟨item, by simp, ?_⟩
    rwa [List.flatMap_append, List.flatMap_singleton,
      List.getLast?_append_of_ne_nil _ notNil] at isLast

theorem exists_head?_flatMap (ne_nil : ∀ item ∈ items, each item ≠ []) {head : α}
    (isHead : head ∈ (items.flatMap each).head?) :
    ∃ item ∈ items.head?, head ∈ (each item).head? := by
  cases items with
  | nil => cases isHead
  | cons item rest =>
      have notNil := ne_nil item (by simp)
      refine ⟨item, rfl, ?_⟩
      rwa [List.flatMap_cons, List.head?_append_of_ne_nil _ notNil] at isHead

/-- Items that stand for lists are split as the lists are, if they meet as the lists do. -/
theorem splitBy_flatMap {meets : β → β → Bool} (ne_nil : ∀ item ∈ items, each item ≠ [])
    (inside : ∀ item ∈ items, (each item).IsChain fun first second => related first second = true)
    (between : ∀ first ∈ items, ∀ second ∈ items, ∀ last ∈ (each first).getLast?,
      ∀ head ∈ (each second).head?, related last head = meets first second) :
    (items.flatMap each).splitBy related = (items.splitBy meets).map (List.flatMap each) := by
  have notNilOf : ∀ part ∈ items.splitBy meets, ∀ item ∈ part, each item ≠ [] :=
    fun part inSplit item inPart => ne_nil item (mem_of_mem_splitBy inSplit inPart)
  apply splitBy_eq
  · rw [← List.flatMap_def, ← List.flatMap_assoc, List.flatMap_id', List.flatten_splitBy]
  · intro member
    rcases List.mem_map.mp member with ⟨part, inSplit, empty⟩
    rcases List.exists_mem_of_ne_nil part (List.ne_nil_of_mem_splitBy inSplit) with ⟨item, inPart⟩
    exact notNilOf part inSplit item inPart (List.flatMap_eq_nil_iff.mp empty item inPart)
  · rw [List.forall_mem_map]
    intro part inSplit
    have noneEmpty : [] ∉ part.map each := by
      intro inMap
      rcases List.mem_map.mp inMap with ⟨item, inPart, empty⟩
      exact notNilOf part inSplit item inPart empty
    -- A part is a chain, because its items are and because neighbours among them meet.
    rw [List.flatMap_def, List.isChain_flatten noneEmpty, List.isChain_map]
    refine ⟨?_, ?_⟩
    · rw [List.forall_mem_map]
      exact fun item inPart => inside item (mem_of_mem_splitBy inSplit inPart)
    · apply (List.isChain_of_mem_splitBy inSplit).imp_of_mem_imp
      intro first second firstMember secondMember meet last isLast head isHead
      rw [between first (mem_of_mem_splitBy inSplit firstMember) second
        (mem_of_mem_splitBy inSplit secondMember) last isLast head isHead]
      exact meet
  · rw [List.isChain_map]
    apply (isChain_splitBy meets items).imp_of_mem_imp
    intro first second firstMember secondMember apart last isLast head isHead
    rcases exists_getLast?_flatMap (notNilOf first firstMember) isLast with ⟨item, atEnd, isLast⟩
    rcases exists_head?_flatMap (notNilOf second secondMember) isHead with ⟨other, atStart, isHead⟩
    rcases apart item atEnd other atStart with ⟨itemMember, otherMember, doNotMeet⟩
    rw [between item itemMember other otherMember last isLast head isHead]
    exact doNotMeet

end Each

theorem splitBy_map (each : β → α) (items : List β) : (items.map each).splitBy related =
    (items.splitBy fun first second => related (each first) (each second)).map
      (List.map each) := by
  have split := @splitBy_flatMap α β related (fun item => [each item]) items
    (fun first second => related (each first) (each second)) (by simp) (by simp) (by simp)
  have single : (List.flatMap fun item => [each item]) = List.map each :=
    funext fun items => List.map_eq_flatMap.symm
  rwa [single] at split

/-- Related neighbours are in one part. -/
theorem exists_mem_of_related {parts : List (List α)} (noneEmpty : [] ∉ parts)
    (between : parts.IsChain fun first second =>
      ∀ last ∈ first.getLast?, ∀ head ∈ second.head?, related last head = false)
    {before after : List α} {first second : α}
    (flatten : parts.flatten = before ++ first :: second :: after)
    (neighbours : related first second = true) :
    ∃ part ∈ parts, first ∈ part ∧ second ∈ part := by
  induction parts generalizing before with
  | nil => simp at flatten
  | cons part rest ih =>
      rw [List.mem_cons, not_or] at noneEmpty
      have later : ∀ before : List α, rest.flatten = before ++ first :: second :: after →
          ∃ other ∈ part :: rest, first ∈ other ∧ second ∈ other := by
        intro before flatten
        rcases ih noneEmpty.2 between.tail flatten with ⟨other, member, both⟩
        exact ⟨other, List.mem_cons_of_mem part member, both⟩
      rw [List.flatten_cons, List.append_eq_append_iff] at flatten
      rcases flatten with ⟨added, -, flatten⟩ | ⟨ending, isPart, flatten⟩
      · exact later added flatten
      · match ending, flatten with
        | [], flatten => exact later [] flatten.symm
        | [last], flatten =>
            rw [List.singleton_append, List.cons.injEq] at flatten
            rcases flatten with ⟨rfl, flatten⟩
            have isHead : second ∈ (rest.flatMap id).head? := by
              rw [List.flatMap_id, ← flatten]
              rfl
            have notNil : ∀ other ∈ rest, id other ≠ [] :=
              fun other member empty => noneEmpty.2 (empty ▸ member)
            rcases exists_head?_flatMap notNil isHead with ⟨other, isNext, isHead⟩
            have apart := (List.isChain_cons.mp between).1 other isNext first
              (by simp [isPart]) second isHead
            rw [neighbours] at apart
            cases apart
        | last :: next :: _, flatten =>
            simp only [List.cons_append, List.cons.injEq] at flatten
            rcases flatten with ⟨rfl, rfl, -⟩
            exact ⟨part, by simp, by simp [isPart]⟩

theorem exists_mem_splitBy {list before after : List α} {first second : α}
    (split : list = before ++ first :: second :: after)
    (neighbours : related first second = true) :
    ∃ part ∈ list.splitBy related, first ∈ part ∧ second ∈ part := by
  have between : (list.splitBy related).IsChain fun first second =>
      ∀ last ∈ first.getLast?, ∀ head ∈ second.head?, related last head = false :=
    (isChain_splitBy related list).imp fun _ _ apart last isLast head isHead =>
      (apart last isLast head isHead).2.2
  have flatten : (list.splitBy related).flatten = before ++ first :: second :: after := by
    rw [List.flatten_splitBy, split]
  exact exists_mem_of_related (List.nil_notMem_splitBy related list) between flatten neighbours

end SplitBy

namespace Rule

variable {first second third : Rule}

instance : Decidable first.Plain :=
  decidable_of_iff (none ∉ first.shapes ∧ first.shapes.Nodup)
    ⟨fun ⟨shaped, nodup⟩ => ⟨shaped, nodup⟩, fun plain => ⟨plain.shaped, plain.nodup⟩⟩

instance : Decidable (first.Alike second) :=
  decidable_of_iff (first.Plain ∧ second.Plain ∧
      (∀ shape ∈ first.shapes, shape ∈ second.shapes) ∧
      ∀ shape ∈ second.shapes, shape ∈ first.shapes)
    ⟨fun ⟨left, right, subset, superset⟩ =>
      ⟨left, right, fun shape => ⟨subset shape, superset shape⟩⟩,
    fun alike => ⟨alike.left, alike.right, fun shape => (alike.mem_shapes_iff shape).mp,
      fun shape => (alike.mem_shapes_iff shape).mpr⟩⟩

instance : Decidable (first.Joins second) :=
  decidable_of_iff (first.Alike second ∧ first.tests ≠ [] ∧ (first.tests.length = 1 ∨
      ∀ test ∈ first.tests ++ second.tests, test.right.isSet = false))
    ⟨fun ⟨alike, someTest, oneOrFree⟩ => ⟨alike, someTest, oneOrFree⟩,
    fun joins => ⟨joins.alike, joins.tests_ne_nil, joins.one_or_free⟩⟩

/-- Says whether two rules belong in one run when they follow one another. -/
def joins (first second : Rule) : Bool := decide (first.Joins second)

theorem joins_iff : first.joins second = true ↔ first.Joins second := decide_eq_true_iff

theorem joins_eq_false_iff : first.joins second = false ↔ ¬first.Joins second :=
  decide_eq_false_iff_not

end Rule

namespace Grid

variable {grid : Grid}

/-- The segment that rows which belong together make up. -/
def segmentOf (grid : Grid) : List Row → Segment
  | [row] => .kept row
  | rows => .merged { rows, selectors := grid.sharedSelectors rows }

theorem segmentOf_rows (sound : grid.Sound) {segment : Segment} (member : segment ∈ grid.segments) :
    grid.segmentOf segment.rows = segment := by
  cases segment with
  | kept row => rfl
  | merged run =>
      have proper := proper_of_mem_segments sound member
      have two_le := proper.two_le
      rcases run with ⟨rows, selectors⟩
      match rows, two_le with
      | first :: second :: rest, _ =>
          have shared := proper.selectors_eq first (by simp)
          simp only [Segment.rows, segmentOf, sharedSelectors, shared]

theorem rows_segmentOf (rows : List Row) : (grid.segmentOf rows).rows = rows := by
  match rows with
  | [] => rfl
  | [row] => rfl
  | _ :: _ :: _ => rfl

theorem isChain_rows (sound : grid.Sound) {segment : Segment} (member : segment ∈ grid.segments) :
    segment.rows.IsChain fun first second => first.rule.joins second.rule = true := by
  cases segment with
  | kept row => exact .singleton row
  | merged run =>
      have proper := proper_of_mem_segments sound member
      refine List.Pairwise.isChain (List.pairwise_of_forall_mem_list ?_)
      intro first firstMember second secondMember
      exact Rule.joins_iff.mpr (proper.joins sound firstMember secondMember)

/-- The rows of a grid, split where two rules do not belong together, are those of its segments. -/
theorem map_rows_segments (sound : grid.Sound) : grid.segments.map Segment.rows =
    grid.rows.splitBy fun first second => first.rule.joins second.rule := by
  symm
  apply splitBy_eq
  · rw [← List.flatMap_def, flatMap_rows_segments]
  · intro member
    rcases List.mem_map.mp member with ⟨segment, inGrid, empty⟩
    exact Segment.rows_ne_nil sound inGrid empty
  · rw [List.forall_mem_map]
    exact fun segment inGrid => isChain_rows sound inGrid
  · rw [List.isChain_map]
    apply (isChain_segments sound).imp
    intro first second meets last isLast head isHead
    exact Rule.joins_eq_false_iff.mpr (meets last isLast head isHead)

/-- The segments of a grid are determined by the rules, up to the columns. -/
theorem segments_eq (sound : grid.Sound) : grid.segments =
    (grid.rows.splitBy fun first second => first.rule.joins second.rule).map grid.segmentOf := by
  rw [← map_rows_segments sound, List.map_map, List.map_congr_left, List.map_id]
  intro segment member
  exact segmentOf_rows sound member

/-- It can be told from the rules where a grid falls into segments. -/
theorem map_rules_segments (sound : grid.Sound) :
    grid.segments.map (fun segment => segment.rows.map Row.rule) =
      (grid.rows.map Row.rule).splitBy Rule.joins := by
  rw [splitBy_map, ← map_rows_segments sound, List.map_map]
  rfl

end Grid

end Rulefold
