/-!
# Checked access

Work on a chain goes by the indices of rules, statements and columns. Each access is checked here:
where a list has nothing at an index, or where a difference would be below zero, the answer is a
fault. `Chain.fold` never comes to one.
-/

namespace Rulefold

/-- Why work on a chain cannot go on. -/
inductive Fault where
  /-- A rule has no match in a column that is to be gathered. -/
  | notAMatch (rule column : Nat)
  /-- There are fewer than two rules, or there is no selector. -/
  | degenerate (rules selectors : Nat)
  /-- An index is not below the length of a list. -/
  | beyondEnd (index length : Nat)
  /-- A range of indices ends behind the end of a list. -/
  | rangeBeyondEnd (stop length : Nat)
  /-- A range of indices ends before it starts. -/
  | rangeReversed (start stop : Nat)
  /-- More is to be taken from a number than it holds. -/
  | belowZero
  deriving DecidableEq

/-- The wording of a fault. -/
def Fault.message : Fault → String
  | notAMatch rule column =>
    s!"Cannot merge non-match statement (rule {rule}, shape {column})"
  | degenerate rules selectors =>
    s!"Cannot merge {rules} rule(s) on {selectors} selector(s)"
  | beyondEnd index length =>
    s!"index out of bounds: the len is {length} but the index is {index}"
  | rangeBeyondEnd stop length =>
    s!"range end index {stop} out of range for slice of length {length}"
  | rangeReversed start stop => s!"slice index starts at {start} but ends at {stop}"
  | belowZero => "attempt to subtract with overflow"

namespace Checked

variable {α : Type}

/-- The entry of a list at an index. -/
def get (entries : List α) (index : Nat) : Except Fault α :=
  match entries[index]? with
  | some entry => .ok entry
  | none => .error (.beyondEnd index entries.length)

/-- A list with another entry at an index. -/
def set (entries : List α) (index : Nat) (entry : α) : Except Fault (List α) :=
  if index < entries.length then .ok (entries.set index entry)
  else .error (.beyondEnd index entries.length)

/-- A list without its entry at an index. -/
def erase (entries : List α) (index : Nat) : Except Fault (List α) :=
  if index < entries.length then .ok (entries.eraseIdx index)
  else .error (.beyondEnd index entries.length)

/-- Checks that the indices from one up to another, both included, are a range of a list. -/
def range (length first last : Nat) : Except Fault Unit :=
  if last + 1 < first then .error (.rangeReversed first (last + 1))
  else if length < last + 1 then .error (.rangeBeyondEnd (last + 1) length)
  else .ok ()

/-- The entries of a list from one index up to another, both included. -/
def slice (entries : List α) (first last : Nat) : Except Fault (List α) := do
  range entries.length first last
  return (entries.take (last + 1)).drop first

/-- A list with one entry at all indices from one up to another, both included. -/
def fill (entries : List α) (first last : Nat) (entry : α) : Except Fault (List α) := do
  range entries.length first last
  return entries.take first ++ List.replicate (last + 1 - first) entry ++ entries.drop (last + 1)

/-- What is left of a number when another is taken from it. -/
def sub (number taken : Nat) : Except Fault Nat :=
  if taken ≤ number then .ok (number - taken) else .error .belowZero

theorem get_eq_ok {entries : List α} {index : Nat} {entry : α}
    (found : entries[index]? = some entry) : get entries index = .ok entry := by
  rw [get, found]

theorem set_eq_ok {entries : List α} {index : Nat} (inside : index < entries.length)
    (entry : α) : set entries index entry = .ok (entries.set index entry) :=
  if_pos inside

theorem erase_eq_ok {entries : List α} {index : Nat} (inside : index < entries.length) :
    erase entries index = .ok (entries.eraseIdx index) :=
  if_pos inside

theorem range_eq_ok {length first last : Nat} (ordered : first ≤ last + 1)
    (inside : last < length) : range length first last = .ok () := by
  rw [range, if_neg (by omega), if_neg (by omega)]

theorem slice_eq_ok {entries : List α} {first last : Nat} (ordered : first ≤ last + 1)
    (inside : last < entries.length) :
    slice entries first last = .ok ((entries.take (last + 1)).drop first) := by
  rw [slice, range_eq_ok ordered inside]
  rfl

theorem fill_eq_ok {entries : List α} {first last : Nat} (ordered : first ≤ last + 1)
    (inside : last < entries.length) (entry : α) : fill entries first last entry =
      .ok (entries.take first ++ List.replicate (last + 1 - first) entry ++
        entries.drop (last + 1)) := by
  rw [fill, range_eq_ok ordered inside]
  rfl

theorem sub_eq_ok {number taken : Nat} (enough : taken ≤ number) :
    sub number taken = .ok (number - taken) :=
  if_pos enough

end Checked

end Rulefold
