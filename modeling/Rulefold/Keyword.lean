/-!
# Closed vocabularies

A vocabulary is a finite type whose words each have one spelling. The class `Keyword` lists the
words of a vocabulary and spells them; `Keyword.ofText?` reads a word back. Reading accepts
exactly the spellings: `Keyword.ofText?_eq_some_iff`.
-/

namespace Rulefold

/-- A closed vocabulary: its words, and the one spelling of each. -/
class Keyword (α : Type) where
  /-- Every word of the vocabulary, in its customary order. -/
  all : List α
  /-- The spelling of a word. -/
  text : α → String
  /-- No word is missing from the list. -/
  mem_all : ∀ word, word ∈ all
  /-- No two words of the list are spelled alike. -/
  nodup_text : (all.map text).Nodup

namespace Keyword

variable {α : Type} [Keyword α]

/-- The word with the given spelling; the comparison is exact. -/
def ofText? (spelling : String) : Option α :=
  (all : List α).find? fun word => text word == spelling

/-- Words with one spelling are one word. -/
theorem text_injective {first second : α} (sameText : text first = text second) :
    first = second := by
  have pairwise := List.pairwise_map.1 (nodup_text (α := α))
  by_cases same : first = second
  · exact same
  · have apart : ∀ {words : List α}, words.Pairwise (fun one two => text one ≠ text two) →
        first ∈ words → second ∈ words → False := by
      intro words
      induction words with
      | nil => simp
      | cons word rest ih =>
        intro pairwise memFirst memSecond
        rw [List.pairwise_cons] at pairwise
        rcases List.mem_cons.1 memFirst with isFirst | memFirst
        · rcases List.mem_cons.1 memSecond with isSecond | memSecond
          · exact same (isFirst.trans isSecond.symm)
          · exact pairwise.1 _ memSecond (isFirst ▸ sameText)
        · rcases List.mem_cons.1 memSecond with isSecond | memSecond
          · exact pairwise.1 _ memFirst (isSecond ▸ sameText.symm)
          · exact ih pairwise.2 memFirst memSecond
    exact (apart pairwise (mem_all first) (mem_all second)).elim

/-- Reading accepts a text exactly when it spells a word, and answers that word. -/
theorem ofText?_eq_some_iff {spelling : String} {word : α} :
    ofText? spelling = some word ↔ text word = spelling := by
  constructor
  · intro found
    simpa using List.find?_some found
  · intro spelled
    cases found : (ofText? spelling : Option α) with
    | none =>
      have unmatched := List.find?_eq_none.1 found word (mem_all word)
      simp [spelled] at unmatched
    | some other =>
      have otherSpelled : text other = spelling := by simpa using List.find?_some found
      rw [text_injective (otherSpelled.trans spelled.symm)]

end Keyword

/-- A text that spells no word of a vocabulary. -/
structure UnknownWord where
  spelling : String
  deriving DecidableEq

/-- The wording for an unknown word. -/
def UnknownWord.message (_ : UnknownWord) : String := "Matching variant not found"

/-- Reads a word, or answers the text that spells none. -/
def Keyword.read {α : Type} [Keyword α] (spelling : String) : Except UnknownWord α :=
  match ofText? spelling with
  | some word => .ok word
  | none => .error { spelling }

end Rulefold
