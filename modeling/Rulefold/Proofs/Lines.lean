import Mathlib.Data.List.TakeWhile
import Rulefold.Location

/-!
# Two ways to a line

A line of a text can be found by the byte offset of its start or by its number, and both ways lead
to the same line. A carriage return before the newline counts as part of the line for the one and
as part of its end for the other; that is all in which they differ.
-/

namespace Rulefold

namespace Text

/-- The text of several lines, each of which is ended by a newline. -/
def ofLines (lines : List String) : String := String.join (lines.map (· ++ "\n"))

theorem ofLines_append (first second : List String) :
    ofLines (first ++ second) = ofLines first ++ ofLines second := by
  rw [ofLines, List.map_append, String.join_append]
  rfl

theorem ofLines_cons (line : String) (rest : List String) :
    ofLines (line :: rest) = line ++ ("\n" ++ ofLines rest) := by
  rw [ofLines, List.map_cons, String.join_cons, String.append_assoc]
  rfl

/-- The line of a number starts at a byte offset: ahead of it stand the lines before, each of them
ended by a newline. -/
def LineStarts (text : String) (number offset : Nat) : Prop :=
  ∃ (ended : List String) (rest : String), (∀ line ∈ ended, '\n' ∉ line.toList) ∧
    text = ofLines ended ++ rest ∧ ended.length + 1 = number ∧
    (ofLines ended).utf8ByteSize = offset

/-- A byte offset lies inside a character of a text. -/
def Splits (text : String) (offset : Nat) : Prop :=
  ∃ (before after : String) (char : Char), text = before ++ String.singleton char ++ after ∧
    before.utf8ByteSize < offset ∧ offset < before.utf8ByteSize + char.utf8Size

/-- A list without its last entry, if that is a given one. -/
def dropEnd {α : Type} [DecidableEq α] (ending : α) (entries : List α) : List α :=
  if entries.getLast? = some ending then entries.dropLast else entries

/-- A line without the carriage return at its end, if there is one. -/
def withoutReturn (line : String) : String := String.ofList (dropEnd '\r' line.toList)

section DropEnd

variable {α : Type} [DecidableEq α] {ending : α}

theorem dropEnd_sublist (entries : List α) : (dropEnd ending entries).Sublist entries := by
  unfold dropEnd
  split
  · exact List.dropLast_sublist entries
  · exact List.Sublist.refl entries

theorem dropEnd_concat (entries : List α) (last : α) : dropEnd ending (entries ++ [last]) =
    if last = ending then entries else entries ++ [last] := by
  simp [dropEnd]

theorem dropEnd_cons {entries : List α} (some_entries : entries ≠ []) (first : α) :
    dropEnd ending (first :: entries) = first :: dropEnd ending entries := by
  rcases List.eq_nil_or_concat entries with rfl | ⟨before, last, rfl⟩
  · exact absurd rfl some_entries
  · rw [List.concat_eq_append, ← List.cons_append, dropEnd_concat, dropEnd_concat]
    split <;> rfl

end DropEnd

section Bytes

variable {line : List UInt8}

theorem lines_of_newline_not_mem (free : newline ∉ line) (some_bytes : line ≠ []) :
    lines line = [line] := by
  induction line with
  | nil => exact absurd rfl some_bytes
  | cons byte line ih =>
      rw [List.mem_cons, not_or] at free
      have noEnd : ¬(byte = carriageReturn ∧ line.head? = some newline) := fun ends =>
        free.2 (List.mem_of_head? ends.2)
      rw [lines, if_neg (Ne.symm free.1), if_neg noEnd]
      by_cases empty : line = []
      · rw [empty, lines]
      · rw [ih free.2 empty]

/-- A line ends at the first newline, or at the carriage return right before it. -/
theorem lines_append (free : newline ∉ line) (rest : List UInt8) :
    lines (line ++ newline :: rest) = dropEnd carriageReturn line :: lines rest := by
  induction line with
  | nil =>
      rw [List.nil_append, lines, if_pos rfl]
      rfl
  | cons byte line ih =>
      rw [List.mem_cons, not_or] at free
      rw [List.cons_append, lines, if_neg (Ne.symm free.1), ih free.2]
      -- Only the last byte of the line can be a carriage return right before the newline.
      cases line with
      | nil =>
          by_cases isReturn : byte = carriageReturn
          · simp [isReturn, dropEnd]
          · simp [isReturn, dropEnd]
      | cons next line =>
          have noEnd : ¬(byte = carriageReturn ∧
              (next :: line ++ newline :: rest).head? = some newline) := by
            rintro ⟨-, ends⟩
            exact free.2 (List.mem_of_head? ends)
          rw [if_neg noEnd, dropEnd_cons (List.cons_ne_nil next line)]

end Bytes

/-- A character of ASCII is encoded in one byte, and the bytes of the others are beyond ASCII. -/
theorem utf8EncodeChar_cases (char : Char) :
    (char.toNat < 0x80 ∧ String.utf8EncodeChar char = [UInt8.ofNat char.toNat]) ∨
      (0x80 ≤ char.toNat ∧ ∀ byte ∈ String.utf8EncodeChar char, 0x80 ≤ byte.toNat) := by
  by_cases ascii : char.toNat < 0x80
  · refine .inl ⟨ascii, ?_⟩
    rw [String.utf8EncodeChar]
    exact if_pos (Nat.le_of_lt_succ ascii)
  · refine .inr ⟨Nat.le_of_not_lt ascii, ?_⟩
    fun_cases String.utf8EncodeChar with
    | case1 _ small => exact absurd (Nat.lt_succ_of_le small) ascii
    | _ =>
        simp only [List.forall_mem_cons, List.not_mem_nil, UInt8.toNat_ofNat', false_imp_iff,
          implies_true, and_true]
        omega

theorem encode_eq_flatMap (text : String) :
    encode text = text.toList.flatMap String.utf8EncodeChar := by
  rw [encode, ← String.utf8Encode_toList, List.utf8Encode, List.toList_data_toByteArray]

theorem length_encode (text : String) : (encode text).length = text.utf8ByteSize := rfl

section Ascii

variable {char : Char} (ascii : char.toNat < 0x80)

include ascii

theorem mem_utf8EncodeChar_iff {other : Char} :
    UInt8.ofNat char.toNat ∈ String.utf8EncodeChar other ↔ char = other := by
  have sameByte : (UInt8.ofNat char.toNat).toNat = char.toNat := by
    rw [UInt8.toNat_ofNat']
    omega
  rcases utf8EncodeChar_cases other with ⟨otherAscii, encoded⟩ | ⟨beyond, bytes⟩
  · rw [encoded, List.mem_singleton, ← UInt8.toNat_inj, sameByte, UInt8.toNat_ofNat',
      Nat.mod_eq_of_lt (by omega), Char.toNat_inj]
  · constructor
    · intro member
      have byteBeyond := bytes _ member
      omega
    · rintro rfl
      omega

theorem mem_encode_iff {text : String} :
    UInt8.ofNat char.toNat ∈ encode text ↔ char ∈ text.toList := by
  rw [encode_eq_flatMap, List.mem_flatMap]
  simp only [mem_utf8EncodeChar_iff ascii, exists_eq_right']

/-- The end of a text is dropped from its bytes as it is from its characters. -/
theorem encode_ofList_dropEnd (chars : List Char) :
    encode (String.ofList (dropEnd char chars)) =
      dropEnd (UInt8.ofNat char.toNat) (encode (String.ofList chars)) := by
  rcases List.eq_nil_or_concat chars with rfl | ⟨before, last, rfl⟩
  · rfl
  · have encoded : encode (String.ofList (before ++ [last])) =
        encode (String.ofList before) ++ String.utf8EncodeChar last := by
      simp [encode_eq_flatMap]
    rw [List.concat_eq_append, dropEnd_concat, encoded]
    by_cases same : last = char
    · subst same
      rcases utf8EncodeChar_cases last with ⟨-, single⟩ | ⟨beyond, -⟩
      · rw [if_pos rfl, single, dropEnd_concat, if_pos rfl]
      · exact absurd ascii (Nat.not_lt.mpr beyond)
    · rcases List.eq_nil_or_concat (String.utf8EncodeChar last) with nothing | ⟨bytes, byte, split⟩
      · exact absurd nothing String.utf8EncodeChar_ne_nil
      · have differ : byte ≠ UInt8.ofNat char.toNat := by
          rintro rfl
          exact same ((mem_utf8EncodeChar_iff ascii).mp (by simp [split])).symm
        rw [if_neg same, encoded, split, List.concat_eq_append, ← List.append_assoc,
          dropEnd_concat, if_neg differ]

end Ascii

section Encoded

variable {line : String} (free : '\n' ∉ line.toList)

include free

theorem newline_not_mem_encode : newline ∉ encode line :=
  mt (mem_encode_iff (show '\n'.toNat < 0x80 by decide)).mp free

theorem lines_encode (some_text : line ≠ "") : lines (encode line) = [encode line] := by
  apply lines_of_newline_not_mem (newline_not_mem_encode free)
  rwa [Ne, ← List.length_eq_zero_iff, length_encode, String.utf8ByteSize_eq_zero_iff]

theorem lines_encode_append (rest : String) : lines (encode (line ++ ("\n" ++ rest))) =
    encode (withoutReturn line) :: lines (encode rest) := by
  have ended : encode (line ++ ("\n" ++ rest)) = encode line ++ newline :: encode rest := by
    rw [encode_append, encode_append]
    rfl
  have trimmed : encode (withoutReturn line) = dropEnd carriageReturn (encode line) := by
    have dropped := encode_ofList_dropEnd (show '\r'.toNat < 0x80 by decide) line.toList
    rwa [String.ofList_toList] at dropped
  rw [ended, trimmed, lines_append (newline_not_mem_encode free)]

end Encoded

/-- Every text starts with a line, and the newline after it stands ahead of all others. -/
theorem exists_line (text : String) : ∃ line after : String, text = line ++ after ∧
    '\n' ∉ line.toList ∧ (after = "" ∨ ∃ rest, after = "\n" ++ rest) := by
  refine ⟨String.ofList (text.toList.takeWhile (· != '\n')),
    String.ofList (text.toList.dropWhile (· != '\n')), ?_, ?_, ?_⟩
  · rw [← String.ofList_append, List.takeWhile_append_dropWhile, String.ofList_toList]
  · rw [String.toList_ofList]
    intro member
    simpa using List.mem_takeWhile_imp member
  · cases behind : text.toList.dropWhile (· != '\n') with
    | nil => exact .inl rfl
    | cons char rest =>
        have isNewline := List.head?_dropWhile_not (· != '\n') text.toList
        rw [behind] at isNewline
        have isNewline : char = '\n' := by
          simpa using isNewline
        exact .inr ⟨String.ofList rest, by rw [isNewline, String.ofList_cons]; rfl⟩

theorem lines_encode_ofLines {ended : List String} (free : ∀ line ∈ ended, '\n' ∉ line.toList)
    (rest : String) : lines (encode (ofLines ended ++ rest)) =
      ended.map (fun line => encode (withoutReturn line)) ++ lines (encode rest) := by
  induction ended with
  | nil =>
      rw [ofLines, List.map_nil, String.join_nil, String.empty_append]
      rfl
  | cons line ended ih =>
      rw [List.forall_mem_cons] at free
      rw [ofLines_cons, String.append_assoc, String.append_assoc, lines_encode_append free.1,
        ih free.2]
      rfl

/-- The bytes of a text have as many lines as the text. -/
theorem exists_ended_of_lt {text : String} {count : Nat}
    (inside : count < (lines (encode text)).length) :
    ∃ (ended : List String) (rest : String), (∀ line ∈ ended, '\n' ∉ line.toList) ∧
      text = ofLines ended ++ rest ∧ ended.length = count ∧ rest ≠ "" := by
  induction count generalizing text with
  | zero =>
      refine ⟨[], text, List.forall_mem_nil _, (String.empty_append).symm, rfl, ?_⟩
      rintro rfl
      exact Nat.lt_irrefl 0 inside
  | succ count ih =>
      rcases exists_line text with ⟨line, after, rfl, free, rfl | ⟨rest, rfl⟩⟩
      · by_cases empty : line = ""
        · subst empty
          exact absurd inside (Nat.not_lt_zero _)
        · rw [String.append_empty, lines_encode free empty] at inside
          simp at inside
      · rw [lines_encode_append free, List.length_cons, Nat.succ_lt_succ_iff] at inside
        rcases ih inside with ⟨ended, last, allFree, rfl, length, some_last⟩
        refine ⟨line :: ended, last, List.forall_mem_cons.mpr ⟨free, allFree⟩, ?_, ?_, some_last⟩
        · rw [ofLines_cons, String.append_assoc, String.append_assoc]
        · rw [List.length_cons, length]

theorem utf8ByteSize_ofList_cons (char : Char) (chars : List Char) :
    (String.ofList (char :: chars)).utf8ByteSize =
      char.utf8Size + (String.ofList chars).utf8ByteSize := by
  rw [String.ofList_cons, String.utf8ByteSize_append, String.utf8ByteSize_singleton]

theorem dropBytes?_zero (chars : List Char) : dropBytes? 0 chars = some chars := by
  cases chars <;> rfl

theorem dropBytes?_cons {offset : Nat} (pos : 0 < offset) (char : Char) (chars : List Char) :
    dropBytes? offset (char :: chars) =
      if char.utf8Size ≤ offset then dropBytes? (offset - char.utf8Size) chars else none := by
  cases offset with
  | zero => exact absurd pos (Nat.lt_irrefl 0)
  | succ offset => rfl

theorem dropBytes?_append (before rest : List Char) :
    dropBytes? (String.ofList before).utf8ByteSize (before ++ rest) = some rest := by
  induction before with
  | nil => exact dropBytes?_zero rest
  | cons char before ih =>
      rw [utf8ByteSize_ofList_cons, List.cons_append,
        dropBytes?_cons (Nat.add_pos_left char.utf8Size_pos _), if_pos (Nat.le_add_right _ _),
        Nat.add_sub_cancel_left, ih]

/-- There is nothing to give behind an offset exactly if it lies beyond the end or inside a
character. -/
theorem dropBytes?_eq_none_iff {offset : Nat} {chars : List Char} :
    dropBytes? offset chars = none ↔ (String.ofList chars).utf8ByteSize < offset ∨
      ∃ (before after : List Char) (char : Char), chars = before ++ char :: after ∧
        (String.ofList before).utf8ByteSize < offset ∧
          offset < (String.ofList before).utf8ByteSize + char.utf8Size := by
  induction chars generalizing offset with
  | nil => cases offset <;> simp [dropBytes?]
  | cons char chars ih =>
      rcases Nat.eq_zero_or_pos offset with rfl | pos
      · simp [dropBytes?_zero]
      · rw [dropBytes?_cons pos, utf8ByteSize_ofList_cons]
        by_cases fits : char.utf8Size ≤ offset
        · rw [if_pos fits, ih]
          constructor
          · rintro (beyond | ⟨before, after, other, rfl, behind, ahead⟩)
            · exact .inl (by omega)
            · refine .inr ⟨char :: before, after, other, rfl, ?_⟩
              rw [utf8ByteSize_ofList_cons]
              omega
          · rintro (beyond | ⟨before, after, other, split, behind, ahead⟩)
            · exact .inl (by omega)
            · cases before with
              | nil =>
                  cases split
                  rw [String.ofList_nil, String.utf8ByteSize_empty] at ahead
                  omega
              | cons first before =>
                  cases split
                  rw [utf8ByteSize_ofList_cons] at behind ahead
                  exact .inr ⟨before, after, other, rfl, by omega, by omega⟩
        · rw [if_neg fits]
          refine iff_of_true rfl (.inr ⟨[], chars, char, rfl, pos, ?_⟩)
          rw [String.ofList_nil, String.utf8ByteSize_empty]
          omega

/-- What is found at an offset is the text up to the next newline or the end. -/
theorem lineAtOffset?_eq_some (before : String) {line after : String}
    (free : '\n' ∉ line.toList) (ends : after = "" ∨ ∃ rest, after = "\n" ++ rest) :
    lineAtOffset? (before ++ line ++ after) before.utf8ByteSize = some line := by
  have dropped := dropBytes?_append before.toList (line.toList ++ after.toList)
  rw [String.ofList_toList] at dropped
  have inLine : ∀ char ∈ line.toList, (char != '\n') = true := by
    intro char member
    exact bne_iff_ne.mpr fun isNewline => free (isNewline ▸ member)
  have stops : after.toList.takeWhile (· != '\n') = [] := by
    rcases ends with rfl | ⟨rest, rfl⟩
    · rfl
    · simp
  rw [lineAtOffset?, String.append_assoc, String.toList_append, String.toList_append, dropped,
    Option.map_some, List.takeWhile_append_of_pos inLine, stops, List.append_nil,
    String.ofList_toList]

theorem lineAtOffset?_eq_none_iff {text : String} {offset : Nat} :
    lineAtOffset? text offset = none ↔ text.utf8ByteSize < offset ∨ Splits text offset := by
  rw [lineAtOffset?, Option.map_eq_none_iff, dropBytes?_eq_none_iff, String.ofList_toList]
  refine or_congr_right ⟨?_, ?_⟩
  · rintro ⟨before, after, char, split, inside⟩
    refine ⟨String.ofList before, String.ofList after, char, ?_, inside⟩
    rw [← String.toList_inj, split]
    simp
  · rintro ⟨before, after, char, rfl, inside⟩
    refine ⟨before.toList, after.toList, char, by simp, ?_⟩
    rwa [String.ofList_toList]

/-- The bytes of a text that is not empty have its first line, without the line's end. -/
theorem getElem?_lines_encode {line after : String} (free : '\n' ∉ line.toList)
    (ends : after = "" ∨ ∃ rest, after = "\n" ++ rest) (some_text : line ++ after ≠ "") :
    (lines (encode (line ++ after)))[0]? =
      some (encode (if after = "" then line else withoutReturn line)) := by
  rcases ends with rfl | ⟨rest, rfl⟩
  · rw [String.append_empty] at some_text ⊢
    rw [lines_encode free some_text, if_pos rfl]
    rfl
  · rw [lines_encode_append free, if_neg (by simp)]
    rfl

theorem lineAtNumber?_eq_some {ended : List String}
    (endedFree : ∀ line ∈ ended, '\n' ∉ line.toList) {line after : String}
    (free : '\n' ∉ line.toList) (ends : after = "" ∨ ∃ rest, after = "\n" ++ rest)
    (some_text : line ++ after ≠ "") :
    lineAtNumber? (encode (ofLines ended ++ (line ++ after))) (ended.length + 1) =
      some (if after = "" then line else withoutReturn line) := by
  rw [lineAtNumber?, lines_encode_ofLines endedFree, List.getElem?_append_right (by simp),
    List.length_map, Nat.sub_self, getElem?_lines_encode free ends some_text, Option.bind_some,
    decode?_encode]

/-- A text has as many lines as there are numbers of lines that start inside it. -/
theorem le_length_lines_iff {text : String} {number : Nat} :
    0 < number ∧ number ≤ (lines (encode text)).length ↔
      ∃ offset < text.utf8ByteSize, LineStarts text number offset := by
  constructor
  · rintro ⟨pos, inside⟩
    rcases exists_ended_of_lt (show number - 1 < (lines (encode text)).length by omega) with
      ⟨ended, rest, free, rfl, length, some_rest⟩
    refine ⟨_, ?_, ended, rest, free, rfl, by omega, rfl⟩
    rw [String.utf8ByteSize_append]
    exact Nat.lt_add_of_pos_right
      (Nat.pos_of_ne_zero (mt String.utf8ByteSize_eq_zero_iff.mp some_rest))
  · rintro ⟨_, inside, ended, rest, free, rfl, rfl, rfl⟩
    refine ⟨Nat.succ_pos _, ?_⟩
    rcases exists_line rest with ⟨line, after, rfl, lineFree, ends⟩
    have some_text : line ++ after ≠ "" := by
      intro empty
      rw [empty, String.append_empty] at inside
      exact Nat.lt_irrefl _ inside
    have isFirst := (List.getElem?_eq_some_iff.mp
      (getElem?_lines_encode lineFree ends some_text)).1
    rw [lines_encode_ofLines free, List.length_append, List.length_map]
    omega

theorem length_lines_lt_iff {text : String} {number : Nat} (pos : 0 < number) :
    (lines (encode text)).length < number ↔ ∀ other offset,
      LineStarts text other offset → offset < text.utf8ByteSize → other < number := by
  constructor
  · intro beyond other offset starts inside
    exact (le_length_lines_iff.mpr ⟨offset, inside, starts⟩).2.trans_lt beyond
  · intro last
    by_contra within
    rcases le_length_lines_iff.mp ⟨pos, Nat.le_of_not_lt within⟩ with ⟨offset, inside, starts⟩
    exact Nat.lt_irrefl _ (last _ offset starts inside)

theorem lineAtNumber?_eq_none_iff {text : String} {number : Nat} :
    lineAtNumber? (encode text) number = none ↔
      number = 0 ∨ (lines (encode text)).length < number := by
  cases number with
  | zero => exact iff_of_true rfl (.inl rfl)
  | succ count =>
      constructor
      · intro nothing
        by_contra inside
        rcases exists_ended_of_lt (show count < (lines (encode text)).length by omega) with
          ⟨ended, rest, free, rfl, rfl, some_rest⟩
        rcases exists_line rest with ⟨line, after, rfl, lineFree, ends⟩
        rw [lineAtNumber?_eq_some free lineFree ends some_rest] at nothing
        cases nothing
      · intro beyond
        rw [lineAtNumber?, List.getElem?_eq_none (by omega), Option.bind_none]

end Text

namespace Location

variable {files : Files} {text : String} {memory file : Location}

theorem recover_of_data (atHand : memory.source.kind ∈ [.buffer, .cli, .stdin])
    (held : memory.source.data = some text) :
    memory.recover files = (Text.lineAtOffset? text memory.offset, []) := by
  have sourceLine : memory.sourceLine files = .ok (Text.lineAtOffset? text memory.offset) := by
    rw [Location.sourceLine, held]
    simp only [List.mem_cons, List.not_mem_nil, or_false] at atHand
    rcases atHand with kind | kind | kind <;> rw [kind] <;> rfl
  rw [recover, sourceLine]

theorem recover_of_file (isFile : file.source.kind = .file) {bytes : List UInt8}
    (stored : files.openName file.source.name = .ok (.file bytes)) :
    file.recover files = (Text.lineAtNumber? bytes file.line, []) := by
  rw [recover, sourceLine, isFile]
  simp only [fileLine, stored]
  by_cases isZero : file.line = 0
  · rw [if_pos isZero, isZero]
    rfl
  · rw [if_neg isZero]

/-- A line that starts inside a text is recovered by its offset, from the text at hand, and by its
number, from a file with the text. It is the text up to the next newline or the end; from the file
it comes without a carriage return before the newline. Nothing is recovered by number only for line
zero and behind the last line, and by offset only beyond the end and inside a character. -/
theorem recover_agree (atHand : memory.source.kind ∈ [.buffer, .cli, .stdin])
    (held : memory.source.data = some text) (isFile : file.source.kind = .file)
    (stored : files.openName file.source.name = .ok (.file (Text.encode text))) :
    (Text.LineStarts text file.line memory.offset → memory.offset < text.utf8ByteSize →
      ∃ before line after, text = before ++ line ++ after ∧
        before.utf8ByteSize = memory.offset ∧
        '\n' ∉ line.toList ∧ (after = "" ∨ ∃ rest, after = "\n" ++ rest) ∧
        memory.recover files = (some line, []) ∧
        file.recover files = (some (if after = "" then line else Text.withoutReturn line), []) ∧
        '\n' ∉ (Text.withoutReturn line).toList) ∧
    (file.recover files = (none, []) ↔ file.line = 0 ∨ ∀ number offset,
      Text.LineStarts text number offset → offset < text.utf8ByteSize → number < file.line) ∧
    (memory.recover files = (none, []) ↔
      text.utf8ByteSize < memory.offset ∨ Text.Splits text memory.offset) := by
  rw [recover_of_data atHand held, recover_of_file isFile stored]
  refine ⟨?_, ?_, ?_⟩
  · rintro ⟨ended, rest, endedFree, rfl, isNumber, isOffset⟩ inside
    rcases Text.exists_line rest with ⟨line, after, rfl, free, ends⟩
    have some_text : line ++ after ≠ "" := by
      intro empty
      rw [empty, String.append_empty, isOffset] at inside
      exact Nat.lt_irrefl _ inside
    refine ⟨Text.ofLines ended, line, after, String.append_assoc.symm, isOffset, free, ends, ?_,
      ?_, ?_⟩
    · rw [← isOffset, ← String.append_assoc, Text.lineAtOffset?_eq_some _ free ends]
    · rw [← isNumber, Text.lineAtNumber?_eq_some endedFree free ends some_text]
    · rw [Text.withoutReturn, String.toList_ofList]
      exact fun member => free ((Text.dropEnd_sublist _).subset member)
  · rw [Prod.mk.injEq, and_iff_left rfl, Text.lineAtNumber?_eq_none_iff]
    exact or_congr_right' fun some_line =>
      Text.length_lines_lt_iff (Nat.pos_of_ne_zero some_line)
  · rw [Prod.mk.injEq, and_iff_left rfl, Text.lineAtOffset?_eq_none_iff]

/-- Two lines, each ended by a carriage return and a newline. The first has a character of two
bytes. -/
def returns : String := "é\r\nb\r\n"

/-- The text as a file, which is opened by its name from the root. -/
def returnsFiles : Files := .ofList [("/etc/lines", .file (Text.encode returns))]

/-- The place in the text at hand. -/
def atOffset (offset : Nat) : Location := ⟨⟨.stdin, "stdin", some returns⟩, offset, 1, 1, 1⟩

/-- The place in the file. -/
def atLine (line : Nat) : Location := ⟨⟨.file, "/etc/lines", none⟩, 0, line, 1, 1⟩

theorem recover_agree_of_returns :
    returnsFiles.openName "/etc/lines" = .ok (.file (Text.encode returns)) ∧
      Text.LineStarts returns 2 4 ∧ (atOffset 4).recover returnsFiles = (some "b\r", []) ∧
      (atLine 2).recover returnsFiles = (some "b", []) ∧
      (atOffset 1).recover returnsFiles = (none, []) ∧
      ∀ number offset, Text.LineStarts returns number offset →
        offset < returns.utf8ByteSize → number < 3 := by
  have stored : returnsFiles.openName "/etc/lines" = .ok (.file (Text.encode returns)) := by
    decide +kernel
  have starts : Text.LineStarts returns 2 4 :=
    ⟨["é\r"], "b\r\n", by decide, by decide, rfl, by decide⟩
  have atHand : SourceKind.stdin ∈ [SourceKind.buffer, .cli, .stdin] := by
    decide
  have agree := fun offset line => @recover_agree returnsFiles returns (atOffset offset)
    (atLine line) atHand rfl rfl stored
  rcases (agree 4 2).1 starts (by decide) with
    ⟨before, line, after, split, isOffset, -, -, fromMemory, fromFile, -⟩
  have found : (atOffset 4).recover returnsFiles = (some "b\r", []) := by
    decide +kernel
  rw [found, Prod.mk.injEq, Option.some_inj, and_iff_left rfl] at fromMemory
  subst fromMemory
  have some_after : after ≠ "" := by
    rintro rfl
    have size := congrArg String.utf8ByteSize split
    rw [String.append_empty, String.utf8ByteSize_append, isOffset] at size
    exact absurd size (by decide)
  rw [if_neg some_after] at fromFile
  refine ⟨stored, starts, found, fromFile, (agree 1 3).2.2.mpr (.inr ?_), ?_⟩
  · exact ⟨"", "\r\nb\r\n", 'é', by decide, by decide, by decide⟩
  · exact ((agree 4 3).2.1.mp (by decide +kernel)).resolve_left (by decide)

end Location

end Rulefold
