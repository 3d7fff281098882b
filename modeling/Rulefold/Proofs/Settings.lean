import Mathlib.Data.List.Nodup
import Mathlib.Data.List.TakeWhile
import Rulefold.Proofs.Reading

/-!
# Settings

A setting is a line that gives a truth value or a whole number to a name. What is written so is read
back: each reader takes from a line what the part of the setting before it was written as, and stops
where that part ends. A document of settings defines what they set, unless they set a name twice
(`parse?_document`).
-/

namespace Rulefold.Toml

open Reader

/-- A truth value, or a whole number that fits into 64 bits. -/
inductive Plain where
  | truth (value : Bool)
  | whole (value : Int64)
  deriving DecidableEq

namespace Plain

/-- The node of a plain value. -/
def node : Plain → Node
  | truth value => .boolean value
  | whole value => .integer value.toInt

/-- The written form of a plain value. -/
def text : Plain → String
  | truth value => toString value
  | whole value => toString value.toInt

end Plain

/-- A line that gives a plain value to a bare name. -/
structure Setting where
  name : String
  value : Plain
  name_ne_empty : name ≠ ""
  bare : ∀ char ∈ name.toList, isBareChar char = true

namespace Setting

/-- The written form of a setting. -/
def text (setting : Setting) : String := setting.name ++ " = " ++ setting.value.text ++ "\n"

/-- What a setting defines. -/
def entry (setting : Setting) : String × Node := (setting.name, setting.value.node)

end Setting

/-- The document with the given settings. -/
def document (settings : List Setting) : String := String.join (settings.map Setting.text)

section Characters

variable {isWanted : Char → Bool} {char : Char} {text front back : List Char}

/-- A character is not another one if only one of them is of some kind. -/
theorem ne_of_kind (kind : Char → Bool) (isKind : kind char = true) (other : Char)
    (isNot : kind other = false) : char ≠ other := by
  rintro rfl
  exact Bool.noConfusion (isKind.symm.trans isNot)

theorem read_span (all : ∀ char ∈ front, isWanted char = true)
    (stops : ∀ char ∈ back.head?, isWanted char = false) :
    (span isWanted).read (front ++ back) = some (front, back) := by
  have takes : back.takeWhile isWanted = [] ∧ back.dropWhile isWanted = back := by
    cases back with
    | nil => exact ⟨rfl, rfl⟩
    | cons char back =>
        have isEnd := stops char rfl
        exact ⟨List.takeWhile_cons_of_neg (by simp [isEnd]),
          List.dropWhile_cons_of_neg (by simp [isEnd])⟩
  change some ((front ++ back).takeWhile isWanted, (front ++ back).dropWhile isWanted) = _
  rw [List.takeWhile_append_of_pos all, List.dropWhile_append_of_pos all, takes.1, takes.2,
    List.append_nil]

theorem read_blanks_of_head (starts : ∀ char ∈ text.head?, isBlank char = false) :
    blanks.read text = some ((), text) := by
  rw [blanks, read_bind]
  exact congrArg (Option.bind · _) (@read_span _ [] _ (List.forall_mem_nil _) starts)

theorem read_blanks_blank (starts : ∀ char ∈ text.head?, isBlank char = false) :
    blanks.read (' ' :: text) = some ((), text) := by
  rw [blanks, read_bind]
  exact congrArg (Option.bind · _) (@read_span _ [' '] _ (by simp [isBlank]) starts)

theorem read_chars_of_ne {wanted : String} {first : Char} {others : List Char}
    (isWanted : wanted.toList = first :: others) (differs : char ≠ first) :
    (chars wanted).read (char :: text) = none := by
  rw [chars, isWanted]
  change (Reader.char first >>= fun _ => _).read _ = none
  rw [read_bind, read_char_cons, if_neg (by simpa using differs)]
  rfl

theorem read_quoted_of_ne (noQuote : char ≠ '"') (noApostrophe : char ≠ '\'') :
    quoted.read (char :: text) = none := by
  simp [quoted, quotedLines, quotedLine, rawLines, rawLine, linesBetween, exactly, read_map,
    read_orElse, read_bind, read_satisfy_cons, read_char_cons, noQuote, noApostrophe]

end Characters

section Numbers

/-- The digits of a number, in front of the end of their line. -/
def digitLine (number : Nat) (rest : List Char) : List Char :=
  Nat.toDigits 10 number ++ '\n' :: rest

/-- A whole number, in front of the end of its line. -/
def wholeLine (negative : Bool) (number : Nat) (rest : List Char) : List Char :=
  (if negative then ['-'] else []) ++ digitLine number rest

variable {number : Nat} {rest digits : List Char} {α : Type}

theorem isDigit_of_mem_digits {char : Char} (member : char ∈ Nat.toDigits 10 number) :
    char.isDigit = true :=
  Nat.isDigit_of_mem_toDigits (by decide) (by decide) member

theorem ofDigits_eq (all : ∀ digit ∈ digits, digit.isDigit = true) :
    ofDigits 10 digits = Nat.ofDigitChars 10 digits 0 := by
  rw [ofDigits]
  generalize 0 = value
  induction digits generalizing value with
  | nil => exact Nat.ofDigitChars_nil.symm
  | cons digit digits ih =>
      rw [List.forall_mem_cons] at all
      rw [List.foldl_cons, ih all.2, Nat.ofDigitChars_cons, digitValue, if_pos all.1, Nat.mul_comm]

theorem ofDigits_digits (number : Nat) : ofDigits 10 (Nat.toDigits 10 number) = number := by
  rw [ofDigits_eq fun digit => isDigit_of_mem_digits, Nat.ofDigitChars_ten_toDigits]

/-- Only zero is written with a leading zero. -/
theorem head?_digits_ne_zero (pos : 0 < number) :
    (Nat.toDigits 10 number).head? ≠ some '0' := by
  induction number using Nat.strongRecOn with
  | ind number ih =>
      by_cases short : number < 10
      · have nonzero : ∀ digit, digit < 10 → 0 < digit →
            [Nat.digitChar digit].head? ≠ some '0' := by decide
        rw [Nat.toDigits_of_lt_base short]
        exact nonzero number short pos
      · rw [Nat.toDigits_of_base_le (by decide) (by omega),
          List.head?_append_of_ne_nil _ Nat.toDigits_ne_nil]
        exact ih (number / 10) (by omega) (by omega)

theorem exists_digits (number : Nat) : ∃ digit digits,
    Nat.toDigits 10 number = digit :: digits ∧ digit.isDigit = true ∧
      ∀ digit ∈ digits, digit.isDigit = true := by
  rcases List.exists_cons_of_ne_nil (@Nat.toDigits_ne_nil number 10) with
    ⟨digit, digits, isDigits⟩
  have all := fun digit => @isDigit_of_mem_digits number digit
  rw [isDigits] at all
  exact ⟨digit, digits, isDigits, List.forall_mem_cons.mp all⟩

theorem read_manyDigits (all : ∀ digit ∈ digits, digit.isDigit = true) :
    (many (do let _ ← optional (char '_'); satisfy Char.isDigit)).read (digits ++ '\n' :: rest) =
      some (digits, '\n' :: rest) := by
  induction digits with
  | nil => exact read_many_of_none rfl
  | cons digit digits ih =>
      rw [List.forall_mem_cons] at all
      have noMark := ne_of_kind Char.isDigit all.1 '_' rfl
      have found : (do let _ ← optional (char '_'); satisfy Char.isDigit : Reader Char).read
          (digit :: (digits ++ '\n' :: rest)) = some (digit, digits ++ '\n' :: rest) := by
        simp [read_bind, read_optional, read_char_cons, read_satisfy_cons, noMark, all.1]
      rw [List.cons_append, read_many_of_some (consumes_digit _) found, ih all.2]
      rfl

theorem read_decimalDigits (number : Nat) (rest : List Char) :
    decimalDigits.read (digitLine number rest) = some (Nat.toDigits 10 number, '\n' :: rest) := by
  rcases Nat.eq_zero_or_pos number with rfl | pos
  · rfl
  · have noZero := head?_digits_ne_zero pos
    rcases exists_digits number with ⟨digit, digits, isDigits, isDigit, areDigits⟩
    rw [isDigits] at noZero
    have noZero : digit ≠ '0' := fun same => noZero (congrArg some same)
    rw [digitLine, isDigits, List.cons_append, decimalDigits, read_orElse, read_bind,
      read_char_cons, if_neg (by simpa using noZero), Option.bind_none, Option.none_or,
      Toml.digits, read_bind, read_satisfy_cons, if_pos isDigit, Option.bind_some, read_bind,
      read_manyDigits areDigits]
    rfl

theorem read_sign (negative : Bool) (number : Nat) (rest : List Char) :
    sign.read (wholeLine negative number rest) = some (negative, digitLine number rest) := by
  rcases exists_digits number with ⟨digit, digits, isDigits, isDigit, -⟩
  have noPlus := ne_of_kind Char.isDigit isDigit '+' rfl
  have noMinus := ne_of_kind Char.isDigit isDigit '-' rfl
  cases negative with
  | true => rfl
  | false =>
      simp [wholeLine, digitLine, sign, read_bind, read_optional, read_satisfy_cons, read_pure,
        isDigits, noPlus, noMinus]

/-- Behind digits that are taken stand the others, and the end of their line. -/
theorem eq_of_read_exactly {count : Nat} {taken left : List Char}
    (found : (exactly Char.isDigit count).read (digits ++ '\n' :: rest) = some (taken, left)) :
    left = digits.drop count ++ '\n' :: rest := by
  induction count generalizing digits taken with
  | zero =>
      cases found
      rfl
  | succ count ih =>
      rcases bind_eq_some_iff.mp found with ⟨first, middle, isFirst, found⟩
      rcases bind_eq_some_iff.mp found with ⟨others, _, areOthers, ⟨⟩⟩
      cases digits with
      | nil => cases isFirst
      | cons digit digits =>
          rw [List.cons_append, read_satisfy_cons, Option.ite_none_right_eq_some] at isFirst
          cases isFirst.2
          exact ih areOthers

/-- No part of a moment ends where a number does. -/
theorem read_clockNumber_eq_none {mark : Char} (noDigit : mark.isDigit = false)
    (noNewline : mark ≠ '\n') (count low high number : Nat) (rest : List Char)
    (next : Nat → Reader α) :
    (clockNumber count low high >>= fun value => char mark >>= fun _ => next value).read
      (digitLine number rest) = none := by
  rw [Option.eq_none_iff_forall_ne_some]
  intro answer found
  rcases bind_eq_some_iff.mp found with ⟨value, middle, isNumber, found⟩
  rcases bind_eq_some_iff.mp found with ⟨_, _, isMark, -⟩
  rcases bind_eq_some_iff.mp isNumber with ⟨taken, left, isTaken, guarded⟩
  rcases bind_eq_some_iff.mp guarded with ⟨_, _, checked, ⟨⟩⟩
  rw [read_guard, Option.ite_none_right_eq_some] at checked
  cases checked.2
  rw [eq_of_read_exactly isTaken] at isMark
  cases behind : (Nat.toDigits 10 number).drop count with
  | nil =>
      rw [behind, List.nil_append, read_char_cons, if_neg (by simpa using noNewline.symm)] at isMark
      cases isMark
  | cons digit digits =>
      have isDigit := @isDigit_of_mem_digits number digit
        (List.mem_of_mem_drop (behind ▸ List.mem_cons_self ..))
      have noMark := ne_of_kind Char.isDigit isDigit mark noDigit
      rw [behind, List.cons_append, read_char_cons, if_neg (by simpa using noMark)] at isMark
      cases isMark

theorem read_moment_eq_none (negative : Bool) (number : Nat) (rest : List Char) :
    moment.read (wholeLine negative number rest) = none := by
  cases negative with
  | true => rfl
  | false =>
      have noDate : date.read (digitLine number rest) = none :=
        read_clockNumber_eq_none rfl (by decide) 4 0 9999 number rest _
      have noTime : timeOfDay.read (digitLine number rest) = none :=
        read_clockNumber_eq_none rfl (by decide) 2 0 23 number rest _
      change moment.read (digitLine number rest) = none
      rw [moment, read_orElse, read_bind, noDate, noTime]
      rfl

theorem read_decimal_eq_none (negative : Bool) (number : Nat) (rest : List Char) :
    decimal.read (wholeLine negative number rest) = none := by
  rw [decimal, read_bind, read_sign, Option.bind_some, read_bind, read_decimalDigits]
  rfl

theorem read_unbounded_eq_none (negative : Bool) (number : Nat) (rest : List Char) :
    unbounded.read (wholeLine negative number rest) = none := by
  rcases exists_digits number with ⟨digit, digits, isDigits, isDigit, -⟩
  have noI := ne_of_kind Char.isDigit isDigit 'i' rfl
  have noN := ne_of_kind Char.isDigit isDigit 'n' rfl
  rw [unbounded, read_bind, read_sign, Option.bind_some, read_orElse, digitLine, isDigits,
    List.cons_append, read_chars_of_ne rfl noI, read_chars_of_ne rfl noN]
  rfl

/-- Numbers to base ten have no mark. -/
theorem read_markedDigits_eq_none (negative : Bool) (number : Nat) (rest : List Char)
    {letter : Char} {mark : String} (isMark : mark.toList = ['0', letter])
    (noNewline : letter ≠ '\n') (base : Nat) (isWanted : Char → Bool) :
    (markedDigits mark base isWanted).read (wholeLine negative number rest) = none := by
  have noMark : (chars mark).read (wholeLine negative number rest) = none := by
    cases negative with
    | true => exact read_chars_of_ne isMark (by decide)
    | false =>
        rcases Nat.eq_zero_or_pos number with rfl | pos
        · rw [chars, isMark]
          change (Reader.char letter >>= fun _ => _).read ('\n' :: rest) = none
          rw [read_bind, read_char_cons, if_neg (by simpa using noNewline.symm)]
          rfl
        · have noZero := head?_digits_ne_zero pos
          rcases exists_digits number with ⟨digit, digits, isDigits, -⟩
          rw [isDigits] at noZero
          change (chars mark).read (digitLine number rest) = none
          rw [digitLine, isDigits, List.cons_append,
            read_chars_of_ne isMark fun same => noZero (congrArg some same)]
  rw [markedDigits, read_bind, noMark]
  rfl

theorem read_integer (negative : Bool) (number : Nat) (rest : List Char) {value : Int}
    (isValue : value = if negative then -(number : Int) else number)
    (fits : Int64.minValue.toInt ≤ value ∧ value ≤ Int64.maxValue.toInt) :
    integer.read (wholeLine negative number rest) = some (value, '\n' :: rest) := by
  have unmarked : (do
      let negative ← sign
      let magnitude : Int := ofDigits 10 (← decimalDigits)
      pure (if negative then -magnitude else magnitude) : Reader Int).read
        (wholeLine negative number rest) = some (value, '\n' :: rest) := by
    rw [read_bind, read_sign, Option.bind_some, read_bind, read_decimalDigits, Option.bind_some,
      ofDigits_digits, isValue]
    rfl
  rw [integer, read_bind, read_orElse,
    read_markedDigits_eq_none negative number rest rfl (by decide), read_orElse,
    read_markedDigits_eq_none negative number rest rfl (by decide), read_orElse,
    read_markedDigits_eq_none negative number rest rfl (by decide), unmarked, Option.none_or,
    Option.none_or, Option.none_or, Option.bind_some, read_bind, read_guard,
    if_pos (by simpa using fits)]
  rfl

theorem exists_head_wholeLine (negative : Bool) (number : Nat) (rest : List Char) :
    ∃ char others, wholeLine negative number rest = char :: others ∧
      (char == '-' || char.isDigit) = true := by
  rcases exists_digits number with ⟨digit, digits, isDigits, isDigit, -⟩
  cases negative with
  | true => exact ⟨_, _, rfl, rfl⟩
  | false =>
      refine ⟨digit, digits ++ '\n' :: rest, ?_, by rw [isDigit, Bool.or_true]⟩
      change digitLine number rest = _
      rw [digitLine, isDigits, List.cons_append]

end Numbers

section Lines

theorem toList_text_whole (value : Int64) (rest : List Char) :
    (Plain.whole value).text.toList ++ '\n' :: rest =
      wholeLine (decide (value.toInt < 0)) value.toInt.natAbs rest := by
  rw [Plain.text, Int.toString_eq_repr, Int.repr_eq_if, wholeLine, digitLine]
  by_cases negative : value.toInt < 0
  · have magnitude : (-value.toInt).toNat = value.toInt.natAbs := by omega
    rw [if_neg (by omega), String.toList_append, Nat.toList_repr, magnitude, if_pos (by simpa)]
    rfl
  · have magnitude : value.toInt.toNat = value.toInt.natAbs := by omega
    rw [if_pos (by omega), Nat.toList_repr, magnitude, if_neg (by simpa using negative)]
    rfl

/-- A whole number is taken for nothing else. -/
theorem read_plainValue_whole (negative : Bool) (number : Nat) (rest : List Char) {value : Int}
    (isValue : value = if negative then -(number : Int) else number)
    (fits : Int64.minValue.toInt ≤ value ∧ value ≤ Int64.maxValue.toInt) :
    plainValue.read (wholeLine negative number rest) = some (.integer value, '\n' :: rest) := by
  have noMoment := read_moment_eq_none negative number rest
  have noDecimal := read_decimal_eq_none negative number rest
  have noUnbounded := read_unbounded_eq_none negative number rest
  have isWhole := read_integer negative number rest isValue fits
  rcases exists_head_wholeLine negative number rest with ⟨first, others, isLine, starts⟩
  have differs := ne_of_kind (fun char => char == '-' || char.isDigit) starts
  have noText := @read_quoted_of_ne first others (differs '"' rfl) (differs '\'' rfl)
  have noTrue := @read_chars_of_ne first others "true" _ _ rfl (differs 't' rfl)
  have noFalse := @read_chars_of_ne first others "false" _ _ rfl (differs 'f' rfl)
  rw [isLine] at noMoment noDecimal noUnbounded isWhole ⊢
  simp only [plainValue, read_orElse, read_bind, noText, noTrue, noFalse, noMoment, noDecimal,
    noUnbounded, isWhole, Option.bind_none, Option.none_or, Option.bind_some]
  rfl

/-- A value in front of the end of its line is read as its node. -/
theorem read_plainValue (value : Plain) (rest : List Char) :
    plainValue.read (value.text.toList ++ '\n' :: rest) = some (value.node, '\n' :: rest) := by
  cases value with
  | truth value => cases value <;> rfl
  | whole value =>
      rw [toList_text_whole]
      apply read_plainValue_whole
      · by_cases negative : value.toInt < 0
        · rw [if_pos (decide_eq_true negative)]
          omega
        · rw [if_neg (by simpa using negative)]
          omega
      · exact ⟨value.minValue_le_toInt, value.toInt_le⟩

theorem isBlank_of_head_text (value : Plain) (rest : List Char) :
    ∀ char ∈ (value.text.toList ++ '\n' :: rest).head?, isBlank char = false := by
  cases value with
  | truth value =>
      cases value <;>
      · rintro char ⟨⟩
        rfl
  | whole value =>
      rw [toList_text_whole]
      rcases exists_head_wholeLine (decide (value.toInt < 0)) value.toInt.natAbs rest with
        ⟨char, others, isLine, starts⟩
      rw [isLine]
      rintro _ ⟨⟩
      have differs := ne_of_kind (fun char => char == '-' || char.isDigit) starts
      simp [isBlank, differs ' ' rfl, differs '\t' rfl]

/-- A setting in front of what follows it. -/
def Setting.line (setting : Setting) (rest : List Char) : List Char :=
  setting.name.toList ++ ' ' :: '=' :: ' ' :: (setting.value.text.toList ++ '\n' :: rest)

theorem exists_head_name (setting : Setting) : ∃ char others,
    setting.name.toList = char :: others ∧ isBareChar char = true := by
  have some_chars := setting.name_ne_empty
  cases isName : setting.name.toList with
  | nil => exact absurd (String.toList_eq_nil_iff.mp isName) some_chars
  | cons char others =>
      exact ⟨char, others, rfl, setting.bare char (isName ▸ List.mem_cons_self ..)⟩

theorem isBlank_of_head_name (setting : Setting) (rest : List Char) :
    ∀ char ∈ (setting.name.toList ++ rest).head?, isBlank char = false := by
  rcases exists_head_name setting with ⟨first, others, isName, isBare⟩
  have differs := ne_of_kind isBareChar isBare
  rw [isName]
  rintro _ ⟨⟩
  simp [isBlank, differs ' ' rfl, differs '\t' rfl]

theorem read_keyPart (setting : Setting) (rest : List Char) :
    keyPart.read (setting.name.toList ++ ' ' :: '=' :: rest) =
      some (setting.name, '=' :: rest) := by
  rcases exists_head_name setting with ⟨char, others, isName, isBare⟩
  have differs := ne_of_kind isBareChar isBare
  have noBlanks : blanks.read (setting.name.toList ++ ' ' :: '=' :: rest) =
      some ((), setting.name.toList ++ ' ' :: '=' :: rest) :=
    read_blanks_of_head (isBlank_of_head_name setting _)
  have word : bareWord.read (setting.name.toList ++ ' ' :: '=' :: rest) =
      some (setting.name.toList, ' ' :: '=' :: rest) := by
    have stops : ∀ char ∈ (' ' :: '=' :: rest).head?, isBareChar char = false := by
      rintro _ ⟨⟩
      rfl
    rw [bareWord, read_bind, read_span setting.bare stops, isName]
    rfl
  have noQuote : quotedLine.read (setting.name.toList ++ ' ' :: '=' :: rest) = none := by
    simp [quotedLine, read_bind, isName, read_char_cons, differs '"' rfl]
  have noApostrophe : rawLine.read (setting.name.toList ++ ' ' :: '=' :: rest) = none := by
    simp [rawLine, read_bind, isName, read_char_cons, differs '\'' rfl]
  rw [keyPart, read_bind, noBlanks, Option.bind_some, read_bind, read_orElse, noQuote,
    Option.none_or, read_orElse, noApostrophe, Option.none_or, word, Option.bind_some, read_bind,
    read_blanks_blank (by rintro _ ⟨⟩; rfl), Option.bind_some, String.ofList_toList]
  rfl

theorem read_key (setting : Setting) (rest : List Char) :
    key.read (setting.name.toList ++ ' ' :: '=' :: rest) = some ([setting.name], '=' :: rest) := by
  have noMore : (do char '.'; keyPart : Reader String).read ('=' :: rest) = none := rfl
  rw [key, read_bind, read_keyPart, Option.bind_some, read_bind, read_many_of_none noMore]
  rfl

/-- A setting is read as the definition that it is. -/
theorem read_setting (setting : Setting) (rest : List Char) : line.read (setting.line rest) =
    some (.definition [] setting.name setting.value.node, rest) := by
  have isDefinition : (definition (value depthLimit)).read (setting.line rest) =
      some (([], setting.name, setting.value.node), '\n' :: rest) := by
    have isValue : (value depthLimit).read (setting.value.text.toList ++ '\n' :: rest) =
        some (setting.value.node, '\n' :: rest) := by
      change (plainValue <|> array (value 78) <|> inlineTable (value 78) : Reader Node).read _ = _
      rw [read_orElse, read_plainValue, Option.some_or]
    rw [Setting.line, definition, read_bind, read_key, Option.bind_some, read_bind, read_char_cons,
      if_pos (beq_self_eq_true _), Option.bind_some, read_bind,
      read_blanks_blank (isBlank_of_head_text _ rest), Option.bind_some, read_bind, isValue]
    rfl
  rcases exists_head_name setting with ⟨first, others, isName, isBare⟩
  have differs := ne_of_kind isBareChar isBare
  have noNewline : newline.read (setting.line rest) = none := by
    simp [newline, read_orElse, Setting.line, isName, read_char_cons, differs '\n' rfl,
      read_chars_of_ne (show "\r\n".toList = '\r' :: _ from rfl) (differs '\r' rfl)]
  have noComment : comment.read (setting.line rest) = none := by
    simp [comment, read_bind, Setting.line, isName, read_char_cons, differs '#' rfl]
  have noMember : (chars "[[").read (setting.line rest) = none := by
    rw [Setting.line, isName, List.cons_append]
    exact read_chars_of_ne rfl (differs '[' rfl)
  have noHeader : (char '[').read (setting.line rest) = none := by
    rw [Setting.line, isName, List.cons_append, read_char_cons,
      if_neg (by simpa using differs '[' rfl)]
  simp only [line, read_orElse, read_bind, noNewline, noComment, noMember, noHeader, isDefinition,
    Option.bind_none, Option.none_or, Option.bind_some]
  rfl

theorem toList_document (settings : List Setting) :
    (document settings).toList = settings.foldr Setting.line [] := by
  rw [document, String.toList_join]
  induction settings with
  | nil => rfl
  | cons setting settings ih =>
      rw [List.map_cons, List.flatMap_cons, ih, Setting.text]
      simp [Setting.line]

theorem isBlank_of_head_document (settings : List Setting) :
    ∀ char ∈ (settings.foldr Setting.line []).head?, isBlank char = false := by
  cases settings with
  | nil =>
      rintro char ⟨⟩
  | cons setting settings => exact isBlank_of_head_name setting _

/-- The line that a setting is read as. -/
def Setting.said (setting : Setting) : Line := .definition [] setting.name setting.value.node

theorem read_manyLines (settings : List Setting) :
    (many (do let line ← line; blanks; pure line)).read (settings.foldr Setting.line []) =
      some (settings.map Setting.said, []) := by
  induction settings with
  | nil => exact read_many_of_none rfl
  | cons setting settings ih =>
      have found : (do let line ← line; blanks; pure line : Reader Line).read
          (setting.line (settings.foldr Setting.line [])) =
            some (setting.said, settings.foldr Setting.line []) := by
        rw [read_bind, read_setting, Option.bind_some, read_bind,
          read_blanks_of_head (isBlank_of_head_document settings)]
        rfl
      rw [List.foldr_cons, read_many_of_some (consumes_line.bind_left _) found, ih]
      rfl

theorem read_lines (settings : List Setting) :
    lines.read (document settings).toList = some (settings.map Setting.said, []) := by
  have noMark : (optional (char '\ufeff')).read (settings.foldr Setting.line []) =
      some (none, settings.foldr Setting.line []) := by
    cases settings with
    | nil => rfl
    | cons setting settings =>
        rcases exists_head_name setting with ⟨first, others, isName, isBare⟩
        have differs := ne_of_kind isBareChar isBare '\ufeff' rfl
        simp [Setting.line, isName, read_optional, read_char_cons, differs]
  rw [toList_document, lines, read_bind, noMark, Option.bind_some, read_bind,
    read_blanks_of_head (isBlank_of_head_document settings), Option.bind_some, read_bind,
    read_manyLines]
  rfl

end Lines

section Trees

variable {entries : Entries} {settings : List Setting}

/-- A name that is new is added behind the others, and no other can be defined. -/
theorem Entries.define_eq (entries : Entries) (name : String) (value : Node) :
    entries.define true name value [] =
      if name ∈ entries.map Prod.fst then none else some (entries ++ [(name, value)]) := by
  rw [Entries.define, if_pos rfl]
  induction entries with
  | nil => rfl
  | cons entry entries ih =>
      rw [Entries.alter]
      by_cases same : entry.1 = name
      · rw [if_pos (beq_iff_eq.mpr same), if_pos (by simp [same])]
        rfl
      · rw [if_neg (by simpa using same), ih]
        have mem_iff :
            name ∈ (entry :: entries).map Prod.fst ↔ name ∈ entries.map Prod.fst := by
          simp [Ne.symm same]
        simp only [mem_iff]
        split <;> rfl

theorem foldlM_said (settings : List Setting) (entries : Entries)
    (names : (entries.map Prod.fst).Nodup) :
    (settings.map Setting.said).foldlM Line.apply (entries, []) =
      if ((entries ++ settings.map Setting.entry).map Prod.fst).Nodup
        then some (entries ++ settings.map Setting.entry, []) else none := by
  induction settings generalizing entries with
  | nil =>
      rw [List.map_nil, List.foldlM_nil, List.map_nil, List.append_nil, if_pos names]
      rfl
  | cons setting settings ih =>
      have applied : Line.apply (entries, []) setting.said =
          (entries.define true setting.name setting.value.node []).map (·, []) := rfl
      rw [List.map_cons, List.foldlM_cons, applied, Entries.define_eq]
      by_cases taken : setting.name ∈ entries.map Prod.fst
      · have twice :
            ¬((entries ++ (setting :: settings).map Setting.entry).map Prod.fst).Nodup := by
          rw [List.map_append]
          exact fun nodup => (List.nodup_append'.mp nodup).2.2 taken (List.mem_cons_self ..)
        rw [if_pos taken, if_neg twice]
        rfl
      · have later : ((entries ++ [setting.entry]).map Prod.fst).Nodup := by
          rw [List.map_append, List.nodup_append']
          exact ⟨names, List.nodup_singleton _, List.disjoint_singleton.mpr taken⟩
        have added := ih (entries ++ [setting.entry]) later
        rw [List.append_assoc] at added
        rw [if_neg taken]
        exact added

/-- A document of settings defines what they set, unless they set a name twice. -/
theorem parse?_document (settings : List Setting) : parse? (document settings) =
    if (settings.map Setting.name).Nodup then some (settings.map Setting.entry) else none := by
  have names : (settings.map Setting.entry).map Prod.fst = settings.map Setting.name := by
    rw [List.map_map]
    rfl
  have folded := foldlM_said settings [] List.nodup_nil
  rw [List.nil_append, names] at folded
  change (lines.read _ >>= fun taken => taken.1.foldlM Line.apply ([], []) >>= fun built =>
    pure built.1) = _
  rw [read_lines, Option.bind_eq_bind, Option.bind_some, folded]
  split <;> rfl

end Trees

end Rulefold.Toml
