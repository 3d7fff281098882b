import Rulefold.Toml.Reader

/-!
# Numbers

Whole numbers are written to base ten with a sign, or to base two, eight or sixteen behind a mark,
and must fit into 64 bits. Underscores may stand between digits. Numbers with a fraction or an
exponent are only checked: no option takes one.
-/

namespace Rulefold.Toml

open Reader

/-- Digits of one kind, with an underscore allowed between any two. -/
def digits (isWanted : Char → Bool) : Reader (List Char) := do
  let first ← satisfy isWanted
  let others ← many (do let _ ← optional (char '_'); satisfy isWanted)
  pure (first :: others)

/-- A sign; it answers whether the number is below zero. -/
def sign : Reader Bool := do
  match ← optional (satisfy fun char => char == '+' || char == '-') with
  | some '-' => pure true
  | _ => pure false

/-- Decimal digits that do not begin with a superfluous zero. -/
def decimalDigits : Reader (List Char) :=
  (do char '0'; pure ['0']) <|> digits Char.isDigit

/-- Digits to a base other than ten, behind their mark. -/
def markedDigits (mark : String) (base : Nat) (isWanted : Char → Bool) : Reader Int := do
  chars mark
  pure (ofDigits base (← digits isWanted))

/-- A whole number that fits into 64 bits. -/
def integer : Reader Int := do
  let value ←
    markedDigits "0x" 16 isHexDigit <|>
    markedDigits "0o" 8 (fun char => '0' ≤ char && char ≤ '7') <|>
    markedDigits "0b" 2 (fun char => char == '0' || char == '1') <|>
    (do
      let negative ← sign
      let magnitude : Int := ofDigits 10 (← decimalDigits)
      pure (if negative then -magnitude else magnitude))
  guard (Int64.minValue.toInt ≤ value && value ≤ Int64.maxValue.toInt)
  pure value

/-- Says whether `mantissa * 10 ^ exponent` lies beyond all finite numbers of double precision:
from halfway between the greatest of them and the next power of two. -/
def isTooLarge (mantissa : Nat) (exponent : Int) : Bool :=
  if mantissa = 0 then false
  else
    let magnitude := (Nat.toDigits 10 mantissa).length + exponent
    if magnitude ≤ 308 then false
    else if 309 < magnitude then true
    else
      let bound := Nat.pow 2 1024 - Nat.pow 2 970
      if 0 ≤ exponent then bound ≤ mantissa * Nat.pow 10 exponent.toNat
      else bound * Nat.pow 10 (-exponent).toNat ≤ mantissa

/-- The digits behind a decimal point. -/
def fraction : Reader (List Char) := do
  char '.'
  digits Char.isDigit

/-- An exponent of ten. -/
def exponent : Reader Int := do
  let _ ← satisfy fun char => char == 'e' || char == 'E'
  let negative ← sign
  let magnitude : Int := ofDigits 10 (← digits Char.isDigit)
  pure (if negative then -magnitude else magnitude)

/-- A number with a fraction, an exponent or both. One that is too large is no number, unless it
is below zero. -/
def decimal : Reader Unit := do
  let negative ← sign
  let whole ← decimalDigits
  let (places, power) ←
    (do
      let places ← fraction
      let power ← optional exponent
      pure (places, power.getD 0)) <|>
    (do pure ([], ← exponent))
  guard (negative || !isTooLarge (ofDigits 10 (whole ++ places)) (power - places.length))

/-- A number that is not finite, or none at all. -/
def unbounded : Reader Unit := do
  let _ ← sign
  chars "inf" <|> chars "nan"

end Rulefold.Toml
