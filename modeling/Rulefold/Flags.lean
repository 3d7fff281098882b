/-!
# Flag words

A flag word is 32 bits wide. A vocabulary names some of its bits; the bits without a name are
carried along unchanged, so a word can be read, printed and written back without loss.
-/

namespace Rulefold

/-- A flag word has places, so that they can be written as numerals. The zero is the one that
numerals of `Fin` ask for. -/
instance neZeroWidth : @NeZero Nat Zero.ofOfNat0 32 := ⟨by decide⟩

/-- A vocabulary of flags, each with its place in a flag word. -/
class Flag (φ : Type) where
  /-- The bit a flag stands for. -/
  place : φ → Fin 32

/-- A word of flags from the vocabulary `φ`, with bits that `φ` does not name kept. -/
structure Flags (φ : Type) where
  /-- All bits, named or not. -/
  bits : BitVec 32
  deriving DecidableEq

namespace Flags

variable {φ : Type}

/-- The word without a flag. -/
def none : Flags φ := ⟨0#32⟩

/-- Says whether a flag is raised. -/
def has [Flag φ] (flags : Flags φ) (flag : φ) : Bool := flags.bits[Flag.place flag]

/-- Raises a flag and leaves the other bits. -/
def raise [Flag φ] (flags : Flags φ) (flag : φ) : Flags φ :=
  ⟨flags.bits ||| BitVec.twoPow 32 (Flag.place flag)⟩

/-- The word in which exactly the listed flags are raised. -/
def ofList [Flag φ] (flags : List φ) : Flags φ := flags.foldl raise none

theorem has_raise [Flag φ] (flags : Flags φ) (raised flag : φ) :
    (flags.raise raised).has flag =
      (flags.has flag || decide (Flag.place flag = Flag.place raised)) := by
  simp [has, raise, BitVec.getElem_or, BitVec.getElem_twoPow, Fin.ext_iff]

end Flags

end Rulefold
