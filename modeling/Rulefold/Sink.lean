/-!
# Sinks

A sink takes bytes, perhaps fewer than it is given, or fails. `Sink.writeAll` goes on until all
are taken or the sink fails; it offers nothing to a sink if there is nothing to write.
-/

namespace Rulefold

/-- Something that takes bytes. The state `σ` is what a write may change. -/
structure Sink (σ : Type) where
  /-- Offers bytes. The answer is how many of them were taken, or why none was. -/
  write : σ → List UInt8 → Except String Nat × σ

namespace Sink

variable {σ : Type}

/-- The wording for a sink that takes nothing and does not fail either. -/
def stalled : String := "failed to write whole buffer"

/-- Writes all bytes, and answers why it could not. -/
def writeAll (sink : Sink σ) (state : σ) (bytes : List UInt8) : Option String × σ :=
  match bytes with
  | [] => (none, state)
  | byte :: rest =>
    match sink.write state (byte :: rest) with
    | (.error failure, state) => (some failure, state)
    | (.ok 0, state) => (some stalled, state)
    | (.ok (taken + 1), state) => sink.writeAll state (rest.drop taken)
termination_by bytes.length
decreasing_by simp only [List.length_drop, List.length_cons]; omega

/-- Nothing is offered to a sink if there is nothing to write. -/
theorem writeAll_nil (sink : Sink σ) (state : σ) : sink.writeAll state [] = (none, state) := by
  rw [writeAll]

end Sink

/-- A sink in memory, which may have room for a number of bytes only. -/
structure Buffer where
  written : List UInt8
  /-- How many more bytes are taken; there is no limit if it is absent. -/
  room : Option Nat
  deriving DecidableEq

namespace Buffer

/-- An empty buffer. -/
def empty (room : Option Nat) : Buffer := ⟨[], room⟩

/-- Why a buffer without room takes nothing. -/
def closed : String := "closed"

/-- A buffer as a sink: a write is cut to the room that is left. -/
def sink : Sink Buffer where
  write buffer bytes :=
    match buffer.room with
    | none => (.ok bytes.length, { buffer with written := buffer.written ++ bytes })
    | some 0 => (.error closed, buffer)
    | some room =>
      let taken := bytes.take room
      (.ok taken.length, ⟨buffer.written ++ taken, some (room - taken.length)⟩)

end Buffer

end Rulefold
