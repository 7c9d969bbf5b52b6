import ExactFactorial.Channel.Fault
import ExactFactorial.Text.Utf8

namespace ExactFactorial
namespace Channel

/-!
# Sources

A source delivers its bytes in chunks.  A line may begin in one chunk and end in another, and what
follows its end stays in the source.  The end of the chunks, or an empty chunk, ends a line early.
Bytes once taken are counted for good, even when a fault loses the line they belong to.
-/

/-- The byte that ends a line. -/
def lineEnd : UInt8 := 0x0A

/-- What a source delivers next. -/
inductive Chunk where
  | bytes (content : Bytes)
  | fails (fault : Fault)
  deriving Repr, DecidableEq

/-- Cut the bytes after the first line end.  The second part is `none` if there is no line end. -/
def cutLine : Bytes → Bytes × Option Bytes
  | [] => ([], none)
  | byte :: rest =>
      if byte = lineEnd then ([byte], some rest)
      else
        let cut := cutLine rest
        (byte :: cut.1, cut.2)

/-- What reading a line did: the bytes taken, the fault met, and the chunks left. -/
structure Reading where
  taken : Bytes
  fault : Option Fault
  rest : List Chunk
  deriving Repr, DecidableEq

/-- Take one line.  A chunk that is used up is gone, and so is the empty chunk or the fault that
stopped the reading. -/
def takeLine : List Chunk → Reading
  | [] => ⟨[], none, []⟩
  | .fails fault :: rest =>
      if fault.kind = .interrupted then takeLine rest else ⟨[], some fault, rest⟩
  | .bytes content :: rest =>
      if content.isEmpty then ⟨[], none, rest⟩
      else
        match cutLine content with
        | (line, some []) => ⟨line, none, rest⟩
        | (line, some remaining) => ⟨line, none, .bytes remaining :: rest⟩
        | (line, none) =>
            let more := takeLine rest
            { more with taken := line ++ more.taken }

/-- Chunks still to come, and how many bytes were taken before them. -/
structure Source where
  chunks : List Chunk := []
  consumed : Nat := 0
  deriving Repr, DecidableEq

namespace Source

/-- A source that delivers these bytes at once and then ends. -/
def ofBytes (content : Bytes) : Source :=
  { chunks := [.bytes content] }

/-- Read one line with its line end. -/
def readLine (source : Source) : Except Fault Bytes × Source :=
  let reading := takeLine source.chunks
  let result :=
    match reading.fault with
    | some fault => .error fault
    | none => .ok reading.taken
  (result, ⟨reading.rest, source.consumed + reading.taken.length⟩)

end Source
end Channel
end ExactFactorial
