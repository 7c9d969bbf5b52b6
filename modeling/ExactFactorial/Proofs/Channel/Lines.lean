import ExactFactorial.Channel.Source

namespace ExactFactorial
namespace Channel

/-!
# Lines in a stream of signals

Chunks say how bytes were delivered, which is more than a reader of lines can tell.  What it can
tell is a stream of signals: bytes, pauses, and faults that are not interruptions.  A line is
defined on that stream alone, and `takeLine` is proved to take exactly one.  Since the line of a
stream is unique, two lists of chunks with the same signals are read alike, however their bytes
were cut.

The bytes of the chunks are kept apart from their signals.  They are what a count of bytes refers
to, and a line is always the next part of them.
-/

/-! ## Signals -/

/-- What a reader meets.  An empty chunk is a pause; a chunk that was used up is nothing at all. -/
inductive Signal where
  | byte (byte : UInt8)
  | pause
  | fault (fault : Fault)
  deriving Repr, DecidableEq

namespace Chunk

/-- The signals of one chunk.  An interruption gives none. -/
def signals : Chunk → List Signal
  | .bytes [] => [.pause]
  | .bytes (byte :: rest) => (byte :: rest).map Signal.byte
  | .fails fault => if fault.kind = .interrupted then [] else [.fault fault]

def content : Chunk → Bytes
  | .bytes content => content
  | .fails _ => []

theorem signals_bytes_of_ne_nil {content : Bytes} (nonempty : content ≠ []) :
    (Chunk.bytes content).signals = content.map Signal.byte := by
  cases content with
  | nil => exact False.elim (nonempty rfl)
  | cons byte rest => rfl

end Chunk

/-- The stream of signals that chunks amount to. -/
def signals (chunks : List Chunk) : List Signal :=
  chunks.flatMap Chunk.signals

/-- All bytes of the chunks, in order. -/
def content (chunks : List Chunk) : Bytes :=
  chunks.flatMap Chunk.content

/-- Chunks that differ only in where their bytes are cut and in interruptions.  A cut leaves bytes
on both sides, because an empty chunk is not a cut. -/
inductive Recut : List Chunk → List Chunk → Prop
  | refl (chunks) : Recut chunks chunks
  | symm {first second} : Recut first second → Recut second first
  | trans {first second third} : Recut first second → Recut second third → Recut first third
  | cut (before after : List Chunk) {left right : Bytes} (leftBytes : left ≠ [])
      (rightBytes : right ≠ []) :
      Recut (before ++ .bytes (left ++ right) :: after)
        (before ++ .bytes left :: .bytes right :: after)
  | interruption (before after : List Chunk) {fault : Fault}
      (interrupted : fault.kind = .interrupted) :
      Recut (before ++ after) (before ++ .fails fault :: after)

/-- No reader can tell such chunks apart. -/
theorem Recut.signals_eq {first second : List Chunk} (recut : Recut first second) :
    signals first = signals second := by
  induction recut with
  | refl chunks => rfl
  | symm _ same => exact same.symm
  | trans _ _ left right => exact left.trans right
  | @cut before after left right leftBytes rightBytes =>
      have bothBytes : left ++ right ≠ [] := by
        intro empty
        exact leftBytes (List.append_eq_nil_iff.mp empty).1
      simp only [signals, List.flatMap_append, List.flatMap_cons]
      rw [Chunk.signals_bytes_of_ne_nil bothBytes, Chunk.signals_bytes_of_ne_nil leftBytes,
        Chunk.signals_bytes_of_ne_nil rightBytes, List.map_append, List.append_assoc]
  | @interruption before after fault interrupted =>
      have silent : (Chunk.fails fault).signals = [] := if_pos interrupted
      simp only [signals, List.flatMap_append, List.flatMap_cons, silent, List.nil_append]

/-! ## Lines -/

/-- The line at the start of a stream: its bytes, the fault that cut it short, and the signals after
it.  It ends after the first line end, or earlier where something other than a byte is met. -/
inductive Line : List Signal → Bytes → Option Fault → List Signal → Prop
  | ended (bytes : Bytes) (rest : List Signal) (unended : lineEnd ∉ bytes) :
      Line (bytes.map Signal.byte ++ .byte lineEnd :: rest) (bytes ++ [lineEnd]) none rest
  | exhausted (bytes : Bytes) (unended : lineEnd ∉ bytes) :
      Line (bytes.map Signal.byte) bytes none []
  | paused (bytes : Bytes) (rest : List Signal) (unended : lineEnd ∉ bytes) :
      Line (bytes.map Signal.byte ++ .pause :: rest) bytes none rest
  | failed (bytes : Bytes) (fault : Fault) (rest : List Signal) (unended : lineEnd ∉ bytes) :
      Line (bytes.map Signal.byte ++ .fault fault :: rest) bytes (some fault) rest

namespace Line

theorem prepend {stream rest : List Signal} {taken : Bytes} {fault : Option Fault} (bytes : Bytes)
    (unended : lineEnd ∉ bytes) (line : Line stream taken fault rest) :
    Line (bytes.map Signal.byte ++ stream) (bytes ++ taken) fault rest := by
  have both : ∀ {more : Bytes}, lineEnd ∉ more → lineEnd ∉ bytes ++ more := by
    intro more unendedMore member
    rcases List.mem_append.mp member with before | after
    · exact unended before
    · exact unendedMore after
  cases line with
  | ended more _ unendedMore =>
      rw [← List.append_assoc, ← List.map_append, ← List.append_assoc]
      exact .ended _ _ (both unendedMore)
  | exhausted more unendedMore =>
      rw [← List.map_append]
      exact .exhausted _ (both unendedMore)
  | paused more _ unendedMore =>
      rw [← List.append_assoc, ← List.map_append]
      exact .paused _ _ (both unendedMore)
  | failed more fault _ unendedMore =>
      rw [← List.append_assoc, ← List.map_append]
      exact .failed _ _ _ (both unendedMore)

end Line

/-- The line at the start of a stream, computed signal by signal. -/
def nextLine : List Signal → Bytes × Option Fault × List Signal
  | [] => ([], none, [])
  | .pause :: rest => ([], none, rest)
  | .fault fault :: rest => ([], some fault, rest)
  | .byte byte :: rest =>
      if byte = lineEnd then ([byte], none, rest)
      else (byte :: (nextLine rest).1, (nextLine rest).2)

theorem nextLine_prepend (bytes : Bytes) (stream : List Signal) (unended : lineEnd ∉ bytes) :
    nextLine (bytes.map Signal.byte ++ stream) =
      (bytes ++ (nextLine stream).1, (nextLine stream).2) := by
  induction bytes with
  | nil => rfl
  | cons byte bytes inductionHypothesis =>
      have parts := not_or.mp (mt List.mem_cons.mpr unended)
      rw [List.map_cons, List.cons_append, nextLine, if_neg (Ne.symm parts.1),
        inductionHypothesis parts.2, List.cons_append]

/-- The computed line is the only one. -/
theorem Line.eq_nextLine {stream rest : List Signal} {taken : Bytes} {fault : Option Fault}
    (line : Line stream taken fault rest) : nextLine stream = (taken, fault, rest) := by
  cases line with
  | ended bytes _ unended =>
      rw [nextLine_prepend bytes _ unended, nextLine, if_pos rfl]
  | exhausted _ unended =>
      have computed := nextLine_prepend taken [] unended
      rw [List.append_nil] at computed
      rw [computed, nextLine, List.append_nil]
  | paused _ _ unended =>
      rw [nextLine_prepend taken _ unended, nextLine, List.append_nil]
  | failed _ fault _ unended =>
      rw [nextLine_prepend taken _ unended, nextLine, List.append_nil]

/-! ## Taking a line from chunks -/

theorem cutLine_none {bytes line : Bytes} (uncut : cutLine bytes = (line, none)) :
    line = bytes ∧ lineEnd ∉ bytes := by
  induction bytes generalizing line with
  | nil =>
      cases uncut
      exact ⟨rfl, List.not_mem_nil⟩
  | cons byte bytes inductionHypothesis =>
      by_cases isEnd : byte = lineEnd
      · rw [cutLine, if_pos isEnd] at uncut
        cases uncut
      · cases later : cutLine bytes with
        | mk lineLater left =>
            simp only [cutLine, if_neg isEnd, later, Prod.mk.injEq] at uncut
            rcases uncut with ⟨rfl, rfl⟩
            rcases inductionHypothesis later with ⟨rfl, unended⟩
            exact ⟨rfl, mt List.mem_cons.mp (not_or.mpr ⟨Ne.symm isEnd, unended⟩)⟩

theorem cutLine_some {bytes line remaining : Bytes}
    (cut : cutLine bytes = (line, some remaining)) :
    ∃ start, lineEnd ∉ start ∧ line = start ++ [lineEnd] ∧
      bytes = start ++ lineEnd :: remaining := by
  induction bytes generalizing line with
  | nil => cases cut
  | cons byte bytes inductionHypothesis =>
      by_cases isEnd : byte = lineEnd
      · rw [cutLine, if_pos isEnd] at cut
        cases cut
        subst isEnd
        exact ⟨[], List.not_mem_nil, rfl, rfl⟩
      · cases later : cutLine bytes with
        | mk lineLater left =>
            simp only [cutLine, if_neg isEnd, later, Prod.mk.injEq] at cut
            rcases cut with ⟨rfl, rfl⟩
            rcases inductionHypothesis later with ⟨start, unended, rfl, rfl⟩
            exact ⟨byte :: start, mt List.mem_cons.mp (not_or.mpr ⟨Ne.symm isEnd, unended⟩),
              rfl, rfl⟩

/-- What reading a line does at a chunk with bytes: the line ends in it, or goes on after it. -/
theorem takeLine_bytes {bytes : Bytes} (rest : List Chunk) (nonempty : bytes ≠ []) :
    (∃ start remaining, lineEnd ∉ start ∧ bytes = start ++ lineEnd :: remaining ∧
        takeLine (.bytes bytes :: rest) =
          ⟨start ++ [lineEnd], none,
            if remaining = [] then rest else .bytes remaining :: rest⟩) ∨
      (lineEnd ∉ bytes ∧
        takeLine (.bytes bytes :: rest) =
          { takeLine rest with taken := bytes ++ (takeLine rest).taken }) := by
  have notEmpty : ¬ bytes.isEmpty = true := fun empty => nonempty (List.isEmpty_iff.mp empty)
  rw [takeLine, if_neg notEmpty]
  cases cut : cutLine bytes with
  | mk line left =>
      cases left with
      | none =>
          rcases cutLine_none cut with ⟨same, unended⟩
          rw [same]
          exact Or.inr ⟨unended, rfl⟩
      | some remaining =>
          rcases cutLine_some cut with ⟨start, unended, same, whole⟩
          refine Or.inl ⟨start, remaining, unended, whole, ?_⟩
          rw [same]
          cases remaining with
          | nil => rfl
          | cons byte remaining => rfl

/-- `takeLine` takes the line at the start of the stream, and leaves the signals after it. -/
theorem takeLine_line (chunks : List Chunk) :
    Line (signals chunks) (takeLine chunks).taken (takeLine chunks).fault
      (signals (takeLine chunks).rest) := by
  induction chunks with
  | nil => exact .exhausted [] List.not_mem_nil
  | cons chunk rest inductionHypothesis =>
      rw [signals, List.flatMap_cons, ← signals]
      cases chunk with
      | fails fault =>
          by_cases interrupted : fault.kind = .interrupted
          · rw [takeLine, if_pos interrupted, Chunk.signals, if_pos interrupted]
            exact inductionHypothesis
          · rw [takeLine, if_neg interrupted, Chunk.signals, if_neg interrupted]
            exact .failed [] fault _ List.not_mem_nil
      | bytes bytes =>
          by_cases empty : bytes = []
          · subst empty
            exact .paused [] _ List.not_mem_nil
          · rw [Chunk.signals_bytes_of_ne_nil empty]
            rcases takeLine_bytes rest empty with
              ⟨start, remaining, unended, whole, taken⟩ | ⟨unended, taken⟩
            · rw [taken, whole, List.map_append, List.append_assoc, List.map_cons, List.cons_append]
              have left : signals (if remaining = [] then rest else .bytes remaining :: rest) =
                  remaining.map Signal.byte ++ signals rest := by
                split
                · rename_i nothing
                  rw [nothing, List.map_nil, List.nil_append]
                · rename_i something
                  rw [signals, List.flatMap_cons, Chunk.signals_bytes_of_ne_nil something,
                    ← signals]
              rw [left]
              exact .ended start _ unended
            · rw [taken]
              exact inductionHypothesis.prepend bytes unended

/-- Reading a source returns the line at its start, if no fault cuts that line short. -/
theorem Source.readLine_of_line {source : Source} {line : Bytes} {rest : List Signal}
    (first : Line (signals source.chunks) line none rest) :
    source.readLine =
      (.ok line, ⟨(takeLine source.chunks).rest, source.consumed + line.length⟩) := by
  have computed := first.eq_nextLine.symm.trans (takeLine_line source.chunks).eq_nextLine
  have taken : line = (takeLine source.chunks).taken := congrArg Prod.fst computed
  have unfailing : none = (takeLine source.chunks).fault :=
    congrArg (fun found => found.2.1) computed
  simp only [readLine, ← unfailing, ← taken]

theorem Line.fault_mem {stream rest : List Signal} {taken : Bytes} {fault : Fault}
    (line : Line stream taken (some fault) rest) : .fault fault ∈ stream := by
  cases line with
  | failed => exact List.mem_append_right _ List.mem_cons_self

/-- No line is cut short where every fault is an interruption. -/
theorem exists_line_of_unfailing {chunks : List Chunk}
    (unfailing : ∀ fault, Chunk.fails fault ∈ chunks → fault.kind = .interrupted) :
    ∃ line rest, Line (signals chunks) line none rest := by
  have line := takeLine_line chunks
  cases found : (takeLine chunks).fault with
  | none =>
      rw [found] at line
      exact ⟨_, _, line⟩
  | some fault =>
      rw [found] at line
      obtain ⟨chunk, member, inChunk⟩ := List.mem_flatMap.mp line.fault_mem
      cases chunk with
      | bytes content => cases content <;> simp [Chunk.signals] at inChunk
      | fails other =>
          rw [Chunk.signals, if_pos (unfailing other member)] at inChunk
          cases inChunk

theorem content_takeLine (chunks : List Chunk) :
    content chunks = (takeLine chunks).taken ++ content (takeLine chunks).rest := by
  induction chunks with
  | nil => rfl
  | cons chunk rest inductionHypothesis =>
      rw [content, List.flatMap_cons, ← content]
      cases chunk with
      | fails fault =>
          by_cases interrupted : fault.kind = .interrupted
          · rw [takeLine, if_pos interrupted]
            exact inductionHypothesis
          · rw [takeLine, if_neg interrupted]
            rfl
      | bytes bytes =>
          rw [Chunk.content]
          by_cases empty : bytes = []
          · subst empty
            rfl
          · rcases takeLine_bytes rest empty with
              ⟨start, remaining, unended, whole, taken⟩ | ⟨unended, taken⟩
            · rw [taken, whole]
              split
              · rename_i nothing
                rw [nothing]
              · rw [content, content, List.flatMap_cons, Chunk.content]
                simp only [List.append_assoc, List.cons_append, List.nil_append]
            · rw [taken, inductionHypothesis]
              simp only [List.append_assoc]

end Channel
end ExactFactorial
