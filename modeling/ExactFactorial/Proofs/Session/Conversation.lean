import ExactFactorial.Proofs.Channel.Delivery
import ExactFactorial.Proofs.Channel.Lines
import ExactFactorial.Session

namespace ExactFactorial
namespace Session

open Channel

/-!
# Many calls on one source

Several sessions may share a source and take turns.  Each call has a session and a sink of its own,
and only a call that asks can move the source.  What a call does to the source is described on the
stream of signals: a block of bytes is gone from its start, and the block is the line there or
nothing.  A conversation strings such calls together, and the blocks of its calls are the bytes of
the source up to where the conversation left it.
-/

inductive Call where
  | ask (session : Session) (sink : Sink)
  | answer (session : Session) (line : String) (sink : Sink)

def Call.perform (source : Source) : Call → Exchange × Source
  | .ask session sink => session.ask source sink
  | .answer session line sink => (session.answer line sink, source)

/-- Make calls one after another on the same source. -/
def performAll (source : Source) : List Call → List Exchange × Source
  | [] => ([], source)
  | call :: later =>
      let first := call.perform source
      let rest := performAll first.2 later
      (first.1 :: rest.1, rest.2)

/-- What a call may do where the stream is `stream`: it takes `block`, has an exchange, and leaves
`rest`. -/
inductive Takes : Call → List Signal → Bytes → Exchange → List Signal → Prop
  /-- An answer takes nothing. -/
  | answer (session : Session) (line : String) (sink : Sink) (stream : List Signal) :
      Takes (.answer session line sink) stream [] (session.answer line sink) stream
  /-- A prompt that was not written or not flushed takes nothing. -/
  | unprompted (session : Session) {sink next : Sink} {obstacle : Obstacle} (stream : List Signal)
      (stopped : sink.put (Text.Utf8.encode session.prompt) = (.error obstacle, next)) :
      Takes (.ask session sink) stream [] ⟨.error obstacle, next, []⟩ stream
  /-- A fault of the source loses the line.  The sink has seen the prompt and nothing else. -/
  | lost (session : Session) {sink next : Sink} {fault : Fault} {stream rest : List Signal}
      {block : Bytes} (prompted : sink.put (Text.Utf8.encode session.prompt) = (.ok (), next))
      (shown : next.accepted = sink.accepted ++ Text.Utf8.encode session.prompt)
      (line : Line stream block (some fault) rest) :
      Takes (.ask session sink) stream block ⟨.error (.fault fault), next, []⟩ rest
  /-- A line that was read is answered as if it had been given. -/
  | heard (session : Session) {sink next : Sink} {stream rest : List Signal} {block : Bytes}
      (prompted : sink.put (Text.Utf8.encode session.prompt) = (.ok (), next))
      (line : Line stream block none rest) :
      Takes (.ask session sink) stream block (session.answer (Text.Utf8.lossy block) next) rest

/-- Calls in a row, each of which takes its block where the one before it left the stream. -/
inductive Blocks : List Call → List Signal → List Bytes → List Exchange → List Signal → Prop
  | nil (stream : List Signal) : Blocks [] stream [] [] stream
  | cons {call : Call} {later : List Call} {stream middle rest : List Signal} {block : Bytes}
      {blocks : List Bytes} {exchange : Exchange} {exchanges : List Exchange}
      (first : Takes call stream block exchange middle)
      (others : Blocks later middle blocks exchanges rest) :
      Blocks (call :: later) stream (block :: blocks) (exchange :: exchanges) rest

/-! ## One call -/

/-- The bytes of a source that are still to come. -/
def remaining (source : Source) : Bytes :=
  content source.chunks

/-- Where one call leaves a source: a block is gone from its bytes, and is counted. -/
theorem perform_takes (source : Source) (call : Call) :
    ∃ block, Takes call (signals source.chunks) block (call.perform source).1
        (signals (call.perform source).2.chunks) ∧
      remaining source = block ++ remaining (call.perform source).2 ∧
      (call.perform source).2.consumed = source.consumed + block.length := by
  cases call with
  | answer session line sink =>
      exact ⟨[], .answer session line sink _, rfl, rfl⟩
  | ask session sink =>
      rw [Call.perform, ask]
      cases prompted : sink.put (Text.Utf8.encode session.prompt) with
      | mk result next =>
          cases result with
          | error obstacle => exact ⟨[], .unprompted session _ prompted, rfl, rfl⟩
          | ok done =>
              have line := takeLine_line source.chunks
              have bytes := content_takeLine source.chunks
              rw [Source.readLine]
              cases met : (takeLine source.chunks).fault with
              | some fault =>
                  rw [met] at line
                  exact ⟨_, .lost session prompted (Sink.accepted_of_put_ok prompted) line,
                    bytes, rfl⟩
              | none =>
                  rw [met] at line
                  exact ⟨_, .heard session prompted line, bytes, rfl⟩

/-- A call and a stream leave no choice. -/
theorem Takes.unique {call : Call} {stream rest rest' : List Signal} {block block' : Bytes}
    {exchange exchange' : Exchange} (first : Takes call stream block exchange rest)
    (second : Takes call stream block' exchange' rest') :
    block = block' ∧ exchange = exchange' ∧ rest = rest' := by
  cases first with
  | answer session line sink =>
      cases second
      exact ⟨rfl, rfl, rfl⟩
  | unprompted session _ stopped =>
      cases second with
      | unprompted _ _ stopped' =>
          cases stopped.symm.trans stopped'
          exact ⟨rfl, rfl, rfl⟩
      | lost _ prompted' => cases stopped.symm.trans prompted'
      | heard _ prompted' => cases stopped.symm.trans prompted'
  | lost session prompted shown line =>
      cases second with
      | unprompted _ _ stopped' => cases prompted.symm.trans stopped'
      | lost _ prompted' _ line' =>
          cases prompted.symm.trans prompted'
          cases line.eq_nextLine.symm.trans line'.eq_nextLine
          exact ⟨rfl, rfl, rfl⟩
      | heard _ prompted' line' => cases line.eq_nextLine.symm.trans line'.eq_nextLine
  | heard session prompted line =>
      cases second with
      | unprompted _ _ stopped' => cases prompted.symm.trans stopped'
      | lost _ prompted' _ line' => cases line.eq_nextLine.symm.trans line'.eq_nextLine
      | heard _ prompted' line' =>
          cases prompted.symm.trans prompted'
          cases line.eq_nextLine.symm.trans line'.eq_nextLine
          exact ⟨rfl, rfl, rfl⟩

/-! ## All calls of a conversation -/

theorem performAll_blocks (source : Source) (calls : List Call) :
    ∃ blocks, Blocks calls (signals source.chunks) blocks (performAll source calls).1
        (signals (performAll source calls).2.chunks) ∧
      remaining source = blocks.flatten ++ remaining (performAll source calls).2 ∧
      (performAll source calls).2.consumed = source.consumed + blocks.flatten.length := by
  induction calls generalizing source with
  | nil => exact ⟨[], .nil _, rfl, rfl⟩
  | cons call later inductionHypothesis =>
      rcases perform_takes source call with ⟨block, taken, bytes, counted⟩
      rcases inductionHypothesis (call.perform source).2 with
        ⟨blocks, others, bytesLater, countedLater⟩
      refine ⟨block :: blocks, .cons taken others, ?_, ?_⟩
      · rw [bytes, bytesLater, List.flatten_cons, List.append_assoc]
        rfl
      · rw [List.flatten_cons, List.length_append, ← Nat.add_assoc, ← counted]
        exact countedLater

theorem Blocks.unique {calls : List Call} {stream rest rest' : List Signal}
    {blocks blocks' : List Bytes} {exchanges exchanges' : List Exchange}
    (first : Blocks calls stream blocks exchanges rest)
    (second : Blocks calls stream blocks' exchanges' rest') :
    blocks = blocks' ∧ exchanges = exchanges' ∧ rest = rest' := by
  induction first generalizing blocks' exchanges' rest' with
  | nil stream =>
      cases second
      exact ⟨rfl, rfl, rfl⟩
  | cons taken _ inductionHypothesis =>
      cases second with
      | cons taken' others' =>
          rcases taken.unique taken' with ⟨rfl, rfl, rfl⟩
          rcases inductionHypothesis others' with ⟨rfl, rfl, rfl⟩
          exact ⟨rfl, rfl, rfl⟩

/-- No byte is read twice, skipped or read ahead.  The calls of a conversation take consecutive
blocks of the bytes of the source, each block the line at which the call found the stream or
nothing, and the count is their total length.  Where the bytes were cut into chunks, and how often
reading was interrupted, changes neither an exchange nor the count nor what is left to read. -/
theorem conversation_takes_consecutive_blocks (source : Source) (calls : List Call) :
    ∃ blocks : List Bytes,
      Blocks calls (signals source.chunks) blocks (performAll source calls).1
        (signals (performAll source calls).2.chunks) ∧
      remaining source = blocks.flatten ++ remaining (performAll source calls).2 ∧
      (performAll source calls).2.consumed = source.consumed + blocks.flatten.length ∧
      ∀ chunks, Recut source.chunks chunks →
        (performAll { source with chunks } calls).1 = (performAll source calls).1 ∧
        (performAll { source with chunks } calls).2.consumed =
          (performAll source calls).2.consumed ∧
        signals (performAll { source with chunks } calls).2.chunks =
          signals (performAll source calls).2.chunks := by
  rcases performAll_blocks source calls with ⟨blocks, taken, bytes, counted⟩
  refine ⟨blocks, taken, bytes, counted, fun chunks recut => ?_⟩
  rcases performAll_blocks { source with chunks } calls with ⟨blocks', taken', _, counted'⟩
  rw [← recut.signals_eq] at taken'
  rcases taken.unique taken' with ⟨rfl, sameExchanges, sameRest⟩
  exact ⟨sameExchanges.symm, counted'.trans counted.symm, sameRest.symm⟩

/-- Two questions to a source whose first line is cut before its end. -/
theorem conversation_across_cut :
    (performAll { chunks := [.bytes [0x35], .bytes [lineEnd, 0x36]] } [.ask {} {}, .ask {} {}]).1 =
        (performAll { chunks := [.bytes [0x35, lineEnd, 0x36]] } [.ask {} {}, .ask {} {}]).1 ∧
      (performAll { chunks := [.bytes [0x35], .bytes [lineEnd, 0x36]] }
          [.ask {} {}, .ask {} {}]).2.consumed =
        (performAll { chunks := [.bytes [0x35, lineEnd, 0x36]] }
          [.ask {} {}, .ask {} {}]).2.consumed := by
  have cut : Recut [.bytes ([0x35] ++ [lineEnd, 0x36])] [.bytes [0x35], .bytes [lineEnd, 0x36]] :=
    .cut [] [] (List.cons_ne_nil _ _) (List.cons_ne_nil _ _)
  rcases conversation_takes_consecutive_blocks { chunks := [.bytes [0x35, lineEnd, 0x36]] }
    [.ask {} {}, .ask {} {}] with ⟨_, _, _, _, recut⟩
  exact ⟨(recut _ cut).1, (recut _ cut).2.1⟩

end Session
end ExactFactorial
