namespace ExactFactorial

/-- What channels carry, and what an argument of a command line is made of.  Nothing says that the
bytes spell a text. -/
abbrev Bytes := List UInt8

namespace Text
namespace Utf8

/-!
# Bytes and characters

Decoding is a machine that takes one byte at a time.  Between characters it looks for a first
byte; inside a character it knows which bytes may come next, how many more are pending and the
value collected so far.  A byte that cannot continue the character ends it as one malformed piece
and is then looked at again as a first byte.  So each longest beginning of a well-formed character,
and otherwise each single stray byte, is one malformed piece.

The range of the second byte is what excludes overlong forms, surrogates and values above U+10FFFF.
-/

/-- The bytes of a text. -/
def encode (text : String) : Bytes :=
  text.toList.flatMap String.utf8EncodeChar

/-- Where the machine stands. -/
inductive State where
  | between
  /-- The next byte lies from `low` to `high`, and `pending` more bytes follow it. -/
  | inside (low high : UInt8) (pending : Nat) (value : Nat)
  deriving Repr, DecidableEq

/-- A byte at the start of a character.  A piece is `none` where the bytes are malformed. -/
def first (byte : UInt8) : List (Option Char) × State :=
  if byte < 0x80 then ([some (Char.ofNat byte.toNat)], .between)
  else if byte < 0xC2 then ([none], .between)
  else if byte < 0xE0 then ([], .inside 0x80 0xBF 0 (byte.toNat - 0xC0))
  else if byte < 0xF0 then
    ([], .inside (if byte = 0xE0 then 0xA0 else 0x80) (if byte = 0xED then 0x9F else 0xBF) 1
      (byte.toNat - 0xE0))
  else if byte < 0xF5 then
    ([], .inside (if byte = 0xF0 then 0x90 else 0x80) (if byte = 0xF4 then 0x8F else 0xBF) 2
      (byte.toNat - 0xF0))
  else ([none], .between)

/-- One byte: the pieces it completes and where the machine stands afterwards. -/
def step : State → UInt8 → List (Option Char) × State
  | .between, byte => first byte
  | .inside low high pending value, byte =>
      if low ≤ byte ∧ byte ≤ high then
        let grown := value * 64 + (byte.toNat - 0x80)
        match pending with
        | 0 => ([some (Char.ofNat grown)], .between)
        | fewer + 1 => ([], .inside 0x80 0xBF fewer grown)
      else
        (none :: (first byte).1, (first byte).2)

/-- What the end of the bytes completes: an unfinished character is malformed. -/
def finish : State → List (Option Char)
  | .between => []
  | .inside .. => [none]

/-- The pieces of the bytes that follow a state. -/
def piecesFrom : State → Bytes → List (Option Char)
  | state, [] => finish state
  | state, byte :: rest =>
      let next := step state byte
      next.1 ++ piecesFrom next.2 rest

/-- The characters that the bytes spell, with `none` for each malformed piece. -/
def pieces (bytes : Bytes) : List (Option Char) :=
  piecesFrom .between bytes

/-- The mark U+FFFD that stands for a malformed piece. -/
def replacement : Char := '\uFFFD'

/-- The text with every malformed piece replaced by the mark. -/
def lossy (bytes : Bytes) : String :=
  String.ofList ((pieces bytes).map fun piece => piece.getD replacement)

/-- Whether the bytes spell a text: no piece is malformed. -/
def isText (bytes : Bytes) : Bool :=
  (pieces bytes).all Option.isSome

/-- The text that the bytes spell, if they spell one. -/
def decode? (bytes : Bytes) : Option String :=
  if isText bytes then some (lossy bytes) else none

end Utf8
end Text
end ExactFactorial
