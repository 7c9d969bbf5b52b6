import ExactFactorial.Proofs.Text.Decoding

namespace ExactFactorial
namespace Text
namespace Utf8

/-!
# Bytes that spell a text

The bytes of a text are decoded to it, without a malformed piece.  Here is the other direction:
where no piece is malformed, the bytes are those of the text they are decoded to.  Nothing is lost
on the way, because the bytes taken so far are at each moment those of the characters completed so
far, followed by those of the character in progress.  Inside a character, its later bytes are not
known yet.  What is known is a promise: whichever bytes in range complete the character, it has just
the bytes that were taken for it.

So the texts are exactly the bytes that a strict reader accepts, and all other bytes leave a mark in
the text of a lossy one.
-/

/-! ## Characters from their bytes -/

private theorem ofNat_eq_byte (byte : UInt8) {n : Nat} (same : n = byte.toNat) :
    UInt8.ofNat n = byte := by
  rw [same, UInt8.ofNat_toNat]

theorem val_ofNat {v : Nat} (valid : v < 0xD800 ∨ 0xDFFF < v ∧ v < 0x110000) :
    (Char.ofNat v).val.toNat = v := by
  rw [Char.ofNat, dif_pos valid]
  rfl

theorem utf8EncodeChar_single {byte : UInt8} (high : byte.toNat < 0x80) :
    String.utf8EncodeChar (Char.ofNat byte.toNat) = [byte] := by
  have code := val_ofNat (v := byte.toNat) (by omega)
  simp only [String.utf8EncodeChar, code]
  rw [if_pos (by omega), ofNat_eq_byte byte rfl]

private theorem utf8EncodeChar_two {first second : UInt8} (low : 0xC2 ≤ first.toNat)
    (high : first.toNat < 0xE0) (above : 0x80 ≤ second.toNat) (below : second.toNat ≤ 0xBF) :
    String.utf8EncodeChar (Char.ofNat ((first.toNat - 0xC0) * 64 + (second.toNat - 0x80))) =
      [first, second] := by
  generalize value : (first.toNat - 0xC0) * 64 + (second.toNat - 0x80) = v
  simp only [String.utf8EncodeChar, val_ofNat (v := v) (by omega)]
  rw [if_neg (by omega), if_pos (by omega), ofNat_eq_byte first (by omega),
    ofNat_eq_byte second (by omega)]

private theorem utf8EncodeChar_three {first second third : UInt8} (low : 0xE0 ≤ first.toNat)
    (high : first.toNat < 0xF0) (above : 0x80 ≤ second.toNat) (below : second.toNat ≤ 0xBF)
    (notOverlong : first.toNat = 0xE0 → 0xA0 ≤ second.toNat)
    (noSurrogate : first.toNat = 0xED → second.toNat ≤ 0x9F)
    (aboveLast : 0x80 ≤ third.toNat) (belowLast : third.toNat ≤ 0xBF) :
    String.utf8EncodeChar (Char.ofNat (((first.toNat - 0xE0) * 64 + (second.toNat - 0x80)) * 64 +
      (third.toNat - 0x80))) = [first, second, third] := by
  generalize value : ((first.toNat - 0xE0) * 64 + (second.toNat - 0x80)) * 64 +
    (third.toNat - 0x80) = v
  simp only [String.utf8EncodeChar, val_ofNat (v := v) (by omega)]
  rw [if_neg (by omega), if_neg (by omega), if_pos (by omega),
    ofNat_eq_byte first (by omega), ofNat_eq_byte second (by omega),
    ofNat_eq_byte third (by omega)]

private theorem utf8EncodeChar_four {first second third fourth : UInt8}
    (low : 0xF0 ≤ first.toNat) (high : first.toNat < 0xF5) (above : 0x80 ≤ second.toNat)
    (below : second.toNat ≤ 0xBF) (notOverlong : first.toNat = 0xF0 → 0x90 ≤ second.toNat)
    (notBeyond : first.toNat = 0xF4 → second.toNat ≤ 0x8F) (aboveThird : 0x80 ≤ third.toNat)
    (belowThird : third.toNat ≤ 0xBF) (aboveLast : 0x80 ≤ fourth.toNat)
    (belowLast : fourth.toNat ≤ 0xBF) :
    String.utf8EncodeChar (Char.ofNat ((((first.toNat - 0xF0) * 64 + (second.toNat - 0x80)) * 64 +
      (third.toNat - 0x80)) * 64 + (fourth.toNat - 0x80))) = [first, second, third, fourth] := by
  generalize value : (((first.toNat - 0xF0) * 64 + (second.toNat - 0x80)) * 64 +
    (third.toNat - 0x80)) * 64 + (fourth.toNat - 0x80) = v
  simp only [String.utf8EncodeChar, val_ofNat (v := v) (by omega)]
  rw [if_neg (by omega), if_neg (by omega), if_neg (by omega),
    ofNat_eq_byte first (by omega), ofNat_eq_byte second (by omega),
    ofNat_eq_byte third (by omega), ofNat_eq_byte fourth (by omega)]

/-! ## What is promised inside a character -/

/-- Whichever bytes in range complete the character, it has the bytes taken for it.  So many more
bytes are pending after the next one. -/
def Promise : Nat → Bytes → UInt8 → UInt8 → Nat → Prop
  | 0, taken, low, high, value => ∀ byte, low ≤ byte → byte ≤ high →
      String.utf8EncodeChar (Char.ofNat (value * 64 + (byte.toNat - 0x80))) = taken ++ [byte]
  | fewer + 1, taken, low, high, value => ∀ byte, low ≤ byte → byte ≤ high →
      Promise fewer (taken ++ [byte]) 0x80 0xBF (value * 64 + (byte.toNat - 0x80))

/-- The bytes taken for the character in progress, by where the machine stands. -/
def Tracks (taken : Bytes) : State → Prop
  | .between => taken = []
  | .inside low high pending value => Promise pending taken low high value

private theorem tail_range {byte : UInt8} (above : 0x80 ≤ byte) (below : byte ≤ 0xBF) :
    0x80 ≤ byte.toNat ∧ byte.toNat ≤ 0xBF :=
  ⟨UInt8.le_iff_toNat_le.mp above, UInt8.le_iff_toNat_le.mp below⟩

theorem promise_of_two {byte : UInt8} (low : 0xC2 ≤ byte.toNat) (high : byte.toNat < 0xE0) :
    Promise 0 [byte] 0x80 0xBF (byte.toNat - 0xC0) := by
  intro second above below
  have range := tail_range above below
  exact utf8EncodeChar_two low high range.1 range.2

/-- A bound that is narrower after one first byte than after the others. -/
private theorem narrowed_low {first special second bound : UInt8} (usual : 0x80 ≤ bound)
    (above : (if first = special then bound else 0x80) ≤ second) :
    0x80 ≤ second.toNat ∧ (first.toNat = special.toNat → bound.toNat ≤ second.toNat) := by
  have wide := UInt8.le_iff_toNat_le.mp usual
  split at above
  · have narrow := UInt8.le_iff_toNat_le.mp above
    exact ⟨Nat.le_trans wide narrow, fun _ => narrow⟩
  · rename_i different
    exact ⟨UInt8.le_iff_toNat_le.mp above,
      fun same => absurd (UInt8.toNat_inj.mp same) different⟩

private theorem narrowed_high {first special second bound : UInt8} (usual : bound ≤ 0xBF)
    (below : second ≤ if first = special then bound else 0xBF) :
    second.toNat ≤ 0xBF ∧ (first.toNat = special.toNat → second.toNat ≤ bound.toNat) := by
  have wide := UInt8.le_iff_toNat_le.mp usual
  split at below
  · have narrow := UInt8.le_iff_toNat_le.mp below
    exact ⟨Nat.le_trans narrow wide, fun _ => narrow⟩
  · rename_i different
    exact ⟨UInt8.le_iff_toNat_le.mp below,
      fun same => absurd (UInt8.toNat_inj.mp same) different⟩

theorem promise_of_three {byte : UInt8} (low : 0xE0 ≤ byte.toNat) (high : byte.toNat < 0xF0) :
    Promise 1 [byte] (if byte = 0xE0 then 0xA0 else 0x80) (if byte = 0xED then 0x9F else 0xBF)
      (byte.toNat - 0xE0) := by
  intro second above below third aboveLast belowLast
  have range := tail_range aboveLast belowLast
  have fromLow := narrowed_low (by decide) above
  have toHigh := narrowed_high (by decide) below
  exact utf8EncodeChar_three low high fromLow.1 toHigh.1 fromLow.2 toHigh.2 range.1 range.2

theorem promise_of_four {byte : UInt8} (low : 0xF0 ≤ byte.toNat) (high : byte.toNat < 0xF5) :
    Promise 2 [byte] (if byte = 0xF0 then 0x90 else 0x80) (if byte = 0xF4 then 0x8F else 0xBF)
      (byte.toNat - 0xF0) := by
  intro second above below third aboveThird belowThird fourth aboveLast belowLast
  have rangeThird := tail_range aboveThird belowThird
  have range := tail_range aboveLast belowLast
  have fromLow := narrowed_low (by decide) above
  have toHigh := narrowed_high (by decide) below
  exact utf8EncodeChar_four low high fromLow.1 toHigh.1 fromLow.2 toHigh.2 rangeThird.1
    rangeThird.2 range.1 range.2

/-! ## From one byte to all of them -/

/-- The bytes of a piece, where a malformed one has those of the mark. -/
def pieceBytes (piece : Option Char) : Bytes :=
  String.utf8EncodeChar (piece.getD replacement)

/-- A first byte is either a character, or the start of one, or malformed. -/
theorem first_tracks {byte : UInt8} (sound : none ∉ (first byte).1) :
    ∃ taken, (first byte).1.flatMap pieceBytes ++ taken = [byte] ∧ Tracks taken (first byte).2 := by
  by_cases single : byte.toNat < 0x80
  · rw [first_single single]
    exact ⟨[], by simpa [pieceBytes] using utf8EncodeChar_single single, rfl⟩
  by_cases two : 0xC2 ≤ byte.toNat ∧ byte.toNat < 0xE0
  · rw [first_of_two two.1 two.2]
    exact ⟨[byte], rfl, promise_of_two two.1 two.2⟩
  by_cases three : 0xE0 ≤ byte.toNat ∧ byte.toNat < 0xF0
  · rw [first_of_three three.1 three.2]
    exact ⟨[byte], rfl, promise_of_three three.1 three.2⟩
  by_cases four : 0xF0 ≤ byte.toNat ∧ byte.toNat < 0xF5
  · rw [first_of_four four.1 four.2]
    exact ⟨[byte], rfl, promise_of_four four.1 four.2⟩
  have stray : first byte = ([none], .between) := by
    rw [first]
    simp only [UInt8.lt_iff_toNat_lt]
    split
    · rename_i isSingle
      exact absurd isSingle single
    split
    · rfl
    split
    · rename_i notLow isTwo
      exact absurd ⟨Nat.not_lt.mp notLow, isTwo⟩ two
    split
    · rename_i notTwo isThree
      exact absurd ⟨Nat.not_lt.mp notTwo, isThree⟩ three
    split
    · rename_i notThree isFour
      exact absurd ⟨Nat.not_lt.mp notThree, isFour⟩ four
    rfl
  rw [stray] at sound
  exact absurd List.mem_cons_self sound

/-- One byte: what it completes and what is in progress after it make up what was in progress before
it and the byte. -/
theorem step_tracks {state : State} {taken : Bytes} {byte : UInt8} (tracks : Tracks taken state)
    (sound : none ∉ (step state byte).1) :
    ∃ later, (step state byte).1.flatMap pieceBytes ++ later = taken ++ [byte] ∧
      Tracks later (step state byte).2 := by
  cases state with
  | between =>
      have nothing : taken = [] := tracks
      rw [nothing]
      exact first_tracks sound
  | inside low high pending value =>
      rw [step] at sound ⊢
      split at sound
      · rename_i inRange
        rw [if_pos inRange]
        cases pending with
        | zero =>
            have complete := tracks byte inRange.1 inRange.2
            exact ⟨[], by simpa [pieceBytes] using complete, rfl⟩
        | succ fewer => exact ⟨taken ++ [byte], rfl, tracks byte inRange.1 inRange.2⟩
      · exact absurd List.mem_cons_self sound

/-- Where no piece is malformed, the pieces have all the bytes there were. -/
theorem flatMap_piecesFrom {state : State} {taken : Bytes} (bytes : Bytes)
    (tracks : Tracks taken state) (sound : none ∉ piecesFrom state bytes) :
    (piecesFrom state bytes).flatMap pieceBytes = taken ++ bytes := by
  induction bytes generalizing state taken with
  | nil =>
      cases state with
      | between =>
          have nothing : taken = [] := tracks
          rw [nothing]
          rfl
      | inside low high pending value => exact absurd List.mem_cons_self sound
  | cons byte rest inductionHypothesis =>
      rw [piecesFrom_cons] at sound ⊢
      rw [List.mem_append, not_or] at sound
      obtain ⟨later, completed, tracksLater⟩ := step_tracks tracks sound.1
      calc
        ((step state byte).1 ++ piecesFrom (step state byte).2 rest).flatMap pieceBytes =
            (step state byte).1.flatMap pieceBytes ++ (later ++ rest) := by
          rw [List.flatMap_append, inductionHypothesis tracksLater sound.2]
        _ = taken ++ byte :: rest := by
          rw [← List.append_assoc, completed, List.append_assoc]
          rfl

/-! ## Texts and all other bytes -/

theorem isText_eq_true_iff (bytes : Bytes) : isText bytes = true ↔ none ∉ pieces bytes := by
  rw [isText, List.all_eq_true]
  constructor
  · intro sound malformed
    exact absurd (sound none malformed) (by decide)
  · intro sound piece member
    cases piece with
    | none => exact absurd member sound
    | some c => rfl

/-- Decoding loses nothing where no piece is malformed. -/
theorem encode_lossy {bytes : Bytes} (text : isText bytes = true) :
    encode (lossy bytes) = bytes := by
  have start : Tracks [] .between := rfl
  have whole := flatMap_piecesFrom bytes start ((isText_eq_true_iff bytes).mp text)
  rw [encode, lossy, String.toList_ofList, List.flatMap_map]
  exact whole

/-- The strict reader accepts the bytes of texts and no others. -/
theorem isText_iff_exists_encode (bytes : Bytes) :
    isText bytes = true ↔ ∃ text, encode text = bytes := by
  constructor
  · intro text
    exact ⟨lossy bytes, encode_lossy text⟩
  · rintro ⟨text, rfl⟩
    exact isText_encode text

/-- Bytes that are not those of a text leave a mark. -/
theorem replacement_mem_lossy {bytes : Bytes} (malformed : ∀ text, encode text ≠ bytes) :
    replacement ∈ (lossy bytes).toList := by
  have notText : ¬ isText bytes = true := by
    rw [isText_iff_exists_encode]
    rintro ⟨text, same⟩
    exact malformed text same
  rw [isText_eq_true_iff, Classical.not_not] at notText
  rw [lossy, String.toList_ofList]
  exact List.mem_map.mpr ⟨none, notText, rfl⟩

/-- A byte below `0x80` stands for itself: no longer character has one among its bytes. -/
theorem mem_of_mem_encode {text : String} {byte : UInt8} (high : byte.toNat < 0x80)
    (member : byte ∈ encode text) : Char.ofNat byte.toNat ∈ text.toList := by
  obtain ⟨c, inText, inChar⟩ := List.mem_flatMap.mp member
  have small : ∀ n, byte = UInt8.ofNat n → n < 256 → byte.toNat = n := by
    rintro n rfl below
    simp [Nat.mod_eq_of_lt below]
  have same : Char.ofNat byte.toNat = c := by
    rw [String.utf8EncodeChar] at inChar
    split at inChar
    · have code := small c.val.toNat (List.mem_singleton.mp inChar) (by omega)
      rw [code]
      exact Char.ofNat_toNat c
    · exfalso
      -- Every byte of a longer character has its highest bit set.
      split at inChar
      · rcases List.mem_cons.mp inChar with lead | tail
        · have := small _ lead (by omega)
          omega
        · have := small _ (List.mem_singleton.mp tail) (by omega)
          omega
      · split at inChar
        · simp only [List.mem_cons, List.not_mem_nil, or_false] at inChar
          rcases inChar with one | one | one <;>
          · have := small _ one (by omega)
            omega
        · simp only [List.mem_cons, List.not_mem_nil, or_false] at inChar
          rcases inChar with one | one | one | one <;>
          · have := small _ one (by omega)
            omega
  rw [same]
  exact inText

end Utf8
end Text
end ExactFactorial
