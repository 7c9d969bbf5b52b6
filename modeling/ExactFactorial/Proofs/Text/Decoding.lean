import ExactFactorial.Text.Utf8

namespace ExactFactorial
namespace Text
namespace Utf8

/-!
# Decoding what was encoded

The machine that decodes bytes takes the bytes of one character back to that character, whatever
follows them.  The first byte decides how many follow and in which range the second one lies; each
later byte adds six bits.  The four lengths of an encoded character are chains of such steps.  From
there a text that was encoded is decoded without loss, by the strict decoder and by the lossy one.
-/

/-! ## Steps of the machine, in terms of numbers -/

private theorem not_lt_of_toNat_le {byte bound : UInt8} (above : bound.toNat ≤ byte.toNat) :
    ¬ byte < bound := by
  rw [UInt8.lt_iff_toNat_lt]
  omega

theorem first_single {byte : UInt8} (high : byte.toNat < 0x80) :
    first byte = ([some (Char.ofNat byte.toNat)], .between) := by
  have below : byte < 0x80 := UInt8.lt_iff_toNat_lt.mpr high
  rw [first, if_pos below]

theorem first_of_two {byte : UInt8} (low : 0xC2 ≤ byte.toNat) (high : byte.toNat < 0xE0) :
    first byte = ([], .inside 0x80 0xBF 0 (byte.toNat - 0xC0)) := by
  have notSingle : ¬ byte < 0x80 := not_lt_of_toNat_le (Nat.le_trans (by decide) low)
  have notStray : ¬ byte < 0xC2 := not_lt_of_toNat_le low
  have below : byte < 0xE0 := UInt8.lt_iff_toNat_lt.mpr high
  rw [first, if_neg notSingle, if_neg notStray, if_pos below]

/-- A first byte that announces two more.  The range of the next byte leaves out overlong forms
and surrogates. -/
theorem first_of_three {byte : UInt8} (low : 0xE0 ≤ byte.toNat) (high : byte.toNat < 0xF0) :
    first byte =
      ([], .inside (if byte = 0xE0 then 0xA0 else 0x80) (if byte = 0xED then 0x9F else 0xBF) 1
        (byte.toNat - 0xE0)) := by
  have notSingle : ¬ byte < 0x80 := not_lt_of_toNat_le (Nat.le_trans (by decide) low)
  have notStray : ¬ byte < 0xC2 := not_lt_of_toNat_le (Nat.le_trans (by decide) low)
  have notTwo : ¬ byte < 0xE0 := not_lt_of_toNat_le low
  have below : byte < 0xF0 := UInt8.lt_iff_toNat_lt.mpr high
  rw [first, if_neg notSingle, if_neg notStray, if_neg notTwo, if_pos below]

/-- A first byte that announces three more.  The range of the next byte leaves out overlong forms
and what lies above the last character. -/
theorem first_of_four {byte : UInt8} (low : 0xF0 ≤ byte.toNat) (high : byte.toNat < 0xF5) :
    first byte =
      ([], .inside (if byte = 0xF0 then 0x90 else 0x80) (if byte = 0xF4 then 0x8F else 0xBF) 2
        (byte.toNat - 0xF0)) := by
  have notSingle : ¬ byte < 0x80 := not_lt_of_toNat_le (Nat.le_trans (by decide) low)
  have notStray : ¬ byte < 0xC2 := not_lt_of_toNat_le (Nat.le_trans (by decide) low)
  have notTwo : ¬ byte < 0xE0 := not_lt_of_toNat_le (Nat.le_trans (by decide) low)
  have notThree : ¬ byte < 0xF0 := not_lt_of_toNat_le low
  have below : byte < 0xF5 := UInt8.lt_iff_toNat_lt.mpr high
  rw [first, if_neg notSingle, if_neg notStray, if_neg notTwo, if_neg notThree, if_pos below]

/-- One byte of a run: what it completes comes before what the later bytes give. -/
theorem piecesFrom_cons (state : State) (byte : UInt8) (rest : Bytes) :
    piecesFrom state (byte :: rest) =
      (step state byte).1 ++ piecesFrom (step state byte).2 rest := by
  rfl

private theorem toNat_ofNat_byte {n : Nat} (small : n < 256) : (UInt8.ofNat n).toNat = n := by
  rw [UInt8.toNat_ofNat', Nat.mod_eq_of_lt small]

private theorem piecesFrom_last {low high : UInt8} {value v : Nat} {rest : Bytes}
    (above : low.toNat ≤ v % 0x40 + 0x80) (below : v % 0x40 + 0x80 ≤ high.toNat) :
    piecesFrom (.inside low high 0 value) (UInt8.ofNat (v % 0x40 + 0x80) :: rest) =
      some (Char.ofNat (value * 64 + v % 0x40)) :: piecesFrom .between rest := by
  have size : (UInt8.ofNat (v % 0x40 + 0x80)).toNat = v % 0x40 + 0x80 :=
    toNat_ofNat_byte (by omega)
  have inRange : low ≤ UInt8.ofNat (v % 0x40 + 0x80) ∧ UInt8.ofNat (v % 0x40 + 0x80) ≤ high := by
    rw [UInt8.le_iff_toNat_le, UInt8.le_iff_toNat_le, size]
    exact ⟨above, below⟩
  rw [piecesFrom_cons]
  simp only [step, if_pos inRange, size, Nat.add_sub_cancel]
  rfl

/-- A byte in the middle of a character adds six bits. -/
private theorem piecesFrom_middle {low high : UInt8} {pending value v : Nat} {rest : Bytes}
    (above : low.toNat ≤ v % 0x40 + 0x80) (below : v % 0x40 + 0x80 ≤ high.toNat) :
    piecesFrom (.inside low high (pending + 1) value) (UInt8.ofNat (v % 0x40 + 0x80) :: rest) =
      piecesFrom (.inside 0x80 0xBF pending (value * 64 + v % 0x40)) rest := by
  have size : (UInt8.ofNat (v % 0x40 + 0x80)).toNat = v % 0x40 + 0x80 :=
    toNat_ofNat_byte (by omega)
  have inRange : low ≤ UInt8.ofNat (v % 0x40 + 0x80) ∧ UInt8.ofNat (v % 0x40 + 0x80) ≤ high := by
    rw [UInt8.le_iff_toNat_le, UInt8.le_iff_toNat_le, size]
    exact ⟨above, below⟩
  rw [piecesFrom_cons]
  simp only [step, if_pos inRange, size, Nat.add_sub_cancel]
  rfl

private theorem continuation_range (v : Nat) :
    (0x80 : UInt8).toNat ≤ v % 0x40 + 0x80 ∧ v % 0x40 + 0x80 ≤ (0xBF : UInt8).toNat := by
  change 0x80 ≤ v % 0x40 + 0x80 ∧ v % 0x40 + 0x80 ≤ 0xBF
  omega

/-! ## The bytes of one character -/

theorem piecesFrom_single {byte : UInt8} (rest : Bytes) (high : byte.toNat < 0x80) :
    piecesFrom .between (byte :: rest) =
      some (Char.ofNat byte.toNat) :: piecesFrom .between rest := by
  rw [piecesFrom_cons]
  simp only [step, first_single high]
  rfl

private theorem piecesFrom_two (v : Nat) (rest : Bytes) (low : 0x7F < v) (high : v ≤ 0x7FF) :
    piecesFrom .between
        (UInt8.ofNat (v / 64 % 0x20 + 0xC0) :: UInt8.ofNat (v % 0x40 + 0x80) :: rest) =
      some (Char.ofNat v) :: piecesFrom .between rest := by
  have size : (UInt8.ofNat (v / 64 % 0x20 + 0xC0)).toNat = v / 64 + 0xC0 := by
    rw [toNat_ofNat_byte (by omega)]
    omega
  have start := @first_of_two (UInt8.ofNat (v / 64 % 0x20 + 0xC0)) (by omega) (by omega)
  have whole : v / 64 * 64 + v % 0x40 = v := by omega
  rw [piecesFrom_cons]
  simp only [step, start, size, Nat.add_sub_cancel, List.nil_append]
  rw [piecesFrom_last (continuation_range v).1 (continuation_range v).2, whole]

private theorem piecesFrom_three (v : Nat) (rest : Bytes) (low : 0x7FF < v) (high : v ≤ 0xFFFF)
    (noSurrogate : v < 0xD800 ∨ 0xDFFF < v) :
    piecesFrom .between
        (UInt8.ofNat (v / 4096 % 0x10 + 0xE0) :: UInt8.ofNat (v / 64 % 0x40 + 0x80) ::
          UInt8.ofNat (v % 0x40 + 0x80) :: rest) =
      some (Char.ofNat v) :: piecesFrom .between rest := by
  have size : (UInt8.ofNat (v / 4096 % 0x10 + 0xE0)).toNat = v / 4096 + 0xE0 := by
    rw [toNat_ofNat_byte (by omega)]
    omega
  have start := @first_of_three (UInt8.ofNat (v / 4096 % 0x10 + 0xE0)) (by omega) (by omega)
  have whole : (v / 4096 * 64 + v / 64 % 0x40) * 64 + v % 0x40 = v := by omega
  -- The least first byte excludes what fits in two bytes, and the byte 0xED the surrogates.
  have above :
      (if UInt8.ofNat (v / 4096 % 0x10 + 0xE0) = 0xE0 then (0xA0 : UInt8) else 0x80).toNat ≤
        v / 64 % 0x40 + 0x80 := by
    split
    · rename_i least
      have smallest : v / 4096 + 0xE0 = 0xE0 := by rw [← size, least]; rfl
      change 0xA0 ≤ _
      omega
    · exact (continuation_range (v / 64)).1
  have below : v / 64 % 0x40 + 0x80 ≤
      (if UInt8.ofNat (v / 4096 % 0x10 + 0xE0) = 0xED then (0x9F : UInt8) else 0xBF).toNat := by
    split
    · rename_i gap
      have atGap : v / 4096 + 0xE0 = 0xED := by rw [← size, gap]; rfl
      change _ ≤ 0x9F
      omega
    · exact (continuation_range (v / 64)).2
  rw [piecesFrom_cons]
  simp only [step, start, size, Nat.add_sub_cancel, List.nil_append]
  rw [piecesFrom_middle above below,
    piecesFrom_last (continuation_range v).1 (continuation_range v).2, whole]

private theorem piecesFrom_four (v : Nat) (rest : Bytes) (low : 0xFFFF < v) (high : v < 0x110000) :
    piecesFrom .between
        (UInt8.ofNat (v / 262144 % 0x08 + 0xF0) :: UInt8.ofNat (v / 4096 % 0x40 + 0x80) ::
          UInt8.ofNat (v / 64 % 0x40 + 0x80) :: UInt8.ofNat (v % 0x40 + 0x80) :: rest) =
      some (Char.ofNat v) :: piecesFrom .between rest := by
  have size : (UInt8.ofNat (v / 262144 % 0x08 + 0xF0)).toNat = v / 262144 + 0xF0 := by
    rw [toNat_ofNat_byte (by omega)]
    omega
  have start := @first_of_four (UInt8.ofNat (v / 262144 % 0x08 + 0xF0)) (by omega) (by omega)
  have whole :
      ((v / 262144 * 64 + v / 4096 % 0x40) * 64 + v / 64 % 0x40) * 64 + v % 0x40 = v := by omega
  -- The least first byte excludes what fits in three bytes, and the greatest what is too large.
  have above :
      (if UInt8.ofNat (v / 262144 % 0x08 + 0xF0) = 0xF0 then (0x90 : UInt8) else 0x80).toNat ≤
        v / 4096 % 0x40 + 0x80 := by
    split
    · rename_i least
      have smallest : v / 262144 + 0xF0 = 0xF0 := by rw [← size, least]; rfl
      change 0x90 ≤ _
      omega
    · exact (continuation_range (v / 4096)).1
  have below : v / 4096 % 0x40 + 0x80 ≤
      (if UInt8.ofNat (v / 262144 % 0x08 + 0xF0) = 0xF4 then (0x8F : UInt8) else 0xBF).toNat := by
    split
    · rename_i greatest
      have atTop : v / 262144 + 0xF0 = 0xF4 := by rw [← size, greatest]; rfl
      change _ ≤ 0x8F
      omega
    · exact (continuation_range (v / 4096)).2
  rw [piecesFrom_cons]
  simp only [step, start, size, Nat.add_sub_cancel, List.nil_append]
  rw [piecesFrom_middle above below,
    piecesFrom_middle (continuation_range (v / 64)).1 (continuation_range (v / 64)).2,
    piecesFrom_last (continuation_range v).1 (continuation_range v).2, whole]

/-- The bytes of a character are decoded to it, and what follows is decoded on its own. -/
theorem piecesFrom_utf8EncodeChar (c : Char) (rest : Bytes) :
    piecesFrom .between (String.utf8EncodeChar c ++ rest) =
      some c :: piecesFrom .between rest := by
  have valid : c.val.toNat < 0xD800 ∨ 0xDFFF < c.val.toNat ∧ c.val.toNat < 0x110000 := c.valid
  have same : Char.ofNat c.val.toNat = c := Char.ofNat_toNat c
  rw [String.utf8EncodeChar]
  split
  · rename_i one
    have size : (UInt8.ofNat c.val.toNat).toNat = c.val.toNat := toNat_ofNat_byte (by omega)
    rw [List.cons_append, List.nil_append, piecesFrom_single rest (by omega), size, same]
  · split
    · rename_i notOne two
      rw [List.cons_append, List.cons_append, List.nil_append,
        piecesFrom_two _ _ (by omega) two, same]
    · split
      · rename_i notOne notTwo three
        rw [List.cons_append, List.cons_append, List.cons_append, List.nil_append,
          piecesFrom_three _ _ (by omega) three (by omega), same]
      · rename_i notOne notTwo notThree
        rw [List.cons_append, List.cons_append, List.cons_append, List.cons_append,
          List.nil_append, piecesFrom_four _ _ (by omega) (by omega), same]

/-! ## The bytes of a text -/

@[simp] theorem encode_append (left right : String) :
    encode (left ++ right) = encode left ++ encode right := by
  rw [encode, encode, encode, String.toList_append, List.flatMap_append]

/-- A first byte below `0x80` is the first character of the text. -/
theorem toList_lossy_cons {byte : UInt8} (rest : Bytes) (high : byte.toNat < 0x80) :
    (lossy (byte :: rest)).toList = Char.ofNat byte.toNat :: (lossy rest).toList := by
  rw [lossy, lossy, pieces, piecesFrom_single rest high, String.toList_ofList, String.toList_ofList,
    List.map_cons]
  rfl

/-- Every piece of an encoded text is one of its characters, and none is malformed. -/
theorem pieces_encode (text : String) : pieces (encode text) = text.toList.map some := by
  have general : ∀ chars : List Char,
      piecesFrom .between (chars.flatMap String.utf8EncodeChar) = chars.map some := by
    intro chars
    induction chars with
    | nil => rfl
    | cons c chars inductionHypothesis =>
        rw [List.flatMap_cons, piecesFrom_utf8EncodeChar, inductionHypothesis, List.map_cons]
  exact general text.toList

@[simp] theorem lossy_encode (text : String) : lossy (encode text) = text := by
  rw [lossy, pieces_encode, List.map_map]
  have same : ((fun piece => Option.getD piece replacement) ∘ some) = (id : Char → Char) := rfl
  rw [same, List.map_id, String.ofList_toList]

@[simp] theorem isText_encode (text : String) : isText (encode text) = true := by
  rw [isText, pieces_encode, List.all_map]
  exact List.all_eq_true.mpr fun _ _ => rfl

@[simp] theorem decode?_encode (text : String) : decode? (encode text) = some text := by
  rw [decode?, if_pos (isText_encode text), lossy_encode]

theorem encode_injective {left right : String} (same : encode left = encode right) :
    left = right := by
  rw [← lossy_encode left, same, lossy_encode]

end Utf8
end Text
end ExactFactorial
