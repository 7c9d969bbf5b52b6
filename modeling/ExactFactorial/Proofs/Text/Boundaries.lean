import ExactFactorial.Proofs.Text.WellFormed

namespace ExactFactorial
namespace Text
namespace Utf8

/-!
# Where bytes can be cut

A byte below `0x80` is a character by itself, wherever it stands, also in the middle of bytes that
spell no text.  A longer character that is in progress cannot take it in and ends there as a
malformed piece.  So bytes can be cut on either side of such a byte, and what is on each side is
decoded on its own.

All this rests on one invariant of the machine.  Inside a longer character it waits for a byte from
`0x80` on, and whatever it completes is no character of a single byte.
-/

/-- The least value that has to be there after the next byte, so that the character is no shorter
one.  Two is enough where more bytes follow, because each of them makes the value 64 times as
large. -/
def leastGrown : Nat → Nat
  | 0 => 0x80
  | _ + 1 => 2

/-- Nothing that the machine waits for is a character of a single byte. -/
def State.Long : State → Prop
  | .between => True
  | .inside low _ pending value =>
      0x80 ≤ low.toNat ∧ leastGrown pending ≤ value * 64 + (low.toNat - 0x80)

/-! ## One byte -/

/-- A first byte is a character, or malformed, or the start of a longer character. -/
theorem first_cases (byte : UInt8) :
    byte.toNat < 0x80 ∧ first byte = ([some (Char.ofNat byte.toNat)], .between) ∨
      first byte = ([none], .between) ∨ (first byte).1 = [] ∧ (first byte).2.Long := by
  rw [first]
  simp only [UInt8.lt_iff_toNat_lt]
  split
  · rename_i single
    exact .inl ⟨single, rfl⟩
  split
  · exact .inr (.inl rfl)
  split
  · rename_i _ notStray two
    have least : 0xC2 ≤ byte.toNat := Nat.not_lt.mp notStray
    refine .inr (.inr ⟨rfl, Nat.le_refl 0x80, ?_⟩)
    change 0x80 ≤ (byte.toNat - 0xC0) * 64 + 0
    omega
  split
  · rename_i _ _ notTwo three
    have least : 0xE0 ≤ byte.toNat := Nat.not_lt.mp notTwo
    refine .inr (.inr ⟨rfl, ?_⟩)
    by_cases overlong : byte = 0xE0
    · rw [if_pos overlong]
      refine ⟨by decide, ?_⟩
      change 2 ≤ (byte.toNat - 0xE0) * 64 + (0xA0 - 0x80)
      omega
    · rw [if_neg overlong]
      have more : byte.toNat ≠ 0xE0 := fun same => overlong (UInt8.toNat_inj.mp same)
      refine ⟨by decide, ?_⟩
      change 2 ≤ (byte.toNat - 0xE0) * 64 + 0
      omega
  split
  · rename_i _ _ _ notThree four
    have least : 0xF0 ≤ byte.toNat := Nat.not_lt.mp notThree
    refine .inr (.inr ⟨rfl, ?_⟩)
    by_cases overlong : byte = 0xF0
    · rw [if_pos overlong]
      refine ⟨by decide, ?_⟩
      change 2 ≤ (byte.toNat - 0xF0) * 64 + (0x90 - 0x80)
      omega
    · rw [if_neg overlong]
      have more : byte.toNat ≠ 0xF0 := fun same => overlong (UInt8.toNat_inj.mp same)
      refine ⟨by decide, ?_⟩
      change 2 ≤ (byte.toNat - 0xF0) * 64 + 0
      omega
  · exact .inr (.inl rfl)

theorem long_first (byte : UInt8) : (first byte).2.Long := by
  rcases first_cases byte with ⟨_, single⟩ | stray | ⟨_, long⟩
  · rw [single]
    trivial
  · rw [stray]
    trivial
  · exact long

/-- A byte that continues a character keeps what can come out above the bound. -/
theorem State.Long.grown {low high byte : UInt8} {pending value : Nat}
    (long : (State.inside low high pending value).Long) (above : low ≤ byte) :
    leastGrown pending ≤ value * 64 + (byte.toNat - 0x80) := by
  have order : low.toNat ≤ byte.toNat := UInt8.le_iff_toNat_le.mp above
  have least := long.2
  omega

theorem State.Long.step {state : State} (long : state.Long) (byte : UInt8) :
    (Utf8.step state byte).2.Long := by
  cases state with
  | between => exact long_first byte
  | inside low high pending value =>
      rw [Utf8.step]
      by_cases inRange : low ≤ byte ∧ byte ≤ high
      · rw [if_pos inRange]
        have bound := long.grown inRange.1
        cases pending with
        | zero => trivial
        | succ fewer =>
            have enough : 2 ≤ value * 64 + (byte.toNat - 0x80) := bound
            have larger : leastGrown fewer ≤ 0x80 := by
              cases fewer <;> simp [leastGrown]
            refine ⟨Nat.le_refl 0x80, Nat.le_trans larger ?_⟩
            change 0x80 ≤ (value * 64 + (byte.toNat - 0x80)) * 64 + 0
            omega
      · rw [if_neg inRange]
        exact long_first byte

/-- A byte below `0x80` ends what is in progress and is a character by itself. -/
theorem step_single {state : State} (long : state.Long) {byte : UInt8}
    (high : byte.toNat < 0x80) :
    step state byte = (finish state ++ [some (Char.ofNat byte.toNat)], .between) := by
  cases state with
  | between => exact first_single high
  | inside low _ pending value =>
      have tooLow : ¬ low ≤ byte := by
        rw [UInt8.le_iff_toNat_le]
        have least := long.1
        omega
      rw [step, if_neg fun inRange => tooLow inRange.1, first_single high]
      rfl

/-- A character of a single byte comes from that byte.  The character with code zero is left out,
because it also stands for values that are no code. -/
theorem eq_of_mem_step {state : State} (long : state.Long) {byte : UInt8} {c : Char}
    (low : 0 < c.toNat) (high : c.toNat < 0x80) (member : some c ∈ (step state byte).1) :
    byte.toNat = c.toNat := by
  have fromFirst : some c ∈ (first byte).1 → byte.toNat = c.toNat := by
    intro found
    rcases first_cases byte with ⟨small, single⟩ | stray | ⟨nothing, _⟩
    · rw [single, List.mem_singleton] at found
      rw [Option.some.inj found]
      exact (val_ofNat (v := byte.toNat) (by omega)).symm
    · rw [stray] at found
      simp at found
    · rw [nothing] at found
      cases found
  cases state with
  | between => exact fromFirst member
  | inside least most pending value =>
      rw [step] at member
      by_cases inRange : least ≤ byte ∧ byte ≤ most
      · rw [if_pos inRange] at member
        have bound := long.grown inRange.1
        cases pending with
        | zero =>
            rw [leastGrown] at bound
            have same := Option.some.inj (List.mem_singleton.mp member)
            -- A value that is no code comes out as the character zero, which is left out.
            generalize value * 64 + (byte.toNat - 0x80) = grown at bound same
            rw [same] at low high
            by_cases valid : grown < 0xD800 ∨ 0xDFFF < grown ∧ grown < 0x110000
            · have code : (Char.ofNat grown).toNat = grown := val_ofNat valid
              omega
            · rw [Char.ofNat, dif_neg valid] at low
              exact absurd low (by decide)
        | succ fewer => cases member
      · rw [if_neg inRange] at member
        rcases List.mem_cons.mp member with impossible | found
        · cases impossible
        · exact fromFirst found

/-! ## All bytes -/

/-- What stands before a byte below `0x80` and what stands after it are decoded on their own. -/
theorem piecesFrom_append_single {state : State} (long : state.Long) (front back : Bytes)
    {byte : UInt8} (high : byte.toNat < 0x80) :
    piecesFrom state (front ++ byte :: back) =
      piecesFrom state front ++ some (Char.ofNat byte.toNat) :: piecesFrom .between back := by
  induction front generalizing state with
  | nil =>
      rw [List.nil_append, piecesFrom_cons, step_single long high, List.append_assoc]
      rfl
  | cons first front inductionHypothesis =>
      rw [List.cons_append, piecesFrom_cons, inductionHypothesis (long.step first),
        piecesFrom_cons, List.append_assoc]

theorem pieces_append_single (front back : Bytes) {byte : UInt8} (high : byte.toNat < 0x80) :
    pieces (front ++ byte :: back) =
      pieces front ++ some (Char.ofNat byte.toNat) :: pieces back := by
  have long : State.between.Long := trivial
  exact piecesFrom_append_single long front back high

theorem toList_lossy_append_single (front back : Bytes) {byte : UInt8}
    (high : byte.toNat < 0x80) :
    (lossy (front ++ byte :: back)).toList =
      (lossy front).toList ++ Char.ofNat byte.toNat :: (lossy back).toList := by
  simp only [lossy, String.toList_ofList, pieces_append_single front back high, List.map_append,
    List.map_cons, Option.getD_some]

/-- Bytes spell a text if they do so on both sides of a byte below `0x80`. -/
theorem isText_append_single (front back : Bytes) {byte : UInt8} (high : byte.toNat < 0x80) :
    isText (front ++ byte :: back) = (isText front && isText back) := by
  rw [isText, pieces_append_single front back high, List.all_append, List.all_cons]
  rfl

theorem mem_of_mem_piecesFrom {state : State} (long : state.Long) {bytes : Bytes} {c : Char}
    (low : 0 < c.toNat) (high : c.toNat < 0x80) (member : some c ∈ piecesFrom state bytes) :
    UInt8.ofNat c.toNat ∈ bytes := by
  induction bytes generalizing state with
  | nil =>
      cases state with
      | between => cases member
      | inside least most pending value => simp [piecesFrom, finish] at member
  | cons byte rest inductionHypothesis =>
      rw [piecesFrom_cons, List.mem_append] at member
      rcases member with here | later
      · rw [← eq_of_mem_step long low high here, UInt8.ofNat_toNat]
        exact List.mem_cons_self
      · exact List.mem_cons_of_mem byte (inductionHypothesis (long.step byte) later)

/-- A character of a single byte is only there if its byte is, however malformed the bytes are. -/
theorem mem_of_mem_lossy {bytes : Bytes} {c : Char} (low : 0 < c.toNat) (high : c.toNat < 0x80)
    (member : c ∈ (lossy bytes).toList) : UInt8.ofNat c.toNat ∈ bytes := by
  rw [lossy, String.toList_ofList] at member
  obtain ⟨piece, found, same⟩ := List.mem_map.mp member
  cases piece with
  | none =>
      rw [← same] at high
      exact absurd high (by decide)
  | some d =>
      have equal : d = c := same
      subst equal
      have long : State.between.Long := trivial
      exact mem_of_mem_piecesFrom long low high found

/-! ## Parts behind a boundary -/

/-- All of the bytes, or those that follow a byte below `0x80`. -/
inductive Cut : Bytes → Bytes → Prop
  | whole (bytes : Bytes) : Cut bytes bytes
  | after (front part : Bytes) {byte : UInt8} (high : byte.toNat < 0x80) :
      Cut (front ++ byte :: part) part

namespace Cut

theorem trans {bytes middle part : Bytes} (first : Cut bytes middle) (second : Cut middle part) :
    Cut bytes part := by
  cases second with
  | whole => exact first
  | after front _ high =>
      cases first with
      | whole => exact .after front part high
      | @after before _ byte _ =>
          rw [← List.cons_append, ← List.append_assoc]
          exact .after (before ++ byte :: front) part high

/-- What is left when bytes below `0x80` are dropped from the front. -/
theorem dropWhile {dropped : UInt8 → Bool} (low : ∀ byte, dropped byte = true → byte.toNat < 0x80)
    (bytes : Bytes) : Cut bytes (bytes.dropWhile dropped) := by
  induction bytes with
  | nil => exact .whole []
  | cons byte rest inductionHypothesis =>
      rw [List.dropWhile_cons]
      split
      · rename_i drops
        have behind : Cut (byte :: rest) rest := .after [] rest (low byte drops)
        exact behind.trans inductionHypothesis
      · exact .whole (byte :: rest)

theorem isText {bytes part : Bytes} (cut : Cut bytes part) (text : Utf8.isText bytes = true) :
    Utf8.isText part = true := by
  cases cut with
  | whole => exact text
  | after front _ high =>
      rw [isText_append_single front part high, Bool.and_eq_true] at text
      exact text.2

/-- No character is cut in two. -/
theorem lossy_suffix {bytes part : Bytes} (cut : Cut bytes part) :
    (lossy part).toList <:+ (lossy bytes).toList := by
  cases cut with
  | whole => exact List.suffix_rfl
  | @after front _ byte high =>
      rw [toList_lossy_append_single front part high]
      exact (List.suffix_cons _ _).trans (List.suffix_append _ _)

end Cut
end Utf8
end Text
end ExactFactorial
