import Mathlib.Tactic.Common
import Mathlib.Data.List.Basic
import Mathlib.Data.Char

set_option autoImplicit false

namespace Purroute

-- Rust's `String` is a sequence of Unicode scalar values, a byte buffer a list.
abbrev Str := List Char
abbrev Bytes := List UInt8

instance : Coe String Str := ⟨String.toList⟩

def utf8 (text : Str) : Bytes := text.flatMap String.utf8EncodeChar

@[simp] theorem utf8_nil : utf8 [] = [] := rfl
@[simp] theorem utf8_cons (c : Char) (text : Str) : utf8 (c :: text) = String.utf8EncodeChar c ++ utf8 text := rfl
@[simp] theorem utf8_append (left right : Str) : utf8 (left ++ right) = utf8 left ++ utf8 right := by
  simp [utf8]

def replacement : Char := Char.ofNat 0xFFFD

def continuation (byte : UInt8) : Bool := 0x80 ≤ byte.toNat && byte.toNat ≤ 0xBF

-- The second byte tells overlong forms and surrogates from scalar values.
def secondOfThree (first second : Nat) : Bool :=
  if first = 0xE0 then 0xA0 ≤ second && second ≤ 0xBF
  else if first = 0xED then 0x80 ≤ second && second ≤ 0x9F
  else 0x80 ≤ second && second ≤ 0xBF

def secondOfFour (first second : Nat) : Bool :=
  if first = 0xF0 then 0x90 ≤ second && second ≤ 0xBF
  else if first = 0xF4 then 0x80 ≤ second && second ≤ 0x8F
  else 0x80 ≤ second && second ≤ 0xBF

-- One chunk of `String::from_utf8_lossy`: the character and how many of the
-- following bytes it takes up, whole or cut short.
def decodeFirst (first : UInt8) (rest : Bytes) : Char × Nat :=
  let n := first.toNat
  if n < 0x80 then (Char.ofNat n, 0)
  else if 0xC2 ≤ n ∧ n ≤ 0xDF then
    match rest with
    | [] => (replacement, 0)
    | b :: _ => if continuation b then (Char.ofNat ((n - 0xC0) * 64 + (b.toNat - 0x80)), 1) else (replacement, 0)
  else if 0xE0 ≤ n ∧ n ≤ 0xEF then
    match rest with
    | [] => (replacement, 0)
    | [b] => if secondOfThree n b.toNat then (replacement, 1) else (replacement, 0)
    | b :: c :: _ =>
        if secondOfThree n b.toNat then
          if continuation c then (Char.ofNat ((n - 0xE0) * 4096 + (b.toNat - 0x80) * 64 + (c.toNat - 0x80)), 2)
          else (replacement, 1)
        else (replacement, 0)
  else if 0xF0 ≤ n ∧ n ≤ 0xF4 then
    match rest with
    | [] => (replacement, 0)
    | [b] => if secondOfFour n b.toNat then (replacement, 1) else (replacement, 0)
    | [b, c] =>
        if secondOfFour n b.toNat then if continuation c then (replacement, 2) else (replacement, 1)
        else (replacement, 0)
    | b :: c :: d :: _ =>
        if secondOfFour n b.toNat then
          if continuation c then
            if continuation d then
              (Char.ofNat ((n - 0xF0) * 262144 + (b.toNat - 0x80) * 4096 + (c.toNat - 0x80) * 64 + (d.toNat - 0x80)), 3)
            else (replacement, 2)
          else (replacement, 1)
        else (replacement, 0)
  else (replacement, 0)

def lossyFrom : Nat → Bytes → Str
  | _, [] => []
  | skip + 1, _ :: rest => lossyFrom skip rest
  | 0, first :: rest => (decodeFirst first rest).1 :: lossyFrom (decodeFirst first rest).2 rest

def fromUtf8Lossy (bytes : Bytes) : Str := lossyFrom 0 bytes

def fromUtf8 (bytes : Bytes) : Option Str :=
  if utf8 (fromUtf8Lossy bytes) = bytes then some (fromUtf8Lossy bytes) else none

theorem encode_char_ne_nil (c : Char) : String.utf8EncodeChar c ≠ [] := by
  have positive := c.utf8Size_pos
  rw [← String.length_utf8EncodeChar] at positive
  exact List.ne_nil_of_length_pos positive

theorem continuation_low (n : Nat) : continuation (UInt8.ofNat (n % 64 + 128)) = true := by
  simp [continuation]
  omega

theorem low_to_nat (n : Nat) : (UInt8.ofNat (n % 64 + 128)).toNat = n % 64 + 128 := by
  simp
  omega

theorem decode_first_encoded (c : Char) (first : UInt8) (more rest : Bytes)
    (encoded : String.utf8EncodeChar c = first :: more) : decodeFirst first (more ++ rest) = (c, more.length) := by
  have valid : c.toNat < 0xD800 ∨ (0xDFFF < c.toNat ∧ c.toNat < 0x110000) := c.valid
  have value : ∀ n, n = c.toNat → Char.ofNat n = c := fun n same => same ▸ Char.ofNat_toNat c
  have same : c.val.toNat = c.toNat := rfl
  simp only [String.utf8EncodeChar, same] at encoded
  split at encoded
  · obtain ⟨rfl, rfl⟩ := List.cons.inj encoded
    have head : (UInt8.ofNat c.toNat).toNat = c.toNat := by simp; omega
    simp only [decodeFirst, head, if_pos (show c.toNat < 0x80 by omega), value _ rfl, List.length_nil]
  · split at encoded
    · obtain ⟨rfl, rfl⟩ := List.cons.inj encoded
      have head : (UInt8.ofNat (c.toNat / 64 % 32 + 192)).toNat = c.toNat / 64 + 192 := by simp; omega
      simp only [decodeFirst, head, continuation_low, low_to_nat, List.cons_append, List.nil_append, if_true]
      rw [if_neg (by omega), if_pos (by omega), value _ (by omega)]
      rfl
    · split at encoded
      · obtain ⟨rfl, rfl⟩ := List.cons.inj encoded
        have head : (UInt8.ofNat (c.toNat / 4096 % 16 + 224)).toNat = c.toNat / 4096 + 224 := by simp; omega
        have second : secondOfThree (c.toNat / 4096 + 224) (c.toNat / 64 % 64 + 128) = true := by
          simp only [secondOfThree]
          split
          · simp; omega
          · split <;> simp <;> omega
        simp only [decodeFirst, head, continuation_low, low_to_nat, second, List.cons_append, List.nil_append, if_true]
        rw [if_neg (by omega), if_neg (by omega), if_pos (by omega), value _ (by omega)]
        rfl
      · obtain ⟨rfl, rfl⟩ := List.cons.inj encoded
        have head : (UInt8.ofNat (c.toNat / 262144 % 8 + 240)).toNat = c.toNat / 262144 + 240 := by simp; omega
        have second : secondOfFour (c.toNat / 262144 + 240) (c.toNat / 4096 % 64 + 128) = true := by
          simp only [secondOfFour]
          split
          · simp; omega
          · split <;> simp <;> omega
        simp only [decodeFirst, head, continuation_low, low_to_nat, second, List.cons_append, List.nil_append, if_true]
        rw [if_neg (by omega), if_neg (by omega), if_neg (by omega), if_pos (by omega), value _ (by omega)]
        rfl

theorem lossy_skip (skip : Nat) (bytes : Bytes) : lossyFrom skip bytes = fromUtf8Lossy (bytes.drop skip) := by
  induction bytes generalizing skip with
  | nil => cases skip <;> rfl
  | cons first rest ih =>
      cases skip with
      | zero => rfl
      | succ skip => exact ih skip

theorem lossy_cons (first : UInt8) (rest : Bytes) :
    fromUtf8Lossy (first :: rest) = (decodeFirst first rest).1 :: fromUtf8Lossy (rest.drop (decodeFirst first rest).2) := by
  rw [← lossy_skip]
  rfl

@[simp] theorem lossy_nil : fromUtf8Lossy [] = [] := rfl

theorem lossy_encoded_append (text : Str) (rest : Bytes) :
    fromUtf8Lossy (utf8 text ++ rest) = text ++ fromUtf8Lossy rest := by
  induction text with
  | nil => rfl
  | cons c text ih =>
      cases encoded : String.utf8EncodeChar c with
      | nil => exact absurd encoded (encode_char_ne_nil c)
      | cons first more =>
          have decoded := decode_first_encoded c first more (utf8 text ++ rest) encoded
          rw [utf8_cons, encoded, List.append_assoc, List.cons_append, lossy_cons, decoded]
          simp only [List.drop_left, ih, List.cons_append]

@[simp] theorem lossy_encoded (text : Str) : fromUtf8Lossy (utf8 text) = text := by
  simpa using lossy_encoded_append text []

@[simp] theorem from_utf8_encoded (text : Str) : fromUtf8 (utf8 text) = some text := by
  simp [fromUtf8]

theorem utf8_injective (left right : Str) (same : utf8 left = utf8 right) : left = right := by
  have decoded := congrArg fromUtf8Lossy same
  simpa using decoded

theorem from_utf8_some (bytes : Bytes) (text : Str) (decoded : fromUtf8 bytes = some text) : bytes = utf8 text := by
  simp only [fromUtf8] at decoded
  split at decoded
  · rename_i same
    cases decoded
    exact same.symm
  · cases decoded

theorem second_of_three_range (first second : Nat) (within : secondOfThree first second = true) :
    0x80 ≤ second ∧ second ≤ 0xBF ∧ (first = 0xE0 → 0xA0 ≤ second) ∧ (first = 0xED → second ≤ 0x9F) := by
  simp only [secondOfThree] at within
  split at within <;> [skip; split at within] <;>
    (simp only [Bool.and_eq_true, decide_eq_true_eq] at within; omega)

theorem second_of_four_range (first second : Nat) (within : secondOfFour first second = true) :
    0x80 ≤ second ∧ second ≤ 0xBF ∧ (first = 0xF0 → 0x90 ≤ second) ∧ (first = 0xF4 → second ≤ 0x8F) := by
  simp only [secondOfFour] at within
  split at within <;> [skip; split at within] <;>
    (simp only [Bool.and_eq_true, decide_eq_true_eq] at within; omega)

theorem continuation_range (byte : UInt8) (within : continuation byte = true) : 0x80 ≤ byte.toNat ∧ byte.toNat ≤ 0xBF := by
  simpa only [continuation, Bool.and_eq_true, decide_eq_true_eq] using within

theorem decode_first_stop (first stop : UInt8) (rest tail : Bytes) (stops : stop.toNat < 0x80) :
    decodeFirst first (rest ++ stop :: tail) = decodeFirst first rest ∧ (decodeFirst first rest).2 ≤ rest.length := by
  have notContinuation : continuation stop = false := by
    rw [← Bool.not_eq_true]
    intro within
    have bounds := continuation_range stop within
    omega
  have notThree : secondOfThree first.toNat stop.toNat = false := by
    rw [← Bool.not_eq_true]
    intro within
    have bounds := second_of_three_range first.toNat stop.toNat within
    omega
  have notFour : secondOfFour first.toNat stop.toNat = false := by
    rw [← Bool.not_eq_true]
    intro within
    have bounds := second_of_four_range first.toNat stop.toNat within
    omega
  simp only [decodeFirst]
  by_cases ascii : first.toNat < 0x80
  · simp only [if_pos ascii, Nat.zero_le, and_self]
  simp only [if_neg ascii]
  by_cases two : 0xC2 ≤ first.toNat ∧ first.toNat ≤ 0xDF
  · simp only [if_pos two]
    cases rest with
    | nil => simp [notContinuation]
    | cons b rest => by_cases second : continuation b = true <;> simp [second]
  simp only [if_neg two]
  by_cases three : 0xE0 ≤ first.toNat ∧ first.toNat ≤ 0xEF
  · simp only [if_pos three]
    rcases rest with _ | ⟨b, _ | ⟨c, rest⟩⟩
    · cases tail <;> simp [notThree]
    · by_cases second : secondOfThree first.toNat b.toNat = true <;> simp [second, notContinuation]
    · by_cases second : secondOfThree first.toNat b.toNat = true
      · by_cases third : continuation c = true <;> simp [second, third]
      · simp [second]
  simp only [if_neg three]
  by_cases four : 0xF0 ≤ first.toNat ∧ first.toNat ≤ 0xF4
  · simp only [if_pos four]
    rcases rest with _ | ⟨b, _ | ⟨c, _ | ⟨d, rest⟩⟩⟩
    · rcases tail with _ | ⟨e, _ | ⟨f, tail⟩⟩ <;> simp [notFour]
    · cases tail <;> by_cases second : secondOfFour first.toNat b.toNat = true <;> simp [second, notContinuation]
    · by_cases second : secondOfFour first.toNat b.toNat = true
      · by_cases third : continuation c = true <;> simp [second, third, notContinuation]
      · simp [second]
    · by_cases second : secondOfFour first.toNat b.toNat = true
      · by_cases third : continuation c = true
        · by_cases fourth : continuation d = true <;> simp [second, third, fourth]
        · simp [second, third]
      · simp [second]
  · simp only [if_neg four, Nat.zero_le, and_self]

theorem lossy_append_stop (bytes tail : Bytes) (stop : UInt8) (stops : stop.toNat < 0x80) :
    fromUtf8Lossy (bytes ++ stop :: tail) = fromUtf8Lossy bytes ++ fromUtf8Lossy (stop :: tail) := by
  induction length : bytes.length using Nat.strong_induction_on generalizing bytes with
  | _ n ih =>
      cases bytes with
      | nil => rfl
      | cons first rest =>
          obtain ⟨same, bound⟩ := decode_first_stop first stop rest tail stops
          rw [List.cons_append, lossy_cons, lossy_cons, same, List.drop_append_of_le_length bound, List.cons_append]
          congr 1
          exact ih _ (by simp at length ⊢; omega) _ rfl

theorem scalar_value (n : Nat) (valid : n < 0xD800 ∨ (0xDFFF < n ∧ n < 0x110000)) : (Char.ofNat n).toNat = n := by
  rw [Char.ofNat, dif_pos valid]
  rfl

theorem scalar_high (n : Nat) (large : 0x80 ≤ n) (valid : n < 0xD800 ∨ (0xDFFF < n ∧ n < 0x110000)) :
    0x80 ≤ (Char.ofNat n).toNat := by
  rw [scalar_value n valid]
  exact large

theorem replacement_high : 0x80 ≤ replacement.toNat := by decide

theorem decode_first_high (first : UInt8) (rest : Bytes) (high : 0x80 ≤ first.toNat) :
    0x80 ≤ (decodeFirst first rest).1.toNat := by
  simp only [decodeFirst]
  rw [if_neg (by omega)]
  by_cases two : 0xC2 ≤ first.toNat ∧ first.toNat ≤ 0xDF
  · rw [if_pos two]
    rcases rest with _ | ⟨b, rest⟩
    · exact replacement_high
    dsimp only
    split
    · rename_i second
      have bounds := continuation_range b second
      dsimp only
      refine scalar_high _ ?_ ?_ <;> omega
    · exact replacement_high
  rw [if_neg two]
  by_cases three : 0xE0 ≤ first.toNat ∧ first.toNat ≤ 0xEF
  · rw [if_pos three]
    rcases rest with _ | ⟨b, _ | ⟨c, rest⟩⟩
    · exact replacement_high
    · dsimp only
      split <;> exact replacement_high
    dsimp only
    split
    · rename_i second
      have bounds := second_of_three_range _ _ second
      split
      · rename_i third
        have low := continuation_range c third
        dsimp only
        refine scalar_high _ ?_ ?_ <;> omega
      · exact replacement_high
    · exact replacement_high
  rw [if_neg three]
  by_cases four : 0xF0 ≤ first.toNat ∧ first.toNat ≤ 0xF4
  · rw [if_pos four]
    rcases rest with _ | ⟨b, _ | ⟨c, _ | ⟨d, rest⟩⟩⟩
    · exact replacement_high
    · dsimp only
      split <;> exact replacement_high
    · dsimp only
      split <;> [split; skip] <;> exact replacement_high
    dsimp only
    split
    · rename_i second
      have bounds := second_of_four_range _ _ second
      split
      · rename_i third
        have low := continuation_range c third
        split
        · rename_i fourth
          have lowest := continuation_range d fourth
          dsimp only
          refine scalar_high _ ?_ ?_ <;> omega
        · exact replacement_high
      · exact replacement_high
    · exact replacement_high
  · rw [if_neg four]
    exact replacement_high

theorem decode_first_low (first : UInt8) (rest : Bytes) (ascii : first.toNat < 0x80) :
    decodeFirst first rest = (Char.ofNat first.toNat, 0) := by
  simp only [decodeFirst, if_pos ascii]

theorem encode_low (first : UInt8) (ascii : first.toNat < 0x80) : String.utf8EncodeChar (Char.ofNat first.toNat) = [first] := by
  have value : (Char.ofNat first.toNat).val.toNat = first.toNat := scalar_value _ (Or.inl (by omega))
  rw [String.utf8EncodeChar, value, if_pos (by omega), UInt8.ofNat_toNat]

theorem encoded_ascii (c : Char) (byte : UInt8) (ascii : byte.toNat < 0x80) (member : byte ∈ String.utf8EncodeChar c) :
    c.toNat = byte.toNat := by
  have value : c.toNat = c.val.toNat := rfl
  have bound : c.val.toNat < 0x110000 := by
    have valid := c.valid
    simp only [UInt32.isValidChar, Nat.isValidChar] at valid
    omega
  rw [value]
  simp only [String.utf8EncodeChar] at member
  split at member
  · rw [List.mem_singleton] at member
    subst member
    simp only [UInt8.toNat_ofNat']
    omega
  split at member
  · simp only [List.mem_cons, List.not_mem_nil, or_false] at member
    rcases member with rfl | rfl
    · simp only [UInt8.toNat_ofNat'] at ascii
      omega
    · simp only [UInt8.toNat_ofNat'] at ascii
      omega
  split at member
  · simp only [List.mem_cons, List.not_mem_nil, or_false] at member
    rcases member with rfl | rfl | rfl <;> (simp only [UInt8.toNat_ofNat'] at ascii; omega)
  · simp only [List.mem_cons, List.not_mem_nil, or_false] at member
    rcases member with rfl | rfl | rfl | rfl <;> (simp only [UInt8.toNat_ofNat'] at ascii; omega)

theorem utf8_ascii_mem (text : Str) (c : Char) (ascii : c.toNat < 0x80)
    (member : UInt8.ofNat c.toNat ∈ utf8 text) : c ∈ text := by
  obtain ⟨other, here, encoded⟩ := List.mem_flatMap.mp member
  have small : (UInt8.ofNat c.toNat).toNat = c.toNat := by
    rw [UInt8.toNat_ofNat']
    omega
  have same := encoded_ascii other _ (by omega) encoded
  rw [small] at same
  exact Char.toNat_inj.mp same ▸ here

theorem lossy_ascii_mem (bytes : Bytes) (c : Char) (ascii : c.toNat < 0x80) (member : c ∈ fromUtf8Lossy bytes) :
    UInt8.ofNat c.toNat ∈ bytes := by
  induction length : bytes.length using Nat.strong_induction_on generalizing bytes with
  | _ n ih =>
      cases bytes with
      | nil => cases member
      | cons first rest =>
          rw [lossy_cons, List.mem_cons] at member
          rcases member with here | later
          · by_cases low : first.toNat < 0x80
            · rw [decode_first_low first rest low] at here
              have value : c.toNat = first.toNat := by
                rw [here]
                exact scalar_value _ (.inl (by omega))
              rw [value, UInt8.ofNat_toNat]
              exact List.mem_cons_self
            · have high := decode_first_high first rest (by omega)
              rw [← here] at high
              omega
          · have inside := ih _ (by rw [← length, List.length_drop, List.length_cons]; omega) _ later rfl
            exact List.mem_cons_of_mem _ (List.mem_of_mem_drop inside)
theorem lossy_ascii_iff (bytes : Bytes) (text : Str) (ascii : ∀ c ∈ text, c.toNat < 0x80) :
    fromUtf8Lossy bytes = text ↔ bytes = utf8 text := by
  constructor
  · intro decoded
    induction text generalizing bytes with
    | nil =>
        cases bytes with
        | nil => rfl
        | cons first rest =>
            rw [lossy_cons] at decoded
            cases decoded
    | cons c text ih =>
        cases bytes with
        | nil => cases decoded
        | cons first rest =>
            rw [lossy_cons, List.cons.injEq] at decoded
            obtain ⟨rfl, later⟩ := decoded
            have low : first.toNat < 0x80 := by
              by_contra high
              have folded := decode_first_high first rest (by omega)
              have small := ascii _ List.mem_cons_self
              omega
            rw [decode_first_low first rest low] at later ⊢
            rw [utf8_cons, encode_low first low, ← ih rest (fun d member => ascii d (List.mem_cons_of_mem _ member)) later]
            rfl
  · rintro rfl
    exact lossy_encoded text

end Purroute
