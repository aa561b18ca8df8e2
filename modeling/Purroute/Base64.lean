import Mathlib.Tactic.Common
import Mathlib.Data.List.Basic

set_option autoImplicit false

namespace Base64

def digit (n : Nat) : Char :=
  if n < 26 then Char.ofNat (65 + n)
  else if n < 52 then Char.ofNat (71 + n)
  else if n < 62 then Char.ofNat (n - 4)
  else if n = 62 then '+'
  else '/'

def value (c : Char) : Option Nat :=
  let n := c.toNat
  if 65 ≤ n ∧ n ≤ 90 then some (n - 65)
  else if 97 ≤ n ∧ n ≤ 122 then some (n - 71)
  else if 48 ≤ n ∧ n ≤ 57 then some (n + 4)
  else if c = '+' then some 62
  else if c = '/' then some 63
  else none

-- The standard alphabet with canonical padding.
def encode : List UInt8 → List Char
  | [] => []
  | [a] => [digit (a.toNat / 4), digit (a.toNat % 4 * 16), '=', '=']
  | [a, b] => [digit (a.toNat / 4), digit (a.toNat % 4 * 16 + b.toNat / 16), digit (b.toNat % 16 * 4), '=']
  | a :: b :: c :: rest =>
      digit (a.toNat / 4) :: digit (a.toNat % 4 * 16 + b.toNat / 16) :: digit (b.toNat % 16 * 4 + c.toNat / 64) ::
        digit (c.toNat % 64) :: encode rest

def decodeLast (w x y : Char) : Option (List UInt8) := do
  let n ← value w
  let m ← value x
  if y = '=' then
    if m % 16 = 0 then some [UInt8.ofNat (n * 4 + m / 16)] else none
  else do
    let k ← value y
    if k % 4 = 0 then some [UInt8.ofNat (n * 4 + m / 16), UInt8.ofNat (m % 16 * 16 + k / 4)] else none

def decodeQuad (w x y z : Char) : Option (List UInt8) := do
  let n ← value w
  let m ← value x
  let k ← value y
  let l ← value z
  some [UInt8.ofNat (n * 4 + m / 16), UInt8.ofNat (m % 16 * 16 + k / 4), UInt8.ofNat (k % 4 * 64 + l)]

def decode : List Char → Option (List UInt8)
  | [] => some []
  | w :: x :: y :: z :: rest =>
      if rest = [] ∧ z = '=' then decodeLast w x y
      else do
        let quad ← decodeQuad w x y z
        let tail ← decode rest
        some (quad ++ tail)
  | _ => none

theorem value_digit : ∀ n < 64, value (digit n) = some n := by decide
theorem digit_not_pad : ∀ n < 64, digit n ≠ '=' := by decide
theorem digit_alphabet : ∀ n < 64, (digit n).isAlphanum = true ∨ digit n ∈ ['+', '/', '='] := by decide

theorem byte_value (byte : UInt8) (n : Nat) (same : n = byte.toNat) : UInt8.ofNat n = byte := by
  rw [same, UInt8.ofNat_toNat]

theorem decode_encode (bytes : List UInt8) : decode (encode bytes) = some bytes := by
  match bytes with
  | [] => rfl
  | [a] =>
      have bound := a.toNat_lt
      have high := value_digit (a.toNat / 4) (by omega)
      have low := value_digit (a.toNat % 4 * 16) (by omega)
      have first := byte_value a (a.toNat / 4 * 4 + a.toNat % 4 * 16 / 16) (by omega)
      have exact' : a.toNat % 4 * 16 % 16 = 0 := by omega
      simp only [encode, decode, decodeLast, high, low, exact', first, Option.bind_eq_bind, Option.bind_some, and_self, if_true]
  | [a, b] =>
      have boundA := a.toNat_lt
      have boundB := b.toNat_lt
      have one := value_digit (a.toNat / 4) (by omega)
      have two := value_digit (a.toNat % 4 * 16 + b.toNat / 16) (by omega)
      have three := value_digit (b.toNat % 16 * 4) (by omega)
      have notPad := digit_not_pad (b.toNat % 16 * 4) (by omega)
      have first := byte_value a (a.toNat / 4 * 4 + (a.toNat % 4 * 16 + b.toNat / 16) / 16) (by omega)
      have second := byte_value b ((a.toNat % 4 * 16 + b.toNat / 16) % 16 * 16 + b.toNat % 16 * 4 / 4) (by omega)
      have exact' : b.toNat % 16 * 4 % 4 = 0 := by omega
      simp only [encode, decode, decodeLast, one, two, three, if_neg notPad, exact', first, second,
        Option.bind_eq_bind, Option.bind_some, and_self, if_true]
  | a :: b :: c :: rest =>
      have boundA := a.toNat_lt
      have boundB := b.toNat_lt
      have boundC := c.toNat_lt
      have one := value_digit (a.toNat / 4) (by omega)
      have two := value_digit (a.toNat % 4 * 16 + b.toNat / 16) (by omega)
      have three := value_digit (b.toNat % 16 * 4 + c.toNat / 64) (by omega)
      have four := value_digit (c.toNat % 64) (by omega)
      have notPad := digit_not_pad (c.toNat % 64) (by omega)
      have first := byte_value a (a.toNat / 4 * 4 + (a.toNat % 4 * 16 + b.toNat / 16) / 16) (by omega)
      have second := byte_value b
        ((a.toNat % 4 * 16 + b.toNat / 16) % 16 * 16 + (b.toNat % 16 * 4 + c.toNat / 64) / 4) (by omega)
      have third := byte_value c ((b.toNat % 16 * 4 + c.toNat / 64) % 4 * 64 + c.toNat % 64) (by omega)
      have tail := decode_encode rest
      simp only [encode, decode, decodeQuad, one, two, three, four, notPad, first, second, third, tail, and_false, if_false,
        Option.bind_eq_bind, Option.bind_some, List.cons_append, List.nil_append]

theorem encode_alphabet (bytes : List UInt8) (c : Char) (member : c ∈ encode bytes) :
    c.isAlphanum = true ∨ c ∈ ['+', '/', '='] := by
  have pad : ('=' : Char).isAlphanum = true ∨ '=' ∈ ['+', '/', '='] := by decide
  match bytes with
  | [] => cases member
  | [a] =>
      have bound := a.toNat_lt
      simp only [encode, List.mem_cons, List.not_mem_nil, or_false] at member
      rcases member with rfl | rfl | rfl | rfl
      · exact digit_alphabet _ (by omega)
      · exact digit_alphabet _ (by omega)
      · exact pad
      · exact pad
  | [a, b] =>
      have boundA := a.toNat_lt
      have boundB := b.toNat_lt
      simp only [encode, List.mem_cons, List.not_mem_nil, or_false] at member
      rcases member with rfl | rfl | rfl | rfl
      · exact digit_alphabet _ (by omega)
      · exact digit_alphabet _ (by omega)
      · exact digit_alphabet _ (by omega)
      · exact pad
  | a :: b :: c' :: rest =>
      have boundA := a.toNat_lt
      have boundB := b.toNat_lt
      have boundC := c'.toNat_lt
      simp only [encode, List.mem_cons] at member
      rcases member with rfl | rfl | rfl | rfl | later
      · exact digit_alphabet _ (by omega)
      · exact digit_alphabet _ (by omega)
      · exact digit_alphabet _ (by omega)
      · exact digit_alphabet _ (by omega)
      · exact encode_alphabet rest c later

example : encode [109, 101, 58, 112, 119] = "bWU6cHc=".toList := by decide

end Base64
