import Mathlib.Data.Rat.Floor
import Mathlib.Tactic.Linarith
import Mathlib.Tactic.NormNum
import Purroute.Debits

set_option autoImplicit false

namespace Purroute

def toI64 (value : Nat) : Int := min value i64Max
def saturatingAdd (left right : Int) : Int := max i64Min (min (left + right) i64Max)

-- `f64::round`: half away from zero.
def roundHalfAway (q : Rat) : Int := if 0 ≤ q then ⌊q + 1 / 2⌋ else -⌊1 / 2 - q⌋

def usageDebit (bytesIn bytesOut : Nat) (costPerByte : Rat) : Int :=
  let bytes := saturatingAdd (toI64 bytesIn) (toI64 bytesOut)
  let debit := roundHalfAway (bytes * costPerByte)
  if 0 < debit then min debit i64Max else 0

def chunkDebit (costPerByte : Rat) : Direction × Nat → Int
  | (.toUpstream, n) => usageDebit 0 n costPerByte
  | (.toClient, n) => usageDebit n 0 costPerByte

def remainingAfter (costPerByte : Rat) (initial : Int) (chunks : List (Direction × Nat)) : Int :=
  chunks.foldl (fun cur chunk => nextRemaining cur (chunkDebit costPerByte chunk)) initial

def transferred (chunks : List (Direction × Nat)) : Nat := (chunks.map Prod.snd).sum

theorem round_error (q : Rat) (nonneg : 0 ≤ q) : |(roundHalfAway q : Rat) - q| ≤ 1 / 2 := by
  rw [roundHalfAway, if_pos nonneg, abs_le]
  have low := Int.floor_le (q + 1 / 2)
  have high := Int.lt_floor_add_one (q + 1 / 2)
  constructor <;> linarith

theorem round_nonneg (q : Rat) (nonneg : 0 ≤ q) : 0 ≤ roundHalfAway q := by
  rw [roundHalfAway, if_pos nonneg]
  exact Int.floor_nonneg.mpr (by linarith)

theorem round_zero (q : Rat) (nonneg : 0 ≤ q) : roundHalfAway q = 0 ↔ q < 1 / 2 := by
  rw [roundHalfAway, if_pos nonneg, Int.floor_eq_iff]
  constructor
  · intro bounds
    have high := bounds.2
    norm_num at high
    linarith
  · intro below
    constructor
    · push_cast
      linarith
    · push_cast
      linarith

section Chunks

variable (costPerByte : Rat) (nonneg : 0 ≤ costPerByte)

include nonneg in
theorem chunk_debit_eq (chunk : Direction × Nat) (fits : (chunk.2 : Int) ≤ i64Max) :
    chunkDebit costPerByte chunk = min (roundHalfAway (costPerByte * chunk.2)) i64Max := by
  obtain ⟨direction, n⟩ := chunk
  have bytes : saturatingAdd (toI64 n) (toI64 0) = n ∧ saturatingAdd (toI64 0) (toI64 n) = n := by
    unfold saturatingAdd toI64
    unfold i64Max i64Min at *
    simp only at fits
    omega
  have positive := round_nonneg (costPerByte * n) (by positivity)
  have limit : (0 : Int) ≤ i64Max := by decide
  cases direction with
  | toUpstream =>
      simp only [chunkDebit, usageDebit, bytes.2, Int.cast_natCast, mul_comm (n : Rat)]
      split <;> omega
  | toClient =>
      simp only [chunkDebit, usageDebit, bytes.1, Int.cast_natCast, mul_comm (n : Rat)]
      split <;> omega

theorem round_whole (amount : Nat) : roundHalfAway amount = amount := by
  have below : ⌊(amount : Rat) + 1 / 2⌋ = (amount : Int) := by
    rw [Int.floor_eq_iff]
    constructor <;> push_cast <;> linarith
  rw [roundHalfAway, if_pos (Nat.cast_nonneg amount), below]

theorem chunk_debit_whole (cost : Nat) (chunk : Direction × Nat) (fits : (chunk.2 : Int) ≤ i64Max) :
    chunkDebit cost chunk = debit chunk.2 cost := by
  have whole : (cost : Rat) * chunk.2 = ((chunk.2 * cost : Nat) : Rat) := by
    push_cast
    ring
  rw [chunk_debit_eq cost (Nat.cast_nonneg cost) chunk fits, whole, round_whole, debit]

include nonneg in
theorem chunk_debit_error (chunk : Direction × Nat) (fits : (chunk.2 : Int) ≤ i64Max)
    (unsaturated : chunkDebit costPerByte chunk < i64Max) :
    |(chunkDebit costPerByte chunk : Rat) - costPerByte * chunk.2| ≤ 1 / 2 ∧
      0 ≤ chunkDebit costPerByte chunk ∧ (chunkDebit costPerByte chunk = 0 ↔ costPerByte * chunk.2 < 1 / 2) := by
  have value : 0 ≤ costPerByte * chunk.2 := by positivity
  have rounded : chunkDebit costPerByte chunk = roundHalfAway (costPerByte * chunk.2) := by
    have capped := chunk_debit_eq costPerByte nonneg chunk fits
    omega
  rw [rounded]
  exact ⟨round_error _ value, round_nonneg _ value, round_zero _ value⟩

theorem next_remaining_left (cur debit : Int) (left : 0 < nextRemaining cur debit) :
    nextRemaining cur debit = cur - debit ∧ debit < cur := by
  unfold nextRemaining at *
  omega

theorem chunk_debit_nonneg (chunk : Direction × Nat) : 0 ≤ chunkDebit costPerByte chunk := by
  have limit : (0 : Int) ≤ i64Max := by decide
  obtain ⟨direction, n⟩ := chunk
  cases direction with
  | toUpstream =>
      simp only [chunkDebit, usageDebit]
      split <;> omega
  | toClient =>
      simp only [chunkDebit, usageDebit]
      split <;> omega

theorem remaining_after_le (initial : Int) (nonnegative : 0 ≤ initial) (chunks : List (Direction × Nat)) :
    remainingAfter costPerByte initial chunks ≤ initial := by
  induction chunks generalizing initial with
  | nil => exact Int.le_refl initial
  | cons chunk chunks ih =>
      have low := chunk_debit_nonneg costPerByte chunk
      have bounds : 0 ≤ nextRemaining initial (chunkDebit costPerByte chunk) ∧
          nextRemaining initial (chunkDebit costPerByte chunk) ≤ initial := by
        unfold nextRemaining
        omega
      exact (ih _ bounds.1).trans bounds.2

structure Charged (initial : Int) (chunks : List (Direction × Nat)) : Prop where
  error : |((initial - remainingAfter costPerByte initial chunks : Int) : Rat) - costPerByte * transferred chunks| ≤
    chunks.length / 2
  free : initial - remainingAfter costPerByte initial chunks = 0 ↔ ∀ chunk ∈ chunks, costPerByte * chunk.2 < 1 / 2

end Chunks

-- Each report rounds on its own, so each may be off by half a unit.
theorem transfer_charged (costPerByte : Rat) (nonneg : 0 ≤ costPerByte) (initial : Int) (bounded : initial ≤ i64Max)
    (chunks : List (Direction × Nat)) (fits : ∀ chunk ∈ chunks, (chunk.2 : Int) ≤ i64Max)
    (left : 0 < remainingAfter costPerByte initial chunks) : Charged costPerByte initial chunks := by
  induction chunks generalizing initial with
  | nil => exact ⟨by simp [remainingAfter, transferred], by simp [remainingAfter]⟩
  | cons chunk chunks ih =>
      rw [List.forall_mem_cons] at fits
      set debit := chunkDebit costPerByte chunk with debitEq
      set next := nextRemaining initial debit with nextEq
      have shift : remainingAfter costPerByte initial (chunk :: chunks) = remainingAfter costPerByte next chunks := rfl
      rw [shift] at left
      have nextNonneg : 0 ≤ next := Int.le_max_right _ _
      have later := remaining_after_le costPerByte next nextNonneg chunks
      obtain ⟨full, covered⟩ := next_remaining_left initial debit (by omega)
      rw [← nextEq] at full
      have low := chunk_debit_nonneg costPerByte chunk
      obtain ⟨error, free⟩ := ih next (by omega) fits.2 left
      obtain ⟨firstError, _, firstFree⟩ := chunk_debit_error costPerByte nonneg chunk fits.1 (by omega)
      rw [← debitEq] at low firstError firstFree
      constructor
      · rw [shift, show initial - remainingAfter costPerByte next chunks =
          debit + (next - remainingAfter costPerByte next chunks) by omega]
        rw [abs_le] at error firstError ⊢
        simp only [transferred, List.map_cons, List.sum_cons, List.length_cons] at error ⊢
        push_cast at error ⊢
        constructor <;> linarith [error.1, error.2, firstError.1, firstError.2]
      · rw [List.forall_mem_cons, ← firstFree, ← free, shift]
        omega

theorem transfer_charged_pair : Charged (1 / 2) 1000 [(.toUpstream, 1), (.toClient, 2)] :=
  transfer_charged (1 / 2) (by norm_num) 1000 (by decide) [(.toUpstream, 1), (.toClient, 2)] (by simp; decide) (by decide +kernel)

theorem transfer_uncharged : 0 < remainingAfter (2 / 5) 1000 (List.replicate 5 (.toClient, 1)) ∧
    ¬ |((1000 - remainingAfter (2 / 5) 1000 (List.replicate 5 (.toClient, 1)) : Int) : Rat) -
      2 / 5 * transferred (List.replicate 5 (.toClient, 1))| < 1 := by
  have free : remainingAfter (2 / 5) 1000 (List.replicate 5 (.toClient, 1)) = 1000 := by decide +kernel
  rw [free]
  norm_num [transferred]

end Purroute
