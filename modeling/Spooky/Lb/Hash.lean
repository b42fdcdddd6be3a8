/-
The FNV-1a hashes of the load balancer (`crates/lb/src/hash.rs`).

`hash64` folds the 64-bit FNV-1a step over a byte string; `hash_backend_replica` folds it over the address, a `-` and
the decimal digits of the replica number, which it writes right to left into a ten-byte buffer. Arithmetic on `u64`
wraps, as `UInt64` does.

`hashBackendReplica_eq`: for every `u32` replica the digit loop leaves the decimal text of the replica in the buffer
(`writeDigits_drop`, its loop invariant), so the hash is `hash64` of the address, `-` and that text.

Left out: `expected_ring_entries`, which only sizes the ring's allocation. `DEFAULT_REPLICAS` is modelled with the
strategies that use it, in `Spooky.Lb.Alternate`.
-/
import Spooky.Lib.Text

namespace Spooky.Lb

def fnvOffset : UInt64 := 0xcbf29ce484222325

def fnvPrime : UInt64 := 0x00000100000001b3

def hash64Update (hash : UInt64) (byte : UInt8) : UInt64 := (hash ^^^ byte.toUInt64) * fnvPrime

def hash64 (data : List UInt8) : UInt64 := data.foldl hash64Update fnvOffset

/-- the digit loop of `hash_backend_replica` from `cursor` down: the cursor where the digits start and the buffer.
A `u32` has at most ten digits, so the loop stops before the cursor would underflow and the `0` case is never
reached from the ten-byte buffer. -/
def writeDigits (digits : List UInt8) : ℕ → ℕ → ℕ × List UInt8
  | 0, _ => (0, digits)
  | cursor + 1, value =>
    let digits := digits.set cursor (48 + (value % 10).toUInt8)
    if value / 10 = 0 then (cursor, digits) else writeDigits digits cursor (value / 10)

def hashBackendReplica (address : String) (replica : ℕ) : UInt64 :=
  let hash := hash64Update ((Text.utf8 address).foldl hash64Update fnvOffset) 45
  let written := writeDigits (List.replicate 10 0) 10 replica
  (written.2.drop written.1).foldl hash64Update hash

/-! ## The digit loop writes the decimal text -/

theorem drop_set_self {α : Type} {l : List α} {i : ℕ} (h : i < l.length) (a : α) :
    (l.set i a).drop i = a :: l.drop (i + 1) := by
  rw [List.drop_set, if_neg (Nat.lt_irrefl i), Nat.sub_self, List.drop_eq_getElem_cons h, List.set_cons_zero]

/-- the loop invariant: from a cursor with room for every digit of `value`, the buffer from the returned cursor on
holds the decimal text of `value`, then what it held past the starting cursor -/
theorem writeDigits_drop (cursor : ℕ) {digits : List UInt8} {value : ℕ} (hc : cursor + 1 ≤ digits.length)
    (hv : value < 10 ^ (cursor + 1)) :
    (writeDigits digits (cursor + 1) value).2.drop (writeDigits digits (cursor + 1) value).1 =
      Text.decimalBytes value ++ digits.drop (cursor + 1) := by
  induction cursor generalizing digits value with
  | zero =>
    -- a single digit: the loop writes it and stops
    have h10 : value < 10 := by simpa using hv
    simp only [writeDigits, Nat.div_eq_of_lt h10, if_true]
    rw [drop_set_self (by omega), Text.decimalBytes_eq, if_pos h10]
    rfl
  | succ cursor ih =>
    rw [writeDigits.eq_2]
    split
    · rename_i hdiv
      have h10 : value < 10 := by omega
      rw [drop_set_self (by omega), Text.decimalBytes_eq, if_pos h10]
      rfl
    · -- more digits to go: the rest of the loop writes the decimal text of `value / 10` in front of this digit
      rename_i hdiv
      have h10 : ¬ value < 10 := by omega
      have hv' : value / 10 < 10 ^ (cursor + 1) := by
        rw [Nat.div_lt_iff_lt_mul (by omega), ← Nat.pow_succ]
        exact hv
      rw [ih (by simp; omega) hv', drop_set_self (by omega), Text.decimalBytes_eq value, if_neg h10]
      simp

/-- `hash_backend_replica` hashes the address, a `-` and the decimal text of the replica, as `hash64` does -/
theorem hashBackendReplica_eq (address : String) {replica : ℕ} (h : replica < 2 ^ 32) :
    hashBackendReplica address replica = hash64 (Text.utf8 address ++ [45] ++ Text.decimalBytes replica) := by
  -- a `u32` has at most ten digits, so the ten-byte buffer holds them all
  have hdigits : (writeDigits (List.replicate 10 0) 10 replica).2.drop (writeDigits (List.replicate 10 0) 10 replica).1 =
      Text.decimalBytes replica := by
    have hv : replica < 10 ^ (9 + 1) := lt_trans h (by norm_num)
    simpa using @writeDigits_drop 9 (List.replicate 10 0) replica (by simp) hv
  simp only [hashBackendReplica, hdigits, hash64, List.foldl_append, List.foldl_cons, List.foldl_nil]

/-- `u32::MAX` has ten digits: the cursor reaches the start of the buffer -/
theorem max_replica_hash :
    4294967295 < 2 ^ 32 ∧
      hashBackendReplica "10.0.0.1:1" 4294967295 =
        hash64 (Text.utf8 "10.0.0.1:1" ++ [45] ++ Text.decimalBytes 4294967295) :=
  ⟨by norm_num, @hashBackendReplica_eq "10.0.0.1:1" 4294967295 (by norm_num)⟩

end Spooky.Lb
