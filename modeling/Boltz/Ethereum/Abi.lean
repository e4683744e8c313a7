import Mathlib.Algebra.Ring.Nat
import Mathlib.Data.List.Basic
import Mathlib.Tactic.NormNum

/-!
# ABI encoding of flat tuples

A value takes one word of the head of the tuple; of a byte string, that word is the offset of its
length and content, which come after the head.
-/

namespace Abi

abbrev Bytes := List UInt8

/-! ## Big-endian numbers -/

/-- `n` in `k` bytes, the highest first. -/
def beBytes : ℕ → ℕ → Bytes
  | 0, _ => []
  | k + 1, n => beBytes k (n / 256) ++ [UInt8.ofNat (n % 256)]

def ofBeBytes (bytes : Bytes) : ℕ := bytes.foldl (fun n byte => n * 256 + byte.toNat) 0

@[simp] theorem length_beBytes (k n : ℕ) : (beBytes k n).length = k := by
  induction k generalizing n with
  | zero => rfl
  | succ k ih => rw [beBytes, List.length_append, ih, List.length_singleton]

theorem ofBeBytes_append (bytes : Bytes) (byte : UInt8) :
    ofBeBytes (bytes ++ [byte]) = ofBeBytes bytes * 256 + byte.toNat := by
  rw [ofBeBytes, List.foldl_append, List.foldl_cons, List.foldl_nil, ofBeBytes]

theorem ofBeBytes_beBytes {k n : ℕ} (h : n < 256 ^ k) : ofBeBytes (beBytes k n) = n := by
  induction k generalizing n with
  | zero =>
    rw [Nat.pow_zero] at h
    simp only [beBytes, ofBeBytes, List.foldl_nil]
    omega
  | succ k ih =>
    have hdiv : n / 256 < 256 ^ k := Nat.div_lt_of_lt_mul (by rwa [← Nat.pow_succ'])
    rw [beBytes, ofBeBytes_append, ih hdiv, UInt8.toNat_ofNat']
    omega

/-! ## Words -/

def word (n : ℕ) : Bytes := beBytes 32 n

@[simp] theorem length_word (n : ℕ) : (word n).length = 32 := length_beBytes 32 n

/-- The word that begins at an offset. -/
def wordAt (offset : ℕ) (bytes : Bytes) : ℕ := ofBeBytes ((bytes.drop offset).take 32)

theorem drop_word (offset n : ℕ) (rest : Bytes) :
    (word n ++ rest).drop (offset + 32) = rest.drop offset := by
  rw [Nat.add_comm, List.drop_append]
  simp

@[simp] theorem wordAt_add (offset n : ℕ) (rest : Bytes) :
    wordAt (offset + 32) (word n ++ rest) = wordAt offset rest := by
  rw [wordAt, drop_word, wordAt]

theorem wordAt_zero {n : ℕ} (hn : n < 2 ^ 256) (rest : Bytes) : wordAt 0 (word n ++ rest) = n := by
  have htake : (word n ++ rest).take 32 = word n := by
    rw [← length_word n, List.take_left]
  rw [wordAt, List.drop_zero, htake, word, ofBeBytes_beBytes (by norm_num; omega)]

/-- The byte string whose length is at an offset. -/
def bytesAt (offset : ℕ) (bytes : Bytes) : Bytes :=
  (bytes.drop (offset + 32)).take (wordAt offset bytes)

@[simp] theorem bytesAt_add (offset n : ℕ) (rest : Bytes) :
    bytesAt (offset + 32) (word n ++ rest) = bytesAt offset rest := by
  rw [bytesAt, wordAt_add, drop_word, bytesAt]

theorem bytesAt_zero {data : Bytes} (hdata : data.length < 2 ^ 256) (rest : Bytes) :
    bytesAt 0 (word data.length ++ (data ++ rest)) = data := by
  rw [bytesAt, wordAt_zero hdata, drop_word, List.drop_zero, List.take_left]

/-! ## Tuples -/

inductive Value where
  | address (a : BitVec 160)
  | uint (n : BitVec 256)
  | bytes (data : Bytes)
  | bool (b : Bool)
  deriving DecidableEq, Repr

namespace Value

def isDynamic : Value → Bool
  | bytes _ => true
  | _ => false

/-- Byte strings are filled up to whole words. -/
def tail : Value → Bytes
  | bytes data => word data.length ++ (data ++ List.replicate ((32 - data.length % 32) % 32) 0)
  | _ => []

def head (offset : ℕ) : Value → Bytes
  | address a => word a.toNat
  | uint n => word n.toNat
  | bytes _ => word offset
  | bool b => word b.toNat

def heads : ℕ → List Value → Bytes
  | _, [] => []
  | offset, value :: values => value.head offset ++ heads (offset + value.tail.length) values

end Value

/-- The content of a tuple. -/
def encodeTuple (values : List Value) : Bytes :=
  Value.heads (32 * values.length) values ++ values.flatMap Value.tail

/-- A tuple as a single value: with a byte string in it, it has an offset of its own. -/
def encode (values : List Value) : Bytes :=
  if values.any Value.isDynamic then word 32 ++ encodeTuple values else encodeTuple values

end Abi
