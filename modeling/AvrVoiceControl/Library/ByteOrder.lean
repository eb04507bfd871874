import Mathlib.Data.List.Basic

set_option autoImplicit false

namespace ByteOrder

def swap16 (n : UInt16) : UInt16 := (n <<< 8) ||| (n >>> 8)

def littleEndian (n : UInt16) : List UInt8 := [n.toUInt8, (n >>> 8).toUInt8]

def bigEndian (n : UInt16) : List UInt8 := [(n >>> 8).toUInt8, n.toUInt8]

def ofBigEndian (high low : UInt8) : UInt16 := (high.toUInt16 <<< 8) ||| low.toUInt16

theorem swap16_toNat (n : UInt16) : (swap16 n).toNat = n.toNat % 256 * 256 + n.toNat / 256 := by
  have bound := n.toNat_lt
  have high : n.toNat / 256 < 2 ^ 8 := by omega
  have left : n.toNat <<< ((8 : UInt16).toNat % 16) % 2 ^ 16 = 2 ^ 8 * (n.toNat % 256) := by
    simp [Nat.shiftLeft_eq]
    omega
  have right : n.toNat >>> ((8 : UInt16).toNat % 16) = n.toNat / 256 := by
    simp [Nat.shiftRight_eq_div_pow]
  simp only [swap16, UInt16.toNat_or, UInt16.toNat_shiftLeft, UInt16.toNat_shiftRight]
  rw [left, right, ← Nat.two_pow_add_eq_or_of_lt high]
  omega

@[simp] theorem swap16_swap16 (n : UInt16) : swap16 (swap16 n) = n := by
  apply UInt16.toNat_inj.mp
  have bound := n.toNat_lt
  rw [swap16_toNat, swap16_toNat]
  omega

theorem swap16_eq_zero (n : UInt16) : swap16 n = 0 ↔ n = 0 := by
  constructor
  · intro zero
    rw [← swap16_swap16 n, zero]
    rfl
  · rintro rfl
    rfl

@[simp] theorem littleEndian_swap16 (n : UInt16) : littleEndian (swap16 n) = bigEndian n := by
  have bound := n.toNat_lt
  have high : n.toNat / 256 < 256 := by omega
  have low : (n.toNat % 256 * 256 + n.toNat / 256) / 256 = n.toNat % 256 := by omega
  simp only [littleEndian, bigEndian, List.cons.injEq, and_true]
  constructor <;> apply UInt8.toNat_inj.mp <;>
    simp [swap16_toNat, Nat.shiftRight_eq_div_pow, low]

theorem ofBigEndian_toNat (high low : UInt8) :
    (ofBigEndian high low).toNat = high.toNat * 256 + low.toNat := by
  have highBound := high.toNat_lt
  have lowBound : low.toNat < 2 ^ 8 := low.toNat_lt
  have left : high.toNat <<< ((8 : UInt16).toNat % 16) % 2 ^ 16 = 2 ^ 8 * high.toNat := by
    simp [Nat.shiftLeft_eq]
    omega
  simp only [ofBigEndian, UInt16.toNat_or, UInt16.toNat_shiftLeft, UInt8.toNat_toUInt16]
  rw [left, ← Nat.two_pow_add_eq_or_of_lt lowBound]
  omega

@[simp] theorem ofBigEndian_bytes (n : UInt16) :
    ofBigEndian (n >>> 8).toUInt8 n.toUInt8 = n := by
  apply UInt16.toNat_inj.mp
  have bound := n.toNat_lt
  rw [ofBigEndian_toNat]
  simp [Nat.shiftRight_eq_div_pow]
  omega

@[simp] theorem bigEndian_length (n : UInt16) : (bigEndian n).length = 2 := rfl

end ByteOrder
