import Mathlib.Data.List.GetD
import Mathlib.Data.List.TakeDrop
import Mathlib.Data.UInt
import Mathlib.Tactic.Ring

/-!
# Fixed layouts in byte strings

A record laid out at fixed offsets is read with `Bytes.field` and written with
`Bytes.patch` or, where its length is known, `FixedBytes.write`. Between them
stand two laws: a field that was just written is read back, and one that lies
apart from the write is untouched.
Numbers are stored little-endian (`u64ToLe`, `i64ToLe`), and reading a stored
number gives it back.
-/

/-- A byte string of known length, such as the array `[u8; n]`. -/
structure FixedBytes (n : Nat) where
  bytes : List UInt8
  length_eq : bytes.length = n
deriving DecidableEq

namespace Bytes

variable {n : Nat} {d v : List UInt8} {off off' : Nat}

/-! ## Reading and writing -/

/-- The `n` bytes at `off`. Past the end of the string it reads zeros. -/
def field (n : Nat) (d : List UInt8) (off : Nat) : FixedBytes n :=
  ⟨(d.drop off ++ List.replicate n 0).take n, by simp⟩

/-- The byte at `off`. -/
def byteAt (d : List UInt8) (off : Nat) : UInt8 := d.getD off 0

/-- Write `v` over the bytes at `off`. -/
def patch (d : List UInt8) (off : Nat) (v : List UInt8) : List UInt8 :=
  d.take off ++ v ++ d.drop (off + v.length)

/-- `n` zero bytes. -/
def zeros (n : Nat) : FixedBytes n := ⟨List.replicate n 0, List.length_replicate⟩

/-- A patch keeps the length. -/
theorem length_patch (h : off + v.length ≤ d.length) : (patch d off v).length = d.length := by
  simp only [patch, List.length_append, List.length_take, List.length_drop]
  omega

/-- A byte of a patched string is the new one inside the patch and the old one
outside it. -/
theorem getD_patch (h : off + v.length ≤ d.length) (i : Nat) :
    (patch d off v).getD i 0 =
      if off ≤ i ∧ i < off + v.length then v.getD (i - off) 0 else d.getD i 0 := by
  have hoff : (d.take off).length = off := by
    rw [List.length_take]
    omega
  unfold patch
  rw [List.append_assoc]
  by_cases hlo : i < off
  · rw [List.getD_append _ _ _ _ (by omega), if_neg (by omega)]
    simp [List.getD_eq_getElem?_getD, hlo]
  · rw [List.getD_append_right _ _ _ _ (by omega), hoff]
    by_cases hhi : i < off + v.length
    · rw [List.getD_append _ _ _ _ (by omega), if_pos (by omega)]
    · rw [List.getD_append_right _ _ _ _ (by omega), if_neg (by omega)]
      rw [List.getD_eq_getElem?_getD, List.getD_eq_getElem?_getD, List.getElem?_drop]
      congr 2
      omega

/-- The bytes of a field. -/
theorem getD_field (d : List UInt8) (off : Nat) {i : Nat} (h : i < n) :
    (field n d off).bytes.getD i 0 = d.getD (off + i) 0 := by
  simp only [field, List.getD_eq_getElem?_getD, List.getElem?_take, if_pos h,
    List.getElem?_append, List.length_drop, List.getElem?_drop, List.getElem?_replicate]
  split
  · rfl
  · rw [List.getElem?_eq_none (by omega : d.length ≤ off + i)]
    split <;> rfl

end Bytes

/-- Bytes of one length are the same when each is. -/
theorem FixedBytes.ext_getD {n : Nat} {a b : FixedBytes n}
    (h : ∀ i < n, a.bytes.getD i 0 = b.bytes.getD i 0) : a = b := by
  obtain ⟨as, ha⟩ := a
  obtain ⟨bs, hb⟩ := b
  congr 1
  refine List.ext_getElem (ha.trans hb.symm) fun i hi hi' => ?_
  have hget := h i (ha ▸ hi)
  rwa [List.getD_eq_getElem _ _ hi, List.getD_eq_getElem _ _ hi'] at hget

namespace Bytes

variable {n : Nat} {d v : List UInt8} {off off' : Nat}

/-- What was written is read back. -/
theorem field_patch_self {v : FixedBytes n} (h : off + n ≤ d.length) :
    field n (patch d off v.bytes) off = v := by
  refine FixedBytes.ext_getD fun i hi => ?_
  have hlen := v.length_eq
  rw [getD_field _ _ hi, getD_patch (by omega), if_pos (by omega), Nat.add_sub_cancel_left]

/-- A write leaves the fields apart from it alone. -/
theorem field_patch_of_disjoint (h : off' + v.length ≤ d.length)
    (hapart : off + n ≤ off' ∨ off' + v.length ≤ off) :
    field n (patch d off' v) off = field n d off := by
  refine FixedBytes.ext_getD fun i hi => ?_
  rw [getD_field _ _ hi, getD_field _ _ hi, getD_patch h, if_neg (by omega)]

/-- A byte is a field of length one. -/
theorem byteAt_eq_field (d : List UInt8) (off : Nat) :
    byteAt d off = (field 1 d off).bytes.getD 0 0 := by
  rw [getD_field _ _ (by omega)]
  rfl

end Bytes

/-! ## Records -/

namespace FixedBytes

open Bytes

variable {N n m off off' : Nat}

/-- One byte. -/
def u8 (b : UInt8) : FixedBytes 1 := ⟨[b], rfl⟩

/-- Write `v` at `off` in a record. A write that does not fit leaves it alone. -/
def write (d : FixedBytes N) (off : Nat) (v : FixedBytes m) : FixedBytes N :=
  if h : off + m ≤ N then
    ⟨patch d.bytes off v.bytes, by
      rw [length_patch (by rw [v.length_eq, d.length_eq]; exact h), d.length_eq]⟩
  else d

/-- A write patches the bytes. -/
theorem bytes_write (d : FixedBytes N) (v : FixedBytes m) (h : off + m ≤ N) :
    (d.write off v).bytes = patch d.bytes off v.bytes := by
  rw [write, dif_pos h]

/-- What was written is read. -/
theorem field_write_self (d : FixedBytes N) (v : FixedBytes n) (h : off + n ≤ N) :
    field n (d.write off v).bytes off = v := by
  rw [bytes_write d v h, field_patch_self (by rw [d.length_eq]; exact h)]

/-- A write leaves the fields apart from it. -/
theorem field_write_of_disjoint (d : FixedBytes N) (v : FixedBytes m) (h : off' + m ≤ N)
    (hapart : off + n ≤ off' ∨ off' + m ≤ off) :
    field n (d.write off' v).bytes off = field n d.bytes off := by
  rw [bytes_write d v h, field_patch_of_disjoint]
  · rw [v.length_eq, d.length_eq]
    exact h
  · rw [v.length_eq]
    exact hapart

end FixedBytes

namespace Bytes

/-- A field of a concatenation is the part that lies there. -/
theorem field_append {p post : List UInt8} {v : FixedBytes n} (h : p.length = off) :
    field n (p ++ (v.bytes ++ post)) off = v := by
  refine FixedBytes.ext_getD fun i hi => ?_
  have hlen := v.length_eq
  rw [getD_field _ _ hi, List.getD_append_right _ _ _ _ (by omega),
    List.getD_append _ _ _ _ (by omega), h, Nat.add_sub_cancel_left]

/-- The first field of bytes put together. -/
theorem field_append_zero {post : List UInt8} {v : FixedBytes n} :
    field n (v.bytes ++ post) 0 = v :=
  field_append (p := []) List.length_nil

/-! ## Little-endian numbers -/

/-- The number with the given little-endian digits. -/
def fromLe : List UInt8 → Nat
  | [] => 0
  | b :: rest => b.toNat + 256 * fromLe rest

/-- The `w` lowest little-endian digits of a number. -/
def toLe : Nat → Nat → List UInt8
  | 0, _ => []
  | w + 1, n => UInt8.ofNat n :: toLe w (n / 256)

/-- A number is written in its width. -/
@[simp] theorem length_toLe (w n : Nat) : (toLe w n).length = w := by
  induction w generalizing n with
  | zero => rfl
  | succ w ih => simp [toLe, ih]

/-- A number is read back modulo its width. -/
theorem fromLe_toLe (w n : Nat) : fromLe (toLe w n) = n % 256 ^ w := by
  induction w generalizing n with
  | zero => simp [toLe, fromLe, Nat.mod_one]
  | succ w ih =>
    have hpow : 256 ^ (w + 1) = 256 * 256 ^ w := pow_succ' 256 w
    rw [toLe, fromLe, ih, UInt8.toNat_ofNat', hpow, Nat.mod_mul]

/-- A number that is read fits its bytes. -/
theorem fromLe_lt (digits : List UInt8) : fromLe digits < 256 ^ digits.length := by
  induction digits with
  | nil => exact Nat.one_pos
  | cons b rest ih =>
    have hb := b.toNat_lt
    rw [fromLe, List.length_cons, pow_succ']
    omega

/-- Digits are those of the number that they write. -/
theorem toLe_fromLe (digits : List UInt8) : toLe digits.length (fromLe digits) = digits := by
  induction digits with
  | nil => rfl
  | cons b rest ih =>
    have hb := b.toNat_lt
    have hDiv : (b.toNat + 256 * fromLe rest) / 256 = fromLe rest := by omega
    have hByte : UInt8.ofNat (b.toNat + 256 * fromLe rest) = b := by
      rw [← UInt8.toNat_inj, UInt8.toNat_ofNat']
      omega
    rw [fromLe, List.length_cons, toLe, hDiv, hByte, ih]

def u64FromLe (d : FixedBytes 8) : UInt64 := UInt64.ofNat (fromLe d.bytes)

def u64ToLe (x : UInt64) : FixedBytes 8 := ⟨toLe 8 x.toNat, length_toLe 8 _⟩

/-- Reading a stored `u64` gives it back. -/
@[simp] theorem u64FromLe_toLe (x : UInt64) : u64FromLe (u64ToLe x) = x := by
  apply UInt64.toNat_inj.mp
  have hx := x.toNat_lt
  rw [u64FromLe, u64ToLe, fromLe_toLe, UInt64.toNat_ofNat']
  omega

def i64FromLe (d : FixedBytes 8) : Int64 := (u64FromLe d).toInt64

def i64ToLe (x : Int64) : FixedBytes 8 := u64ToLe x.toUInt64

/-- Reading a stored `i64` gives it back. -/
@[simp] theorem i64FromLe_toLe (x : Int64) : i64FromLe (i64ToLe x) = x := by
  rw [i64FromLe, i64ToLe, u64FromLe_toLe]
  exact Int64.toInt64_toUInt64 x

end Bytes
