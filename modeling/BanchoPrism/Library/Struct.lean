import BanchoPrism.Library.Cursor
import Mathlib.Algebra.Order.Ring.Int
import Mathlib.Tactic.Common

namespace BanchoPrism.Library

namespace LittleEndian

def ofBytes : List UInt8 → Nat
  | [] => 0
  | byte :: rest => byte.toNat + 256 * ofBytes rest

-- The bytes read as a two's complement of their own width.
def ofBytesSigned (bytes : List UInt8) : Int :=
  if 2 * ofBytes bytes < 256 ^ bytes.length then ofBytes bytes
  else ofBytes bytes - 256 ^ bytes.length

def toBytes : Nat → Nat → List UInt8
  | 0, _ => []
  | size + 1, n => UInt8.ofNat n :: toBytes size (n / 256)

@[simp] theorem length_toBytes (size n : Nat) : (toBytes size n).length = size := by
  induction size generalizing n with
  | zero => rfl
  | succ size ih => simp [toBytes, ih]

theorem ofBytes_toBytes {size n : Nat} (h : n < 256 ^ size) : ofBytes (toBytes size n) = n := by
  induction size generalizing n with
  | zero =>
      have hn : n = 0 := by simpa using h
      subst hn
      rfl
  | succ size ih =>
      have hquot : n / 256 < 256 ^ size := by
        apply Nat.div_lt_of_lt_mul
        rw [← Nat.pow_succ']
        exact h
      have hlow : (UInt8.ofNat n).toNat = n % 256 := by simp
      rw [toBytes, ofBytes, ih hquot, hlow]
      omega

-- The low bytes of a two's complement.
def toBytesSigned (size : Nat) (v : Int) : List UInt8 := toBytes size (v % 256 ^ size).toNat

@[simp] theorem length_toBytesSigned (size : Nat) (v : Int) : (toBytesSigned size v).length = size :=
  length_toBytes size _

-- A number that leaves the sign bit free reads the same either way.
theorem ofBytesSigned_toBytes {size n : Nat} (h : 2 * n < 256 ^ size) :
    ofBytesSigned (toBytes size n) = n := by
  unfold ofBytesSigned
  rw [length_toBytes, ofBytes_toBytes (by omega), if_pos h]

theorem ofBytesSigned_toBytesSigned {size : Nat} {v : Int} (hlow : -(256 ^ size : Int) ≤ 2 * v)
    (hhigh : 2 * v < 256 ^ size) : ofBytesSigned (toBytesSigned size v) = v := by
  have hpos : (0 : Int) < 256 ^ size := Int.pow_pos (by omega)
  have hmod := Int.emod_nonneg v (Int.ne_of_gt hpos)
  have hlt := Int.emod_lt_of_pos v hpos
  have hcast : ((256 ^ size : Nat) : Int) = 256 ^ size := by simp
  have hn : (v % 256 ^ size).toNat < 256 ^ size := by omega
  unfold ofBytesSigned toBytesSigned
  rw [length_toBytes, ofBytes_toBytes hn]
  by_cases hv : 0 ≤ v
  · rw [Int.emod_eq_of_lt hv (by omega), if_pos (by omega)]
    omega
  · have hwrap : v % 256 ^ size = v + 256 ^ size := by
      rw [← Int.add_emod_right, Int.emod_eq_of_lt (by omega) (by omega)]
    rw [hwrap, if_neg (by omega)]
    omega

end LittleEndian

namespace Struct

-- The format characters of an integer, little-endian and without padding.
inductive Code
  | B
  | H
  | h
  | i
  | q
  deriving DecidableEq

def Code.size : Code → Nat
  | B => 1
  | H => 2
  | h => 2
  | i => 4
  | q => 8

-- The numbers that the character is for; those in capitals are the unsigned ones.
def Code.Takes : Code → Int → Prop
  | B, v => 0 ≤ v ∧ v < 256
  | H, v => 0 ≤ v ∧ v < 65536
  | code, v => -(256 ^ code.size : Int) ≤ 2 * v ∧ 2 * v < 256 ^ code.size

instance (code : Code) (v : Int) : Decidable (code.Takes v) :=
  match code with
  | .B => inferInstanceAs (Decidable (0 ≤ v ∧ v < 256))
  | .H => inferInstanceAs (Decidable (0 ≤ v ∧ v < 65536))
  | .h | .i | .q => inferInstanceAs (Decidable (_ ∧ _))

def Code.bytes (code : Code) (v : Int) : List UInt8 := LittleEndian.toBytesSigned code.size v

-- struct.pack; e is struct.error
def pack {ε : Type} (e : ε) : List (Code × Int) → Except ε (List UInt8)
  | [] => .ok []
  | (code, v) :: rest => do
    if ¬code.Takes v then .error e
    else return code.bytes v ++ (← pack e rest)

variable {ε : Type} {e : ε} {fields : List (Code × Int)} {bytes : List UInt8}

theorem pack_of_takes (h : ∀ f ∈ fields, f.1.Takes f.2) :
    pack e fields = .ok (fields.flatMap fun f => f.1.bytes f.2) := by
  induction fields with
  | nil => rfl
  | cons f rest ih =>
    have hfirst := h f List.mem_cons_self
    have hrest := ih fun g hg => h g (List.mem_cons_of_mem f hg)
    rw [pack, if_neg (not_not_intro hfirst), hrest, List.flatMap_cons]
    rfl

theorem takes_of_pack (h : pack e fields = .ok bytes) : ∀ f ∈ fields, f.1.Takes f.2 := by
  induction fields generalizing bytes with
  | nil => exact nofun
  | cons f rest ih =>
    rw [pack] at h
    split at h
    case isTrue => cases h
    case isFalse hfirst =>
      cases hrest : pack e rest with
      | error e' =>
        rw [hrest] at h
        cases h
      | ok more =>
        intro g hg
        rcases List.mem_cons.mp hg with rfl | hg
        · exact not_not.mp hfirst
        · exact ih hrest g hg

-- A number that is not negative is read back from its bytes without their sign.
theorem ofBytes_bytes {code : Code} {n : Nat} (h : code.Takes n) :
    LittleEndian.ofBytes (code.bytes n) = n := by
  have hn : (n : Int) < 256 ^ code.size := by
    cases code with
    | B => exact h.2
    | H => exact h.2
    | _ =>
      have hhigh := h.2
      omega
  have hmod : ((n : Int) % 256 ^ code.size).toNat = n := by
    rw [Int.emod_eq_of_lt (by omega) hn]
    rfl
  have hcast : ((256 ^ code.size : Nat) : Int) = 256 ^ code.size := by simp
  unfold Code.bytes LittleEndian.toBytesSigned
  rw [hmod]
  exact LittleEndian.ofBytes_toBytes (by omega)

@[simp] theorem length_bytes (code : Code) (v : Int) : (code.bytes v).length = code.size :=
  LittleEndian.length_toBytesSigned code.size v

-- Where the bytes of the field at this place begin.
def offset : List Code → Nat → Nat
  | code :: rest, place + 1 => code.size + offset rest place
  | _, _ => 0

-- By induction on the place: the field before it takes its own size off the offset.
theorem part_bytes {place : Nat} (h : place < fields.length) :
    ((fields.flatMap fun f => f.1.bytes f.2).drop (offset (fields.map Prod.fst) place)).take
        fields[place].1.size =
      fields[place].1.bytes fields[place].2 := by
  induction fields generalizing place with
  | nil => cases h
  | cons f rest ih =>
    cases place with
    | zero =>
      have hlength := length_bytes f.1 f.2
      show ((f.1.bytes f.2 ++ _).drop 0).take f.1.size = f.1.bytes f.2
      rw [List.drop_zero, ← hlength, List.take_left]
    | succ place =>
      have hrest := ih (Nat.lt_of_succ_lt_succ h)
      have hoffset : offset ((f :: rest).map Prod.fst) (place + 1) =
          (f.1.bytes f.2).length + offset (rest.map Prod.fst) place := by
        rw [length_bytes]
        rfl
      rw [hoffset, List.flatMap_cons, ← List.drop_drop, List.drop_left]
      exact hrest

end Struct

end BanchoPrism.Library
