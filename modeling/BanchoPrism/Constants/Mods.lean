import Mathlib.Data.Nat.Bitwise

namespace BanchoPrism

-- A Mods value is the integer of the IntFlag; its members are the bits 0 to 30.
abbrev Mods := Nat

namespace Mods

def NOMOD : Mods := 0
def NOFAIL : Mods := 1 <<< 0
def EASY : Mods := 1 <<< 1
def TOUCHSCREEN : Mods := 1 <<< 2
def HIDDEN : Mods := 1 <<< 3
def HARDROCK : Mods := 1 <<< 4
def SUDDENDEATH : Mods := 1 <<< 5
def DOUBLETIME : Mods := 1 <<< 6
def RELAX : Mods := 1 <<< 7
def HALFTIME : Mods := 1 <<< 8
def NIGHTCORE : Mods := 1 <<< 9
def FLASHLIGHT : Mods := 1 <<< 10
def AUTOPLAY : Mods := 1 <<< 11
def SPUNOUT : Mods := 1 <<< 12
def AUTOPILOT : Mods := 1 <<< 13
def PERFECT : Mods := 1 <<< 14
def KEY4 : Mods := 1 <<< 15
def KEY5 : Mods := 1 <<< 16
def KEY6 : Mods := 1 <<< 17
def KEY7 : Mods := 1 <<< 18
def KEY8 : Mods := 1 <<< 19
def FADEIN : Mods := 1 <<< 20
def RANDOM : Mods := 1 <<< 21
def CINEMA : Mods := 1 <<< 22
def TARGET : Mods := 1 <<< 23
def KEY9 : Mods := 1 <<< 24
def KEYCOOP : Mods := 1 <<< 25
def KEY1 : Mods := 1 <<< 26
def KEY3 : Mods := 1 <<< 27
def KEY2 : Mods := 1 <<< 28
def SCOREV2 : Mods := 1 <<< 29
def MIRROR : Mods := 1 <<< 30

def allBits : Mods := 2 ^ 31 - 1

def KEY_MODS : Mods :=
  KEY1 ||| KEY2 ||| KEY3 ||| KEY4 ||| KEY5 ||| KEY6 ||| KEY7 ||| KEY8 ||| KEY9

def SPEED_CHANGING_MODS : Mods := DOUBLETIME ||| NIGHTCORE ||| HALFTIME

def OSU_SPECIFIC_MODS : Mods := AUTOPILOT ||| SPUNOUT ||| TARGET

def MANIA_SPECIFIC_MODS : Mods := MIRROR ||| RANDOM ||| FADEIN ||| KEY_MODS

-- Mods(value) with the boundary KEEP of an IntFlag: unknown high bits stay,
-- and a negative value is read as the complement of its bits.
def ofInt (value : Int) : Mods :=
  if 0 ≤ value then value.toNat
  else if -(2 ^ 31) ≤ value then (2 ^ 31 + value).toNat
  else (2 ^ (Nat.log2 value.natAbs + 1) + value).toNat

-- ~mods of an IntFlag: the members that mods does not contain.
def invert (mods : Mods) : Mods := allBits ^^^ (mods &&& allBits)

def without (mods removed : Mods) : Mods := mods &&& invert removed

def has (mods flag : Mods) : Bool := mods &&& flag != 0

-- value & mask for an i32 value: a negative one acts through its two's complement.
def maskInt (value : Int) (mask : Mods) : Mods := (value % 2 ^ 32).toNat &&& mask

def withoutIf (cond : Mods → Bool) (removed mods : Mods) : Mods :=
  if cond mods then without mods removed else mods

-- The members of KEY_MODS by value, the order in which the flag is iterated.
def keyModsByValue : List Mods := [KEY4, KEY5, KEY6, KEY7, KEY8, KEY9, KEY1, KEY3, KEY2]

def keepFirstKeymod (mods : Mods) : Mods :=
  match keyModsByValue.filter (mods.has ·) with
  | first :: _ :: _ => without mods (without (mods &&& KEY_MODS) first)
  | _ => mods

def filterInvalidCombos (mods : Mods) (modeVn : Nat) : Mods :=
  let dtnc := mods &&& (DOUBLETIME ||| NIGHTCORE)
  let mods :=
    if dtnc = (DOUBLETIME ||| NIGHTCORE) then without mods DOUBLETIME
    else if dtnc ≠ 0 ∧ mods.has HALFTIME then without mods HALFTIME
    else mods
  let mods := withoutIf (fun mods => mods.has EASY && mods.has HARDROCK) HARDROCK mods
  let mods :=
    if mods.has (NOFAIL ||| RELAX ||| AUTOPILOT) then
      withoutIf (·.has PERFECT) PERFECT (withoutIf (·.has SUDDENDEATH) SUDDENDEATH mods)
    else mods
  let mods :=
    if mods.has (RELAX ||| AUTOPILOT) then withoutIf (·.has NOFAIL) NOFAIL mods else mods
  let mods := withoutIf (fun mods => mods.has PERFECT && mods.has SUDDENDEATH) SUDDENDEATH mods
  let mods := if modeVn ≠ 0 then without mods OSU_SPECIFIC_MODS else mods
  let mods := if modeVn ≠ 3 then without mods MANIA_SPECIFIC_MODS else mods
  let mods :=
    if modeVn = 0 ∧ mods.has AUTOPILOT then
      withoutIf (·.has (SPUNOUT ||| RELAX)) AUTOPILOT mods
    else mods
  let mods :=
    if modeVn = 3 then
      withoutIf (fun mods => mods.has HIDDEN && mods.has FADEIN) FADEIN (without mods RELAX)
    else mods
  keepFirstKeymod mods

def modstr2mod (s : List Char) : Option Mods :=
  match s with
  | ['N', 'F'] => some NOFAIL
  | ['E', 'Z'] => some EASY
  | ['T', 'D'] => some TOUCHSCREEN
  | ['H', 'D'] => some HIDDEN
  | ['H', 'R'] => some HARDROCK
  | ['S', 'D'] => some SUDDENDEATH
  | ['D', 'T'] => some DOUBLETIME
  | ['R', 'X'] => some RELAX
  | ['H', 'T'] => some HALFTIME
  | ['N', 'C'] => some NIGHTCORE
  | ['F', 'L'] => some FLASHLIGHT
  | ['A', 'U'] => some AUTOPLAY
  | ['S', 'O'] => some SPUNOUT
  | ['A', 'P'] => some AUTOPILOT
  | ['P', 'F'] => some PERFECT
  | ['F', 'I'] => some FADEIN
  | ['R', 'N'] => some RANDOM
  | ['C', 'N'] => some CINEMA
  | ['T', 'P'] => some TARGET
  | ['V', '2'] => some SCOREV2
  | ['M', 'R'] => some MIRROR
  | ['1', 'K'] => some KEY1
  | ['2', 'K'] => some KEY2
  | ['3', 'K'] => some KEY3
  | ['4', 'K'] => some KEY4
  | ['5', 'K'] => some KEY5
  | ['6', 'K'] => some KEY6
  | ['7', 'K'] => some KEY7
  | ['8', 'K'] => some KEY8
  | ['9', 'K'] => some KEY9
  | ['C', 'O'] => some KEYCOOP
  | _ => none

-- str.upper on the characters whose upper case is an ASCII letter.
def upper (c : Char) : Char :=
  if c = 'ſ' then 'S' else if c = 'ı' then 'I' else c.toUpper

-- The two-character chunks of a mod string, unknown ones left out.
def fromModChars : List Char → Mods
  | first :: second :: rest =>
      (modstr2mod [upper first, upper second]).getD NOMOD ||| fromModChars rest
  | _ => NOMOD

def fromModstr (s : String) : Mods := fromModChars s.toList

theorem invert_lt (mods : Mods) : invert mods < 2 ^ 31 := by
  apply Nat.xor_lt_two_pow (by decide)
  exact lt_of_le_of_lt Nat.and_le_right (by decide)

theorem without_lt (mods removed : Mods) : without mods removed < 2 ^ 31 :=
  Nat.and_lt_two_pow mods (invert_lt removed)

theorem ofInt_lt {value : Int} (hlow : -(2 ^ 31) ≤ value) (hhigh : value < 2 ^ 31) :
    ofInt value < 2 ^ 31 := by
  unfold ofInt
  split
  · exact (Int.toNat_lt ‹_›).mpr (by exact_mod_cast hhigh)
  · exact (Int.toNat_lt (by omega)).mpr (by push_cast; omega)

theorem maskInt_lt (value : Int) {mask : Mods} (h : mask < 2 ^ 31) : maskInt value mask < 2 ^ 31 :=
  Nat.and_lt_two_pow _ h

theorem withoutIf_lt (cond : Mods → Bool) (removed : Mods) {mods : Mods} (h : mods < 2 ^ 31) :
    withoutIf cond removed mods < 2 ^ 31 := by
  unfold withoutIf
  split
  · exact without_lt mods removed
  · exact h

theorem keepFirstKeymod_lt {mods : Mods} (h : mods < 2 ^ 31) : keepFirstKeymod mods < 2 ^ 31 := by
  unfold keepFirstKeymod
  split
  · exact without_lt mods _
  · exact h

theorem ite_lt {c : Prop} [Decidable c] {mods mods' : Mods} (h : mods < 2 ^ 31)
    (h' : mods' < 2 ^ 31) : (if c then mods else mods') < 2 ^ 31 := by
  split
  · exact h
  · exact h'

theorem filterInvalidCombos_lt {mods : Mods} (h : mods < 2 ^ 31) (modeVn : Nat) :
    filterInvalidCombos mods modeVn < 2 ^ 31 := by
  unfold filterInvalidCombos
  extract_lets dtnc speed hard fail noFail perfect osu mania autopilot relax
  have hspeed : speed < 2 ^ 31 := ite_lt (without_lt _ _) (ite_lt (without_lt _ _) h)
  have hhard : hard < 2 ^ 31 := withoutIf_lt _ _ hspeed
  have hfail : fail < 2 ^ 31 := ite_lt (withoutIf_lt _ _ (withoutIf_lt _ _ hhard)) hhard
  have hnoFail : noFail < 2 ^ 31 := ite_lt (withoutIf_lt _ _ hfail) hfail
  have hperfect : perfect < 2 ^ 31 := withoutIf_lt _ _ hnoFail
  have hosu : osu < 2 ^ 31 := ite_lt (without_lt _ _) hperfect
  have hmania : mania < 2 ^ 31 := ite_lt (without_lt _ _) hosu
  have hautopilot : autopilot < 2 ^ 31 := ite_lt (withoutIf_lt _ _ hmania) hmania
  have hrelax : relax < 2 ^ 31 := ite_lt (withoutIf_lt _ _ (without_lt _ _)) hautopilot
  exact keepFirstKeymod_lt hrelax

theorem dite_getD {c : Prop} [Decidable c] {x : c → Option Mods} {y : ¬c → Option Mods}
    (hx : ∀ h, (x h).getD NOMOD < 2 ^ 31) (hy : ∀ h, (y h).getD NOMOD < 2 ^ 31) :
    (dite c x y).getD NOMOD < 2 ^ 31 := by
  split
  · exact hx _
  · exact hy _

-- One comparison of a character after the other; the match itself is too wide to split.
set_option linter.auxLemma false in
theorem modstr2mod_lt (s : List Char) : (modstr2mod s).getD NOMOD < 2 ^ 31 := by
  have hnone : (none : Option Mods).getD NOMOD < 2 ^ 31 := by decide
  delta modstr2mod modstr2mod.match_1
  rcases s with _ | ⟨a, _ | ⟨b, _ | ⟨c, rest⟩⟩⟩
  all_goals
    repeat' first
      | with_reducible refine dite_getD (fun h => ?_) fun h => ?_
      | subst h
      | with_reducible exact hnone
      | decide

theorem fromModChars_lt (s : List Char) : fromModChars s < 2 ^ 31 := by
  induction s using fromModChars.induct with
  | case1 first second rest ih =>
    rw [fromModChars]
    exact Nat.or_lt_two_pow (modstr2mod_lt _) ih
  | case2 s h =>
    rw [fromModChars]
    · decide
    · exact h

end Mods

end BanchoPrism
