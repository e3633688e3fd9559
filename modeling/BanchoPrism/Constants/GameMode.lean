import BanchoPrism.Constants.Mods

namespace BanchoPrism

inductive GameMode
  | VANILLA_OSU
  | VANILLA_TAIKO
  | VANILLA_CATCH
  | VANILLA_MANIA
  | RELAX_OSU
  | RELAX_TAIKO
  | RELAX_CATCH
  | RELAX_MANIA
  | AUTOPILOT_OSU
  | AUTOPILOT_TAIKO
  | AUTOPILOT_CATCH
  | AUTOPILOT_MANIA
  deriving DecidableEq, Repr, Inhabited

namespace GameMode

def value : GameMode → Nat
  | VANILLA_OSU => 0
  | VANILLA_TAIKO => 1
  | VANILLA_CATCH => 2
  | VANILLA_MANIA => 3
  | RELAX_OSU => 4
  | RELAX_TAIKO => 5
  | RELAX_CATCH => 6
  | RELAX_MANIA => 7
  | AUTOPILOT_OSU => 8
  | AUTOPILOT_TAIKO => 9
  | AUTOPILOT_CATCH => 10
  | AUTOPILOT_MANIA => 11

-- GameMode(value): none is the ValueError of an unknown member.
def ofValue : Int → Option GameMode
  | 0 => some VANILLA_OSU
  | 1 => some VANILLA_TAIKO
  | 2 => some VANILLA_CATCH
  | 3 => some VANILLA_MANIA
  | 4 => some RELAX_OSU
  | 5 => some RELAX_TAIKO
  | 6 => some RELAX_CATCH
  | 7 => some RELAX_MANIA
  | 8 => some AUTOPILOT_OSU
  | 9 => some AUTOPILOT_TAIKO
  | 10 => some AUTOPILOT_CATCH
  | 11 => some AUTOPILOT_MANIA
  | _ => none

def asVanilla (mode : GameMode) : Nat := mode.value % 4

def fromParams (modeVn : Int) (mods : Mods) : Option GameMode :=
  if mods.has Mods.AUTOPILOT then ofValue (modeVn + 8)
  else if mods.has Mods.RELAX then ofValue (modeVn + 4)
  else ofValue modeVn

-- mode >= GameMode.RELAX_OSU
def rankedByPp (mode : GameMode) : Bool := RELAX_OSU.value ≤ mode.value

theorem ofValue_value (mode : GameMode) : ofValue mode.value = some mode := by
  cases mode <;> rfl

theorem value_of_ofValue {n : Int} {mode : GameMode} (h : ofValue n = some mode) :
    n = mode.value := by
  unfold ofValue at h
  split at h <;> simp_all only [Option.some.injEq, reduceCtorEq] <;> subst h <;> rfl

end GameMode

end BanchoPrism
