import BanchoPrism.Library.Prog
import BanchoPrism.Listings.Queries
import BanchoPrism.Scores.Accuracy
import Mathlib.Tactic.IntervalCases

namespace BanchoPrism.Listings

open Library

-- GameMode.valid_gamemodes
def validGamemodes : List GameMode :=
  [.VANILLA_OSU, .VANILLA_TAIKO, .VANILLA_CATCH, .VANILLA_MANIA, .RELAX_OSU, .RELAX_TAIKO,
    .RELAX_CATCH, .AUTOPILOT_OSU]

-- What ChangeAction and the leaderboard query make of a mode and its mods.
def modeAndMods (mode : Nat) (mods : Mods) : Nat × Mods :=
  if mods.has Mods.RELAX then
    -- rx!mania doesn't exist
    if mode = 3 then (mode, mods.without Mods.RELAX) else (mode + 4, mods)
  else if mods.has Mods.AUTOPILOT then
    -- ap!catch, taiko and mania don't exist
    if mode = 1 ∨ mode = 2 ∨ mode = 3 then (mode, mods.without Mods.AUTOPILOT)
    else (mode + 8, mods)
  else (mode, mods)

-- The member of Action is its number, of 0 to 13.
structure Status where
  action : Nat
  infoText : String
  mapMd5 : String
  mods : Mods
  mode : GameMode
  mapId : Int

structure ChangeAction where
  action : Nat
  infoText : String
  mapMd5 : String
  mods : Mods
  mode : Nat
  mapId : Int

-- ChangeAction.__init__, after the fields of the packet are read
def ChangeAction.init (action : Nat) (infoText mapMd5 : String) (mods : Mods) (mode : Nat)
    (mapId : Int) : ChangeAction :=
  let resolved := modeAndMods mode mods
  { action, infoText, mapMd5, mods := resolved.2, mode := resolved.1, mapId }

-- A number that is no member raises, and what comes before it is set.
def ChangeAction.handle (packet : ChangeAction) (status : Status) : Status :=
  if 13 < packet.action then status
  else
    let status :=
      { status with
        action := packet.action
        infoText := packet.infoText
        mapMd5 := packet.mapMd5
        mods := packet.mods }
    match GameMode.ofValue packet.mode with
    | none => status
    | some mode => { status with mode := mode, mapId := packet.mapId }

-- _resolve_score_query_mode_and_mods: none is the ValueError of an unknown mode
def resolveScoreQueryModeAndMods (modeArg : Nat) (modsArg : Mods) : Option (GameMode × Mods) :=
  let resolved := modeAndMods modeArg modsArg
  (GameMode.ofValue resolved.1).map fun mode => (mode, resolved.2)

-- What is submitted with the mods in the vanilla mode.
def Submitted (modeVn : Nat) (mods : Mods) (s : Scores.Submitted) : Prop :=
  s.mods = mods ∧ ∃ b now data,
    Scores.fromSubmission b now data = .ok s ∧ Scores.intAt b data 13 = .ok (modeVn : Int)

-- One mode for a submission, for the status of the player and for the board of a client.
structure ModesAgree (modeVn : Nat) (mods : Mods) (mode : GameMode) : Prop where
  accepted : GameMode.fromParams modeVn mods = some mode
  stored : ∀ s, Submitted modeVn mods s → s.mode = mode
  online : ∀ action infoText mapMd5 mapId status, action ≤ 13 →
    ((ChangeAction.init action infoText mapMd5 mods modeVn mapId).handle status).mode = mode
  queried : (resolveScoreQueryModeAndMods modeVn mods).map Prod.fst = some mode
  supported : mode ∈ validGamemodes
  -- a best score is among those that the query is for
  shown : ∀ s, Submitted modeVn mods s → ∀ found ∈ resolveScoreQueryModeAndMods modeVn mods,
    ∀ row : ScoreRow, row.mode = s.mode.value → row.status = BEST →
      row.isBestOn row.mapMd5 found.1.value

-- At most one of relax and autopilot, and in a mode that has it.
def Supported (modeVn : Nat) (mods : Mods) : Prop :=
  (mods.has Mods.RELAX → ¬mods.has Mods.AUTOPILOT ∧ modeVn ≠ 3) ∧
    (mods.has Mods.AUTOPILOT → modeVn = 0)

section Agreement

theorem fromSubmission_mode {b : Scores.Builtins} {now : Int} {data : List String}
    {s : Scores.Submitted} (h : Scores.fromSubmission b now data = .ok s) {modeVn : Int}
    (hmode : Scores.intAt b data 13 = .ok modeVn) :
    GameMode.fromParams modeVn s.mods = some s.mode := by
  unfold Scores.fromSubmission at h
  -- the fields up to the mods, in the order in which they are read
  obtain ⟨clientChecksum, -, h⟩ := of_bind_ok h
  obtain ⟨n300, -, h⟩ := of_bind_ok h
  obtain ⟨n100, -, h⟩ := of_bind_ok h
  obtain ⟨n50, -, h⟩ := of_bind_ok h
  obtain ⟨ngeki, -, h⟩ := of_bind_ok h
  obtain ⟨nkatu, -, h⟩ := of_bind_ok h
  obtain ⟨nmiss, -, h⟩ := of_bind_ok h
  obtain ⟨score, -, h⟩ := of_bind_ok h
  obtain ⟨maxCombo, -, h⟩ := of_bind_ok h
  obtain ⟨perfect, -, h⟩ := of_bind_ok h
  obtain ⟨gradeText, -, h⟩ := of_bind_ok h
  obtain ⟨grade, -, h⟩ := of_bind_ok h
  obtain ⟨mods, -, h⟩ := of_bind_ok h
  obtain ⟨passed, -, h⟩ := of_bind_ok h
  obtain ⟨found, hfound, h⟩ := of_bind_ok h
  obtain ⟨mode, hparams, h⟩ := of_bind_ok h
  obtain ⟨timeText, -, h⟩ := of_bind_ok h
  obtain ⟨clientTime, -, h⟩ := of_bind_ok h
  obtain ⟨osuVersion, -, h⟩ := of_bind_ok h
  cases h
  rw [hmode] at hfound
  cases hfound
  cases hcases : GameMode.fromParams modeVn (Mods.ofInt mods) with
  | none =>
    rw [hcases] at hparams
    cases hparams
  | some m =>
    rw [hcases] at hparams
    cases hparams
    rfl

variable {modeVn : Nat} {mods : Mods} {mode : GameMode}

theorem handle_mode (h : GameMode.ofValue (modeAndMods modeVn mods).1 = some mode) {action : Nat}
    (haction : action ≤ 13) (infoText mapMd5 : String) (mapId : Int) (status : Status) :
    ((ChangeAction.init action infoText mapMd5 mods modeVn mapId).handle status).mode = mode := by
  simp only [ChangeAction.handle, ChangeAction.init, h]
  rw [if_neg (by omega)]

theorem resolve_mode (modeVn : Nat) (mods : Mods) :
    (resolveScoreQueryModeAndMods modeVn mods).map Prod.fst =
      GameMode.ofValue (modeAndMods modeVn mods).1 := by
  simp only [resolveScoreQueryModeAndMods, Option.map_map]
  exact Option.map_id'

-- What all three come to is what from_params and the other case analysis come to.
theorem modesAgree_iff : ModesAgree modeVn mods mode ↔
    GameMode.fromParams modeVn mods = some mode ∧
      GameMode.ofValue (modeAndMods modeVn mods).1 = some mode ∧ mode ∈ validGamemodes := by
  constructor
  · intro h
    exact ⟨h.accepted, (resolve_mode modeVn mods).symm.trans h.queried, h.supported⟩
  · rintro ⟨haccepted, hresolved, hsupported⟩
    have hstored {s : Scores.Submitted} (hs : Submitted modeVn mods s) : s.mode = mode := by
      obtain ⟨hmods, b, now, data, hs, hmode⟩ := hs
      have hfrom := fromSubmission_mode hs hmode
      rw [hmods, haccepted] at hfrom
      exact (Option.some.inj hfrom).symm
    have hqueried := (resolve_mode modeVn mods).trans hresolved
    refine ⟨haccepted, fun s hs => hstored hs, ?_, hqueried, hsupported, ?_⟩
    · exact fun action infoText mapMd5 mapId status haction =>
        handle_mode hresolved haction infoText mapMd5 mapId status
    · intro s hs found hfound row hmode hbest
      rw [Option.mem_def.mp hfound] at hqueried
      have hsame : found.1 = mode := Option.some.inj hqueried
      simp [ScoreRow.isBestOn, hmode, hbest, hstored hs, hsame]

end Agreement

theorem modes_agree_iff {modeVn : Nat} (hmode : modeVn ≤ 3) (mods : Mods) :
    (∃ mode, ModesAgree modeVn mods mode) ↔ Supported modeVn mods := by
  simp only [modesAgree_iff, GameMode.fromParams, modeAndMods, Supported]
  cases hrelax : mods.has Mods.RELAX <;> cases hauto : mods.has Mods.AUTOPILOT
  all_goals interval_cases modeVn
  all_goals simp [GameMode.ofValue, validGamemodes]

theorem modes_agree_relax : ∃ mode, ModesAgree 0 Mods.RELAX mode :=
  (modes_agree_iff (by decide) Mods.RELAX).mpr ⟨fun _ => ⟨by decide, by decide⟩, fun _ => rfl⟩

-- Relax and autopilot together: two of the paths say relax, and the other one autopilot.
theorem not_modes_agree : ¬∃ mode, ModesAgree 0 (Mods.RELAX ||| Mods.AUTOPILOT) mode := by
  rintro ⟨mode, h⟩
  have haccepted := h.accepted
  have hqueried := h.queried
  have hstored : GameMode.fromParams 0 (Mods.RELAX ||| Mods.AUTOPILOT) = some .AUTOPILOT_OSU := by
    decide
  have hboard : (resolveScoreQueryModeAndMods 0 (Mods.RELAX ||| Mods.AUTOPILOT)).map Prod.fst =
      some .RELAX_OSU := by
    decide
  rw [hboard] at hqueried
  cases hqueried
  exact absurd (hstored.symm.trans haccepted) (by decide)

end BanchoPrism.Listings
