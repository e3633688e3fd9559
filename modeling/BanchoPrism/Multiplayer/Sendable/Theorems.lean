import BanchoPrism.Multiplayer.Departing
import BanchoPrism.Multiplayer.Sendable.Runs

namespace BanchoPrism

open Library Prog Cursor

section Writing

-- The id that write_match writes for a slot.
def takenId (s : Server) (slot : Slot) : Option Nat :=
  if slot.status.hasPlayer then slot.player.map fun q => (s.player q).id else none

-- Every field of a match that its reader has a name for.
structure SameMatch (s : Server) (m : Match) (data : MultiplayerMatch) : Prop where
  id : data.id = m.id
  inProgress : data.inProgress = m.inProgress
  mods : data.mods = m.mods
  name : data.name = m.name
  passwd : data.passwd = m.passwd
  mapName : data.mapName = m.mapName
  mapId : data.mapId = m.mapId
  mapMd5 : data.mapMd5 = m.mapMd5
  slotStatuses : data.slotStatuses =
    (List.finRange 16).map fun i => ((m.slots i).status.value : Int)
  slotTeams : data.slotTeams = (List.finRange 16).map fun i => ((m.slots i).team.value : Int)
  slotIds : data.slotIds =
    ((List.finRange 16).filterMap fun i => takenId s (m.slots i)).map Nat.cast
  hostId : data.hostId = m.hostId
  mode : data.mode = m.mode.value
  winCondition : data.winCondition = m.winCondition.value
  teamType : data.teamType = m.teamType.value
  freemods : data.freemods = m.freemods
  slotMods : m.freemods →
    data.slotMods = (List.finRange 16).map fun i => ((m.slots i).mods : Int)
  seed : data.seed = m.seed

-- write_match(match, send_pw=True) does not raise, and read_match takes its bytes, and
-- no more, for the same match.
def RoundTrips (s : Server) (m : Match) : Prop :=
  ∃ w, writeMatch s m true = .ok w ∧
    ∃ data, (∀ rest, readMatch (w.bytes ++ rest) = (.ok data, rest)) ∧ SameMatch s m data

variable {s : Server} {m : Match} {host : PlayerRef}

theorem fitsUnsigned_of_lt {n : Nat} (h : n < 2 ^ 31) : fitsUnsigned 4 n := by
  simp only [fitsUnsigned, Bool.and_eq_true, decide_eq_true_eq]
  omega

theorem writeSlotId_eq {slot : Slot} (h : slot.Sendable)
    (hids : ∀ q, (s.player q).id < 2 ^ 31) : writeSlotId s slot = .ok (takenId s slot) := by
  unfold writeSlotId takenId
  by_cases hp : slot.status.hasPlayer
  · obtain ⟨q, hq⟩ := Option.isSome_iff_exists.mp (h.taken hp)
    rw [if_pos hp, if_pos hp, hq]
    dsimp only
    rw [require_true _ (fitsUnsigned_of_lt (hids q))]
    rfl
  · rw [if_neg hp, if_neg hp]
    rfl

-- What write_match makes of the match, but for the seed.
def sentMatch (s : Server) (m : Match) (host : PlayerRef) : WireMatch :=
  wireMatch s m true ((List.finRange 16).map fun i => takenId s (m.slots i)) host

theorem writeMatch_eq (hs : s.Sendable) (hm : m.Sendable) (hhost : matchHost s m = .ok host) :
    writeMatch s m true =
      if 0 ≤ m.seed then .ok (sentMatch s m host) else .error .overflow := by
  have hwide : ∀ n : Nat, n < 2 ^ 31 → fitsUnsigned 4 n := fun n hn => fitsUnsigned_of_lt hn
  have hhead : (fitsUnsigned 2 m.id && fitsUnsigned 4 m.mods) := by
    have hid := hm.id
    simp only [Bool.and_eq_true]
    refine ⟨?_, hwide _ hm.mods⟩
    simp only [fitsUnsigned, Bool.and_eq_true, decide_eq_true_eq]
    omega
  have hids : (List.finRange 16).mapM (fun i => writeSlotId s (m.slots i)) =
      .ok ((List.finRange 16).map fun i => takenId s (m.slots i)) :=
    mapM_of_forall fun i _ => writeSlotId_eq (hm.slots i) hs.ids
  have hmods : (!m.freemods || (List.finRange 16).all fun i => fitsUnsigned 4 (m.slots i).mods) := by
    simp only [Bool.or_eq_true, List.all_eq_true]
    exact .inr fun i _ => hwide _ (hm.slots i).mods
  have hseed : fitsUnsigned 4 m.seed = decide (0 ≤ m.seed) := by
    have hfits := hm.seed
    simp only [fitsI32, Bool.and_eq_true, decide_eq_true_eq] at hfits
    have hsmall : m.seed < 2 ^ (8 * 4) := by omega
    simp only [fitsUnsigned, hsmall, decide_true, Bool.and_true]
  unfold writeMatch
  rw [ok_bind (require_true _ hhead), ok_bind (require_true _ hm.mapId), ok_bind hids,
    ok_bind hhost, ok_bind (require_true _ (hwide _ (hs.ids host))),
    ok_bind (require_true _ hmods), hseed]
  by_cases h : 0 ≤ m.seed
  · rw [if_pos h, ok_bind (require_true _ (decide_eq_true h))]
    rfl
  · rw [if_neg h, decide_eq_false h]
    rfl

end Writing

section Reading

variable {s : Server} {m : Match} {host : PlayerRef}

theorem takenIds_length (h : ∀ i, (m.slots i).Sendable) (slots : List (Fin 16)) :
    (slots.filterMap fun i => takenId s (m.slots i)).length =
      ((slots.map fun i => (m.slots i).status).filter SlotStatus.hasPlayer).length := by
  induction slots with
  | nil => rfl
  | cons i rest ih =>
    rw [List.map_cons]
    by_cases hp : (m.slots i).status.hasPlayer
    · obtain ⟨q, hq⟩ := Option.isSome_iff_exists.mp ((h i).taken hp)
      have hid : takenId s (m.slots i) = some (s.player q).id := by
        rw [takenId, if_pos hp, hq]
        rfl
      simp only [List.filterMap_cons, hid, List.filter_cons_of_pos hp, List.length_cons, ih]
    · have hid : takenId s (m.slots i) = none := if_neg hp
      simp only [List.filterMap_cons, hid, List.filter_cons_of_neg hp, ih]

theorem sentMatch_fits (hs : s.Sendable) (hm : m.Sendable) (hseed : 0 ≤ m.seed) :
    (sentMatch s m host).Fits where
  id := Nat.lt_trans hm.id (by decide)
  mods := hm.mods
  mapId := hm.mapId
  statusCount := by simp [sentMatch, wireMatch]
  statuses status h := by
    obtain ⟨i, -, rfl⟩ := List.mem_map.mp h
    exact (hm.slots i).status
  teamCount := by simp [sentMatch, wireMatch]
  idCount := by
    have hlength := takenIds_length (s := s) hm.slots (List.finRange 16)
    simpa [sentMatch, wireMatch, List.filterMap_map, Function.comp_def] using hlength
  ids id h := by
    obtain ⟨found, hfound, rfl⟩ := List.mem_filterMap.mp h
    obtain ⟨i, -, hi⟩ := List.mem_map.mp hfound
    unfold takenId at hi
    split at hi
    · obtain ⟨q, -, rfl⟩ := Option.map_eq_some_iff.mp hi
      exact hs.ids q
    · cases hi
  hostId := hs.ids host
  modCount := by
    cases hf : m.freemods <;> simp [sentMatch, wireMatch, hf]
  slotMods mods h := by
    simp only [sentMatch, wireMatch] at h
    split at h
    · obtain ⟨i, -, rfl⟩ := List.mem_map.mp h
      exact (hm.slots i).mods
    · cases h
  seed := by
    have hfits := hm.seed
    simp only [fitsI32, Bool.and_eq_true, decide_eq_true_eq] at hfits
    exact ⟨hseed, hfits.2⟩

theorem shown_text (m : Match) : (writePassword m true).text = m.passwd := by
  unfold writePassword
  split
  · rename_i h
    rw [h]
    rfl
  · rfl

theorem sameMatch_sent (hid : (s.player host).id = m.hostId) :
    SameMatch s m (sentMatch s m host).read where
  id := rfl
  inProgress := rfl
  mods := rfl
  name := rfl
  passwd := shown_text m
  mapName := rfl
  mapId := rfl
  mapMd5 := rfl
  slotStatuses := List.map_map
  slotTeams := List.map_map
  slotIds := by simp [sentMatch, wireMatch, WireMatch.read, List.filterMap_map]
  hostId := congrArg Nat.cast hid
  mode := rfl
  winCondition := rfl
  teamType := rfl
  freemods := rfl
  slotMods h := by simp [sentMatch, wireMatch, WireMatch.read, h]
  seed := rfl

-- The seed is read as a signed number and written as an unsigned one.
theorem Server.Sendable.readsBack_iff (hs : s.Sendable) (hm : m.Sendable)
    (hhost : matchHost s m = .ok host) : RoundTrips s m ↔ 0 ≤ m.seed := by
  have hwrite := writeMatch_eq hs hm hhost
  have hid : (s.player host).id = m.hostId := (hs.byId _ _ (matchHost_ok.mp hhost)).2
  by_cases h : 0 ≤ m.seed
  · rw [if_pos h] at hwrite
    have hread := (@sentMatch_fits s m host hs hm h).reads
    exact iff_of_true ⟨_, hwrite, _, hread, sameMatch_sent hid⟩ h
  · rw [if_neg h] at hwrite
    refine iff_of_false ?_ h
    rintro ⟨w, hw, -⟩
    rw [hwrite] at hw
    cases hw

end Reading

section Runs

-- In a state that client packets lead to, a match whose host is online makes the round
-- trip unless the client that created it gave it a negative seed.
theorem roundTrips_iff (setup : Setup) {run : List Event} (hrun : ∀ event ∈ run, event.OnWire)
    {s : Server} (hs : (runFrom World.step setup.start run).server = s) (r : MatchRef)
    (host : PlayerRef) (hhost : matchHost s (s.matchAt r) = .ok host) :
    RoundTrips s (s.matchAt r) ↔ 0 ≤ (s.matchAt r).seed := by
  subst hs
  have hsendable := (run_sendable setup hrun).server
  exact hsendable.readsBack_iff (hsendable.matchAt r) hhost

-- A player logs in and creates a match with this seed.
def createsWithSeed (seed : Int) : List Event :=
  [.login { id := 3, name := "a", token := "a", priv := Privileges.UNRESTRICTED },
    .packet 1 (.createMatch { name := "a", mapName := "b", mapId := 7, hostId := 3, seed := seed })
      { now := 10 }]

theorem createsWithSeed_onWire {seed : Int} (h : fitsI32 seed) :
    ∀ event ∈ createsWithSeed seed, event.OnWire := by
  have hlogin : (3 : Nat) < 2 ^ 31 := by decide
  simp only [createsWithSeed, List.forall_mem_cons]
  exact ⟨hlogin, ⟨rfl, rfl, h⟩, fun _ hnone => absurd hnone List.not_mem_nil⟩

theorem roundTrips_iff_seed :
    RoundTrips (runFrom World.step (Setup.start {}) (createsWithSeed 5)).server
      ((runFrom World.step (Setup.start {}) (createsWithSeed 5)).server.matchAt 0) :=
  (roundTrips_iff {} (createsWithSeed_onWire rfl) rfl 0 1 (by decide)).mpr
    (by decide)

-- The client sends the seed -1.
theorem not_roundTrips_negativeSeed :
    matchHost (runFrom World.step (Setup.start {}) (createsWithSeed (-1))).server
      ((runFrom World.step (Setup.start {}) (createsWithSeed (-1))).server.matchAt 0) = .ok 1 ∧
    ¬RoundTrips (runFrom World.step (Setup.start {}) (createsWithSeed (-1))).server
      ((runFrom World.step (Setup.start {}) (createsWithSeed (-1))).server.matchAt 0) := by
  have hfails : (writeMatch (runFrom World.step (Setup.start {}) (createsWithSeed (-1))).server
      ((runFrom World.step (Setup.start {}) (createsWithSeed (-1))).server.matchAt 0) true).isOk =
        false := by decide
  refine ⟨by decide, ?_⟩
  rintro ⟨w, hw, -⟩
  rw [hw] at hfails
  cases hfails

end Runs

end BanchoPrism
