import BanchoPrism.Constants.GameMode
import BanchoPrism.Scores.Score
import BanchoPrism.Library.Rows

namespace BanchoPrism.Beatmaps

open Scores (RankedStatus)
open Library

inductive MapServer
  | OSU
  | PRIVATE
  deriving DecidableEq

structure DateTime where
  year : Nat
  month : Nat
  day : Nat
  hour : Nat
  minute : Nat
  second : Nat
  deriving DecidableEq

-- RankedStatus.from_osuapi
def fromOsuapi (osuapiStatus : Int) : RankedStatus :=
  if osuapiStatus = -2 ∨ osuapiStatus = -1 ∨ osuapiStatus = 0 then .Pending
  else if osuapiStatus = 1 then .Ranked
  else if osuapiStatus = 2 then .Approved
  else if osuapiStatus = 3 then .Qualified
  else if osuapiStatus = 4 then .Loved
  else .UpdateAvailable

-- What a Beatmap has but for its set, which is also its row of the maps table.
structure Beatmap where
  md5 : String
  id : Int
  setId : Int
  artist : String
  title : String
  version : String
  creator : String
  lastUpdate : DateTime
  totalLength : Int
  maxCombo : Int
  status : RankedStatus
  frozen : Bool
  plays : Int
  passes : Int
  mode : GameMode
  bpm : ℚ
  cs : ℚ
  od : ℚ
  ar : ℚ
  hp : ℚ
  diff : ℚ
  filename : String
  server : MapServer
  deriving DecidableEq

-- A map in an answer of get_beatmaps, with its numbers read.
structure ApiMap where
  beatmapId : Int
  beatmapsetId : Int
  fileMd5 : String
  artist : String
  title : String
  version : String
  creator : String
  lastUpdate : DateTime
  totalLength : Int
  maxCombo : Option Int
  approved : Int
  mode : GameMode
  bpm : Option ℚ
  diffSize : ℚ
  diffOverall : ℚ
  diffApproach : ℚ
  diffDrain : ℚ
  difficultyrating : ℚ
  deriving DecidableEq

def ignoredBeatmapChars : List Char := [':', '\\', '/', '*', '<', '>', '?', '"', '|']

def osuFilename (artist title creator version : String) : String :=
  let name := artist ++ " - " ++ title ++ " (" ++ creator ++ ") [" ++ version ++ "].osu"
  String.ofList (name.toList.filter fun c => c ∉ ignoredBeatmapChars)

def ApiMap.filename (resp : ApiMap) : String :=
  osuFilename resp.artist resp.title resp.creator resp.version

-- _parse_from_osuapi_resp: the id stays, and the status of a frozen map.
def Beatmap.parseFromOsuapiResp (bmap : Beatmap) (resp : ApiMap) : Beatmap :=
  { bmap with
    md5 := resp.fileMd5
    setId := resp.beatmapsetId
    artist := resp.artist
    title := resp.title
    version := resp.version
    creator := resp.creator
    filename := resp.filename
    lastUpdate := resp.lastUpdate
    totalLength := resp.totalLength
    maxCombo := resp.maxCombo.getD 0
    status := if bmap.frozen then bmap.status else fromOsuapi resp.approved
    mode := resp.mode
    bpm := resp.bpm.getD 0
    cs := resp.diffSize
    od := resp.diffOverall
    ar := resp.diffApproach
    hp := resp.diffDrain
    diff := resp.difficultyrating }

-- Beatmap.__new__, with what is set beside the answer's data.
def Beatmap.blank (id : Int) : Beatmap where
  md5 := ""
  id := id
  setId := 0
  artist := ""
  title := ""
  version := ""
  creator := ""
  lastUpdate := { year := 1970, month := 1, day := 1, hour := 0, minute := 0, second := 0 }
  totalLength := 0
  maxCombo := 0
  status := .Pending
  frozen := false
  plays := 0
  passes := 0
  mode := .VANILLA_OSU
  bpm := 0
  cs := 0
  od := 0
  ar := 0
  hp := 0
  diff := 0
  filename := ""
  server := .OSU

def ApiMap.newBeatmap (resp : ApiMap) : Beatmap :=
  (Beatmap.blank resp.beatmapId).parseFromOsuapiResp resp

section Parsing

variable (bmap : Beatmap) (resp : ApiMap)

@[simp] theorem parse_md5 : (bmap.parseFromOsuapiResp resp).md5 = resp.fileMd5 := rfl

@[simp] theorem parse_id : (bmap.parseFromOsuapiResp resp).id = bmap.id := rfl

@[simp] theorem parse_setId : (bmap.parseFromOsuapiResp resp).setId = resp.beatmapsetId := rfl

@[simp] theorem parse_server : (bmap.parseFromOsuapiResp resp).server = bmap.server := rfl

@[simp] theorem parse_frozen : (bmap.parseFromOsuapiResp resp).frozen = bmap.frozen := rfl

@[simp] theorem parse_plays : (bmap.parseFromOsuapiResp resp).plays = bmap.plays := rfl

@[simp] theorem parse_passes : (bmap.parseFromOsuapiResp resp).passes = bmap.passes := rfl

theorem parse_status : (bmap.parseFromOsuapiResp resp).status =
    if bmap.frozen then bmap.status else fromOsuapi resp.approved := rfl

@[simp] theorem newBeatmap_id : resp.newBeatmap.id = resp.beatmapId := rfl

@[simp] theorem newBeatmap_md5 : resp.newBeatmap.md5 = resp.fileMd5 := rfl

@[simp] theorem newBeatmap_setId : resp.newBeatmap.setId = resp.beatmapsetId := rfl

@[simp] theorem newBeatmap_server : resp.newBeatmap.server = .OSU := rfl

@[simp] theorem newBeatmap_status : resp.newBeatmap.status = fromOsuapi resp.approved := rfl

end Parsing

abbrev MapRef := Nat

abbrev SetRef := Nat

structure BeatmapSet where
  id : Int
  server : MapServer
  maps : List MapRef
  lastOsuapiCheck : Int

structure MapSetRow where
  id : Int
  server : MapServer
  lastOsuapiCheck : Int

structure ScoreRow where
  id : Nat
  mapMd5 : String
  deriving DecidableEq

structure Tables where
  maps : List Beatmap
  mapsets : List MapSetRow
  scores : List ScoreRow

-- app.state.cache.beatmap, by md5 and by id, and app.state.cache.beatmapset
structure Cache where
  byMd5 : String → Option MapRef
  byId : Int → Option MapRef
  sets : Int → Option SetRef

structure Server where
  beatmaps : MapRef → Beatmap
  -- the set attribute of a Beatmap
  setOf : MapRef → SetRef
  nextMap : Nat
  sets : SetRef → BeatmapSet
  nextSet : Nat
  tables : Tables
  cache : Cache

-- What api_get_beatmaps gives.
inductive Response
  -- a TransportError or a DecodingError
  | failed
  | data (maps : List ApiMap)
  | none (statusCode : Nat)

namespace Tables

def mapsOf (t : Tables) (id : Int) : List Beatmap := t.maps.filter fun row => row.setId = id

-- DELETE FROM maps WHERE md5 IN :map_md5s AND server = 'osu!'
def deleteMaps (t : Tables) (md5s : List String) : Tables :=
  { t with maps := t.maps.filter fun row => ¬(row.md5 ∈ md5s ∧ row.server = .OSU) }

-- DELETE FROM scores WHERE map_md5 IN :map_md5s
def deleteScores (t : Tables) (md5s : List String) : Tables :=
  { t with scores := t.scores.filter fun row => row.mapMd5 ∉ md5s }

-- Both, when there is something to delete.
def deleteAll (t : Tables) (md5s : List String) : Tables :=
  if md5s = [] then t else (t.deleteMaps md5s).deleteScores md5s

def replaceMapset (t : Tables) (row : MapSetRow) : Tables :=
  { t with mapsets := (t.mapsets.filter fun other => other.id ≠ row.id) ++ [row] }

-- DELETE FROM mapsets WHERE id = :set_id AND server = 'osu!'
def deleteMapset (t : Tables) (id : Int) : Tables :=
  { t with mapsets := t.mapsets.filter fun row => ¬(row.id = id ∧ row.server = .OSU) }

-- _save_to_sql: maps.id and maps.md5 are each unique.
def saveToSql (t : Tables) (rows : List Beatmap) : Tables :=
  { t with maps := replaceAll Beatmap.id Beatmap.md5 t.maps rows }

end Tables

namespace Server

def onTables (s : Server) (f : Tables → Tables) : Server := { s with tables := f s.tables }

def rows (s : Server) (refs : List MapRef) : List Beatmap := refs.map s.beatmaps

def setBeatmap (s : Server) (r : MapRef) (bmap : Beatmap) : Server :=
  { s with beatmaps := Function.update s.beatmaps r bmap }

def setSet (s : Server) (σ : SetRef) (set : BeatmapSet) : Server :=
  { s with sets := Function.update s.sets σ set }

def newMap (s : Server) (σ : SetRef) (bmap : Beatmap) : MapRef × Server :=
  (s.nextMap,
    { s with
      beatmaps := Function.update s.beatmaps s.nextMap bmap
      setOf := Function.update s.setOf s.nextMap σ
      nextMap := s.nextMap + 1 })

def newMaps (σ : SetRef) : Server → List Beatmap → Server × List MapRef
  | s, [] => (s, [])
  | s, bmap :: rest =>
      let (r, s) := s.newMap σ bmap
      let (t, refs) := newMaps σ s rest
      (t, r :: refs)

-- The loop over the maps that the set has: those to keep, some of them updated, and the
-- md5s of those that are gone.
def keepOld (newMaps : List (Int × ApiMap)) :
    Server → List (Int × MapRef) → Server × List MapRef × List String
  | s, [] => (s, [], [])
  | s, (oldId, r) :: rest =>
      let old := s.beatmaps r
      match newMaps.lookup oldId with
      | none =>
          let (t, kept, deleted) := keepOld newMaps s rest
          if old.server = .OSU then (t, kept, old.md5 :: deleted) else (t, r :: kept, deleted)
      | some resp =>
          let (t, kept, deleted) := keepOld newMaps
            (if old.md5 ≠ resp.fileMd5 ∨ old.status ≠ fromOsuapi resp.approved then
              s.setBeatmap r (old.parseFromOsuapiResp resp)
            else s) rest
          (t, r :: kept, deleted)

-- The loop over the maps that it does not have yet.
def addNew (σ : SetRef) (oldMaps : List (Int × MapRef)) :
    Server → List (Int × ApiMap) → Server × List MapRef
  | s, [] => (s, [])
  | s, (newId, resp) :: rest =>
      if oldMaps.any fun old => old.1 = newId then addNew σ oldMaps s rest
      else
        let (r, s) := s.newMap σ resp.newBeatmap
        let (t, added) := addNew σ oldMaps s rest
        (t, r :: added)

def oldMaps (s : Server) (σ : SetRef) : List (Int × MapRef) :=
  dictOf ((s.sets σ).maps.map fun r => ((s.beatmaps r).id, r))

-- What _update_if_available does before it awaits the database.
def reconcile (s : Server) (σ : SetRef) (now : Int) (answer : List ApiMap) :
    Server × List String :=
  let newMaps := dictOf (answer.map fun resp => (resp.beatmapId, resp))
  let (t, kept, deleted) := keepOld newMaps s (s.oldMaps σ)
  let (u, added) := addNew σ (s.oldMaps σ) t newMaps
  (u.setSet σ { s.sets σ with maps := kept ++ added, lastOsuapiCheck := now }, deleted)

def mapsetRow (s : Server) (σ : SetRef) : MapSetRow :=
  { id := (s.sets σ).id, server := (s.sets σ).server, lastOsuapiCheck := (s.sets σ).lastOsuapiCheck }

-- The md5s of the set's maps that a set gone from osu! takes with it.
def osuMd5s (s : Server) (σ : SetRef) : List String :=
  ((s.rows (s.sets σ).maps).filter fun bmap => bmap.server = .OSU).map Beatmap.md5

def updateIfAvailable (s : Server) (σ : SetRef) (now : Int) (response : Response) : Server :=
  if (s.sets σ).server ≠ .OSU then s
  else
    match response with
    | .failed => s
    | .data answer =>
        let (t, deleted) := s.reconcile σ now answer
        t.onTables fun tables =>
          ((tables.deleteAll deleted).replaceMapset (t.mapsetRow σ)).saveToSql
            (t.rows (t.sets σ).maps)
    | .none statusCode =>
        if statusCode = 404 ∨ statusCode = 200 then
          s.onTables fun tables => (tables.deleteAll (s.osuMd5s σ)).deleteMapset (s.sets σ).id
        else s

end Server

end BanchoPrism.Beatmaps
