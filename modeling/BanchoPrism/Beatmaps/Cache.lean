import BanchoPrism.Beatmaps.Refresh
import BanchoPrism.Library.Tasks

namespace BanchoPrism.Beatmaps

open Library

-- app.state.cache.beatmap has keys of both kinds.
inductive Key
  | md5 (md5 : String)
  | id (id : Int)
  deriving DecidableEq

def Key.Names : Key → Beatmap → Prop
  | .md5 k, bmap => bmap.md5 = k
  | .id i, bmap => bmap.id = i

instance (key : Key) (bmap : Beatmap) : Decidable (key.Names bmap) := by
  cases key <;> unfold Key.Names <;> infer_instance

def Cache.get (cache : Cache) : Key → Option MapRef
  | .md5 md5 => cache.byMd5 md5
  | .id id => cache.byId id

namespace Server

-- cache_beatmap
def cacheBeatmap (s : Server) (r : MapRef) : Server :=
  { s with
    cache :=
      { s.cache with
        byMd5 := Function.update s.cache.byMd5 (s.beatmaps r).md5 (some r)
        byId := Function.update s.cache.byId (s.beatmaps r).id (some r) } }

-- cache_beatmap_set
def cacheBeatmapSet (s : Server) (σ : SetRef) : Server :=
  (s.sets σ).maps.foldl cacheBeatmap
    { s with
      cache := { s.cache with sets := Function.update s.cache.sets (s.sets σ).id (some σ) } }

-- A BeatmapSet, and its maps with it.
def newSet (s : Server) (row : MapSetRow) (maps : List Beatmap) : SetRef × Server :=
  let (t, refs) := newMaps s.nextSet s maps
  (s.nextSet,
    { t with
      sets := Function.update t.sets s.nextSet
        { id := row.id, server := row.server, maps := refs, lastOsuapiCheck := row.lastOsuapiCheck }
      nextSet := s.nextSet + 1 })

end Server

namespace Tables

-- maps.partial_update(id, filename=...)
def updateFilename (t : Tables) (id : Int) (filename : String) : Tables :=
  { t with
    maps := t.maps.map fun row => if row.id = id then { row with filename := filename } else row }

-- The status of each frozen map of a set.
def currentMaps (t : Tables) (id : Int) : List (Int × Scores.RankedStatus) :=
  dictOf ((t.maps.filter fun row => row.setId = id ∧ row.frozen = true ∧ row.server = .OSU).map
    fun row => (row.id, row.status))

end Tables

def Beatmap.withFilename (row : Beatmap) : Beatmap :=
  if row.filename = "" then
    { row with filename := osuFilename row.artist row.title row.creator row.version }
  else row

def ApiMap.newBeatmapOf (currentMaps : List (Int × Scores.RankedStatus)) (resp : ApiMap) :
    Beatmap :=
  match currentMaps.lookup resp.beatmapId with
  | some status =>
      { Beatmap.blank resp.beatmapId with status := status, frozen := true }.parseFromOsuapiResp
        resp
  | none => resp.newBeatmap

-- What one call meets outside: what _cache_expired makes of the clock, the time, and what
-- osu!api has to say about a key, about a set, and about a set that is refreshed.
structure Outside where
  expired : Bool
  now : Int
  lookup : Response
  set : Response
  refresh : Response

inductive Op
  | fromMd5 (md5 : String) (setId : Int) (o : Outside)
  | fromBid (bid : Int) (o : Outside)
  | fromBsid (bsid : Int) (o : Outside)
  -- _update_if_available on the set in the cache
  | update (bsid : Int) (o : Outside)

-- What is left to do after each await, and after some steps between that do not await: the
-- runs of the source are among those of the lines. The key is what from_bsid is called for.
inductive Line
  | find (key : Key) (setId : Int) (o : Outside)
  | fetchSetId (key : Key) (o : Outside)
  | askSetId (key : Key) (o : Outside)
  | load (bsid : Int) (key : Option Key) (o : Outside)
  | fetchMapset (bsid : Int) (key : Option Key) (o : Outside)
  | fetchMaps (row : MapSetRow) (key : Option Key) (o : Outside)
  | build (row : MapSetRow) (rows : List Beatmap) (key : Option Key) (o : Outside)
  | updateFilename (id : Int) (filename : String)
  | loaded (σ : SetRef) (key : Option Key) (o : Outside)
  | askSet (bsid : Int) (key : Option Key) (o : Outside)
  | fetchFrozen (bsid : Int) (answer : List ApiMap) (key : Option Key) (o : Outside)
  | update (bsid : Int) (o : Outside)
  | askRefresh (σ : SetRef) (o : Outside)
  | deleteMaps (md5s : List String)
  | deleteScores (md5s : List String)
  | replaceMapset (σ : SetRef)
  | deleteMapset (id : Int)
  | saveToSql (σ : SetRef)
  | cacheSet (σ : SetRef) (key : Option Key)
  | finish (key : Key) (r : MapRef)

-- What the calls have returned so far: for which key, and the map as it was then.
structure World where
  server : Server
  returned : List (Key × Beatmap)

def World.on (w : World) (f : Server → Server) : World := { w with server := f w.server }

def World.return (w : World) (key : Key) (r : MapRef) : World :=
  { w with returned := w.returned ++ [(key, w.server.beatmaps r)] }

-- from_md5 and from_bid look into the cache again after from_bsid.
def World.returnCached (w : World) (key : Option Key) : World :=
  match key with
  | none => w
  | some key =>
      match w.server.cache.get key with
      | some r => w.return key r
      | none => w

open Line

def Op.line : Op → Line
  | .fromMd5 md5 setId o => find (.md5 md5) setId o
  | .fromBid bid o => find (.id bid) 0 o
  | .fromBsid bsid o => load bsid none o
  | .update bsid o => Line.update bsid o

-- _update_if_available, as far as the request.
def Server.refreshLines (s : Server) (σ : SetRef) (o : Outside) : List Line :=
  if (s.sets σ).server = .OSU then [askRefresh σ o] else []

def deleteLines (md5s : List String) : List Line :=
  if md5s = [] then [] else [deleteMaps md5s, deleteScores md5s]

-- _update_if_available, from the answer on.
def Server.answered (s : Server) (σ : SetRef) (o : Outside) : Server × List Line :=
  match o.refresh with
  | .failed => (s, [])
  | .data answer =>
      let (t, deleted) := s.reconcile σ o.now answer
      (t, deleteLines deleted ++ [replaceMapset σ, saveToSql σ])
  | .none statusCode =>
      if statusCode = 404 ∨ statusCode = 200 then
        (s, deleteLines (s.osuMd5s σ) ++ [deleteMapset (s.sets σ).id])
      else (s, [])

def Line.perform (line : Line) (w : World) : World × List Line :=
  let s := w.server
  match line with
  | find key setId o =>
      match s.cache.get key with
      | some r =>
          (w, (if o.expired then s.refreshLines (s.setOf r) o else []) ++ [finish key r])
      | none => (w, if setId ≤ 0 then [fetchSetId key o] else [load setId (some key) o])
  | fetchSetId key o =>
      match s.tables.maps.find? fun row => key.Names row with
      | some row => (w, [load row.setId (some key) o])
      | none => (w, [askSetId key o])
  | askSetId key o =>
      match o.lookup with
      | .data (resp :: _) => (w, [load resp.beatmapsetId (some key) o])
      | _ => (w, [])
  | load bsid key o =>
      match s.cache.sets bsid with
      | some σ => (w, [loaded σ key o])
      | none => (w, [fetchMapset bsid key o])
  | fetchMapset bsid key o =>
      match s.tables.mapsets.find? fun row => row.id = bsid with
      | some row => (w, [fetchMaps row key o])
      | none => (w, [askSet bsid key o])
  | fetchMaps row key o => (w, [build row (s.tables.mapsOf row.id) key o])
  | build row rows key o =>
      let (σ, t) := s.newSet row (rows.map Beatmap.withFilename)
      let missing := rows.filter fun bmap => bmap.filename = ""
      (w.on fun _ => t,
        missing.map (fun bmap => updateFilename bmap.id bmap.withFilename.filename) ++
          [loaded σ key o])
  | updateFilename id filename =>
      (w.on fun s => s.onTables fun tables => tables.updateFilename id filename, [])
  | loaded σ key o =>
      (w, (if o.expired then s.refreshLines σ o else []) ++ [cacheSet σ key])
  | askSet bsid key o =>
      match o.set with
      | .data answer => (w, [fetchFrozen bsid answer key o])
      | _ => (w, [])
  | fetchFrozen bsid answer key o =>
      let (σ, t) := s.newSet { id := bsid, server := .OSU, lastOsuapiCheck := o.now }
        (answer.map (ApiMap.newBeatmapOf (s.tables.currentMaps bsid)))
      (w.on fun _ => t, [replaceMapset σ, saveToSql σ, cacheSet σ key])
  | update bsid o =>
      match s.cache.sets bsid with
      | some σ => (w, s.refreshLines σ o)
      | none => (w, [])
  | askRefresh σ o => (w.on fun _ => (s.answered σ o).1, (s.answered σ o).2)
  | deleteMaps md5s => (w.on fun s => s.onTables fun tables => tables.deleteMaps md5s, [])
  | deleteScores md5s => (w.on fun s => s.onTables fun tables => tables.deleteScores md5s, [])
  | replaceMapset σ =>
      (w.on fun s => s.onTables fun tables => tables.replaceMapset (s.mapsetRow σ), [])
  | deleteMapset id => (w.on fun s => s.onTables fun tables => tables.deleteMapset id, [])
  | saveToSql σ =>
      (w.on fun s => s.onTables fun tables => tables.saveToSql (s.rows (s.sets σ).maps), [])
  | cacheSet σ key => ((w.on fun s => s.cacheBeatmapSet σ).returnCached key, [])
  | finish key r => (w.return key r, [])

abbrev Traffic := Tasks World Line

abbrev Event := Tasks.Event Op

def Traffic.step (t : Traffic) (e : Event) : Traffic :=
  Tasks.step (fun o => [o.line]) Line.perform t e

end BanchoPrism.Beatmaps
