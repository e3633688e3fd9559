import BanchoPrism.Library.Json
import BanchoPrism.Library.Paging
import BanchoPrism.Library.Traces
import Mathlib.Data.List.Perm.Subperm
import Mathlib.Order.OrderDual

namespace BanchoPrism.Feed

open Library

-- _MAX_FEED_SOURCES
def MAX_FEED_SOURCES : Nat := 500

-- _EVENT_TYPE_MAX_LEN
def EVENT_TYPE_MAX_LEN : Nat := 32

inductive ActivityEventType
  | RANK_UP
  | PP_RECORD
  | FIRST_PLACE
  | ACHIEVEMENT
  deriving DecidableEq

def ActivityEventType.value : ActivityEventType → List Char
  | RANK_UP => "rank_up".toList
  | PP_RECORD => "pp_record".toList
  | FIRST_PLACE => "first_place".toList
  | ACHIEVEMENT => "achievement".toList

-- A row of the activity_events table, with its data as text.
structure Row where
  id : Nat
  userId : Nat
  eventType : List Char
  mode : Option Int
  data : Option (List Char)
  deriving DecidableEq

structure ActivityEvent (F : Type) where
  id : Nat
  userId : Nat
  eventType : List Char
  mode : Option Int
  data : Option (Json F)

-- _deserialize: text that is no JSON is an error.
def Row.deserialize {F : Type} (floats : Json.FloatText F) (row : Row) :
    Option (ActivityEvent F) :=
  match row.data with
  | none => some ⟨row.id, row.userId, row.eventType, row.mode, none⟩
  | some text =>
      (Json.loads floats text).map fun data =>
        ⟨row.id, row.userId, row.eventType, row.mode, some data⟩

-- The table: rows are only ever inserted, each with a greater id.
structure Log where
  rows : List Row
  nextId : Nat
  sorted : rows.Pairwise fun a b => a.id < b.id
  ids_lt : ∀ row ∈ rows, row.id < nextId

-- What publish_rank_up and the others are called with.
inductive Publication (F : Type)
  | rankUp (userId : Nat) (mode : Int) (oldRank : Option Int) (newRank : Int)
  | ppRecord (userId : Nat) (mode oldPp newPp : Int)
  | firstPlace (userId : Nat) (mode scoreId beatmapId : Int) (beatmapTitle : String) (pp : F)
  | achievement (userId : Nat) (mode achievementId : Int) (achievementName : String)

namespace Publication

variable {F : Type}

def userId : Publication F → Nat
  | rankUp userId _ _ _ | ppRecord userId _ _ _ | firstPlace userId _ _ _ _ _
  | achievement userId _ _ _ => userId

def mode : Publication F → Int
  | rankUp _ mode _ _ | ppRecord _ mode _ _ | firstPlace _ mode _ _ _ _
  | achievement _ mode _ _ => mode

def eventType : Publication F → ActivityEventType
  | rankUp _ _ _ _ => .RANK_UP
  | ppRecord _ _ _ _ => .PP_RECORD
  | firstPlace _ _ _ _ _ _ => .FIRST_PLACE
  | achievement _ _ _ _ => .ACHIEVEMENT

def data : Publication F → Json F
  | rankUp _ _ oldRank newRank =>
      .dict [("old_rank", (oldRank.map Json.int).getD .null), ("new_rank", .int newRank)]
  | ppRecord _ _ oldPp newPp => .dict [("old_pp", .int oldPp), ("new_pp", .int newPp)]
  | firstPlace _ _ scoreId beatmapId beatmapTitle pp =>
      .dict [("score_id", .int scoreId), ("beatmap_id", .int beatmapId),
        ("beatmap_title", .str beatmapTitle), ("pp", .float pp)]
  | achievement _ _ achievementId achievementName =>
      .dict [("id", .int achievementId), ("name", .str achievementName)]

end Publication

-- ActivityEventsRepository.record
def Log.record (log : Log) (userId : Nat) (eventType : List Char) (mode : Option Int)
    (data : Option (List Char)) : Log where
  rows := log.rows ++ [⟨log.nextId, userId, eventType.take EVENT_TYPE_MAX_LEN, mode, data⟩]
  nextId := log.nextId + 1
  sorted := by
    rw [List.pairwise_append]
    refine ⟨log.sorted, List.pairwise_singleton _ _, fun row hrow new hnew => ?_⟩
    rw [List.mem_singleton.mp hnew]
    exact log.ids_lt row hrow
  ids_lt row hrow := by
    rcases List.mem_append.mp hrow with hold | hnew
    · exact Nat.lt_succ_of_lt (log.ids_lt row hold)
    · rw [List.mem_singleton.mp hnew]
      exact Nat.lt_succ_self _

def Log.publish {F : Type} (floats : Json.FloatText F) (log : Log) (event : Publication F) : Log :=
  log.record event.userId event.eventType.value (some event.mode)
    (some (Json.dumps floats event.data))

-- What the events of these users come to from before_id backwards, the newest first.
def Log.feed (log : Log) (userIds : List Nat) (beforeId : Option Nat) : List Row :=
  (log.rows.filter fun row => row.userId ∈ userIds ∧ beforeId.all fun id => row.id < id).reverse

-- fetch_for_user and fetch_feed
def Log.fetchFeed (log : Log) (userIds : List Nat) (beforeId : Option Nat) (limit : Nat) :
    List Row :=
  (log.feed userIds beforeId).take limit

-- _page_meta: where the next page begins, if there is one.
def nextBeforeId (events : List Row) (limit : Nat) : Option Nat :=
  if events.length = limit then events.getLast?.map Row.id else none

inductive RelationshipType
  | FRIEND
  | BLOCK
  deriving DecidableEq

structure Relationship where
  user1 : Nat
  user2 : Nat
  type : RelationshipType
  deriving DecidableEq

structure World where
  log : Log
  relationships : List Relationship

-- friend_ids
def World.friendIds (w : World) (viewerId : Nat) : List Nat :=
  ((w.relationships.filter fun rel => rel.user1 = viewerId ∧ rel.type = .FRIEND).map
    Relationship.user2).take MAX_FEED_SOURCES

-- What is left to do after each await: of a write, or of a client that goes through a feed by
-- asking for the page that next_before_id says until there is none.
inductive Line (F : Type)
  | publish (event : Publication F)
  | relate (relationships : List Relationship)
  | fetchForUser (userId : Nat) (beforeId : Option Nat) (limit : Nat)
  | fetchFriendships (viewerId : Nat) (beforeId : Option Nat) (limit : Nat)
  | fetchFeed (viewerId : Nat) (friendIds : List Nat) (beforeId : Option Nat) (limit : Nat)

inductive Request (F : Type)
  | publish (event : Publication F)
  -- another table of relationships, after friends were added and removed
  | relate (relationships : List Relationship)
  | scrollUser (userId limit : Nat)
  | scrollFriends (viewerId limit : Nat)

open Line

section Perform

variable {F : Type} (floats : Json.FloatText F)

def Request.lines : Request F → List (Line F)
  | .publish event => [Line.publish event]
  | .relate relationships => [Line.relate relationships]
  | .scrollUser userId limit => [fetchForUser userId none limit]
  | .scrollFriends viewerId limit => [fetchFriendships viewerId none limit]

def Line.perform (line : Line F) (w : World) : World × List (Line F) :=
  match line with
  | publish event => ({ w with log := w.log.publish floats event }, [])
  | relate relationships => ({ w with relationships := relationships }, [])
  | fetchForUser userId beforeId limit =>
      match nextBeforeId (w.log.fetchFeed [userId] beforeId limit) limit with
      | some id => (w, [fetchForUser userId (some id) limit])
      | none => (w, [])
  | fetchFriendships viewerId beforeId limit =>
      (w, [fetchFeed viewerId (w.friendIds viewerId) beforeId limit])
  | fetchFeed viewerId friendIds beforeId limit =>
      match nextBeforeId (w.log.fetchFeed friendIds beforeId limit) limit with
      | some id => (w, [fetchFriendships viewerId (some id) limit])
      | none => (w, [])

abbrev Traffic (F : Type) := Tasks World (Line F)

abbrev Event (F : Type) := Tasks.Event (Request F)

def Traffic.step (t : Traffic F) (e : Event F) : Traffic F :=
  Tasks.step Request.lines (Line.perform floats) t e

end Perform

-- A page that was asked for, and the table that it was read from.
structure Fetch where
  log : Log
  userIds : List Nat
  beforeId : Option Nat
  limit : Nat

def Fetch.page (fetch : Fetch) : List Row :=
  fetch.log.fetchFeed fetch.userIds fetch.beforeId fetch.limit

def Line.fetch {F : Type} (line : Line F) (w : World) : Option Fetch :=
  match line with
  | fetchForUser userId beforeId limit => some ⟨w.log, [userId], beforeId, limit⟩
  | fetchFeed _ friendIds beforeId limit => some ⟨w.log, friendIds, beforeId, limit⟩
  | publish _ | relate _ | fetchFriendships _ _ _ => none

def fetches {F : Type} (past : List (World × Line F)) : List Fetch :=
  past.filterMap fun entry => entry.2.fetch entry.1

-- What a client has been shown by some pages.
def shown (pages : List Fetch) : List Row := pages.flatMap Fetch.page

section Pages

variable {log later : Log} {userIds : List Nat} {beforeId : Option Nat} {limit id u : Nat}

theorem all_beforeId {row : Row} :
    (beforeId.all fun id => row.id < id) = true ↔ ∀ id ∈ beforeId, row.id < id := by
  cases beforeId <;> simp

theorem mem_feed {row : Row} : row ∈ log.feed userIds beforeId ↔
    row ∈ log.rows ∧ row.userId ∈ userIds ∧ ∀ id ∈ beforeId, row.id < id := by
  simp [Log.feed, all_beforeId]

theorem feed_descending (log : Log) (userIds : List Nat) (beforeId : Option Nat) :
    (log.feed userIds beforeId).Pairwise fun a b => b.id < a.id :=
  List.pairwise_reverse.mpr (log.sorted.filter _)

-- The events of one user among those of more.
theorem filter_feed (hu : u ∈ userIds) :
    (log.feed userIds beforeId).filter (fun row => row.userId = u) = log.feed [u] beforeId := by
  unfold Log.feed
  rw [List.filter_reverse, List.filter_filter]
  congr 2
  funext row
  by_cases hrow : row.userId = u
  · simp [hrow, hu]
  · simp [hrow]

theorem nextBeforeId_eq_some {page : List Row} (h : nextBeforeId page limit = some id) :
    page.length = limit ∧ ∃ row, page.getLast? = some row ∧ row.id = id := by
  unfold nextBeforeId at h
  split at h
  · exact ⟨by assumption, Option.map_eq_some_iff.mp h⟩
  · cases h

-- A full page, and what the next one begins with.
theorem feed_of_page (h : nextBeforeId (log.fetchFeed userIds beforeId limit) limit = some id) :
    log.feed userIds beforeId =
      log.fetchFeed userIds beforeId limit ++ log.feed userIds (some id) := by
  obtain ⟨-, last, hlast, rfl⟩ := nextBeforeId_eq_some h
  have hbehind := @filter_after_page _ _ (log.feed userIds beforeId) _ _
    (fun row => OrderDual.toDual row.id) (feed_descending log userIds beforeId) limit last hlast
  have hmem : last ∈ log.feed userIds beforeId :=
    List.mem_of_mem_take (List.mem_of_getLast? hlast)
  have hrest : (log.feed userIds beforeId).filter (fun row => row.id < last.id) =
      log.feed userIds (some last.id) := by
    unfold Log.feed
    rw [List.filter_reverse, List.filter_filter]
    congr 2
    funext row
    by_cases hrow : row.id < last.id
    · have hbefore : (beforeId.all fun id => row.id < id) = true :=
        all_beforeId.mpr fun id hid => hrow.trans ((mem_feed.mp hmem).2.2 id hid)
      simp [hrow, hbefore]
    · simp [hrow]
  have hdrop : (log.feed userIds beforeId).filter (fun row => row.id < last.id) =
      (log.feed userIds beforeId).drop limit := hbehind
  rw [← hrest, hdrop]
  exact (List.take_append_drop limit _).symm

-- A page that is not full has all that is left.
theorem fetchFeed_of_last (hlimit : 0 < limit)
    (h : nextBeforeId (log.fetchFeed userIds beforeId limit) limit = none) :
    log.fetchFeed userIds beforeId limit = log.feed userIds beforeId := by
  refine List.take_of_length_le (Nat.le_of_not_lt fun hlong => ?_)
  have hfull : (log.fetchFeed userIds beforeId limit).length = limit :=
    List.length_take_of_le hlong.le
  rw [nextBeforeId, if_pos hfull, Option.map_eq_none_iff, List.getLast?_eq_none_iff] at h
  rw [h] at hfull
  exact absurd hfull (Nat.ne_of_lt hlimit)

-- What is published later is newer than where a scroll is.
theorem feed_of_prefix (hlog : log.rows <+: later.rows) {row : Row} (hrow : row ∈ log.rows) :
    later.feed userIds (some row.id) = log.feed userIds (some row.id) := by
  obtain ⟨new, hnew⟩ := hlog
  have hnone : new.filter (fun other => other.userId ∈ userIds ∧
      (some row.id).all fun id => other.id < id) = [] := by
    have hsorted := later.sorted
    rw [← hnew, List.pairwise_append] at hsorted
    rw [List.filter_eq_nil_iff]
    intro other hother
    have hlt := hsorted.2.2 row hrow other hother
    simp only [Option.all_some, decide_eq_true_eq, not_and]
    omega
  unfold Log.feed
  rw [← hnew, List.filter_append, hnone, List.append_nil]

end Pages

-- The pages of a scroll so far, in a log that only grows, and where the next one begins.
inductive Scrolls (limit : Nat) : Log → List Fetch → Option Nat → Prop
  | start (log : Log) : Scrolls limit log [] none
  | page {log : Log} {pages : List Fetch} {beforeId : Option Nat} (userIds : List Nat) {id : Nat}
      (h : Scrolls limit log pages beforeId)
      (hnext : nextBeforeId (log.fetchFeed userIds beforeId limit) limit = some id) :
      Scrolls limit log (pages ++ [⟨log, userIds, beforeId, limit⟩]) (some id)
  | grow {log later : Log} {pages : List Fetch} {beforeId : Option Nat}
      (h : Scrolls limit log pages beforeId) (hlog : log.rows <+: later.rows) :
      Scrolls limit later pages beforeId

-- What pages that end with the event of this id have shown of the log that the first of them was
-- read from, and what is yet to come of it.
structure Paged (limit : Nat) (first log : Log) (pages : List Fetch) (id : Nat) : Prop where
  newestFirst : (shown pages).Pairwise fun a b => b.id < a.id
  above : ∀ row ∈ shown pages, id ≤ row.id
  known : shown pages ⊆ first.rows
  full : (shown pages).length = limit * pages.length
  older : first.rows <+: log.rows
  last : ∃ row ∈ first.rows, row.id = id
  rest : ∀ u, (∀ page ∈ pages, u ∈ page.userIds) →
    (shown pages).filter (fun row => row.userId = u) ++ first.feed [u] (some id) =
      first.feed [u] none

section Scrolling

variable {limit : Nat} {first log later : Log} {pages : List Fetch} {beforeId : Option Nat}
  {userIds : List Nat} {id before : Nat}

theorem shown_concat (pages : List Fetch) (page : Fetch) :
    shown (pages ++ [page]) = shown pages ++ page.page := by
  rw [shown, List.flatMap_append, List.flatMap_singleton]
  rfl

theorem shown_singleton (page : Fetch) : shown [page] = page.page := List.flatMap_singleton _ _

theorem mem_fetchFeed {row : Row} (h : row ∈ log.fetchFeed userIds beforeId limit) :
    row ∈ log.rows ∧ row.userId ∈ userIds ∧ ∀ id ∈ beforeId, row.id < id :=
  mem_feed.mp (List.mem_of_mem_take h)

theorem fetchFeed_descending :
    (log.fetchFeed userIds beforeId limit).Pairwise fun a b => b.id < a.id :=
  (feed_descending log userIds beforeId).sublist (List.take_sublist _ _)

-- The last event of a page is its oldest.
theorem fetchFeed_above (h : nextBeforeId (log.fetchFeed userIds beforeId limit) limit = some id) :
    (∀ row ∈ log.fetchFeed userIds beforeId limit, id ≤ row.id) ∧
      ∃ row ∈ log.rows, row.id = id := by
  obtain ⟨-, last, hlast, rfl⟩ := nextBeforeId_eq_some h
  refine ⟨fun row hrow => ?_, last, (mem_fetchFeed (List.mem_of_getLast? hlast)).1, rfl⟩
  obtain ⟨front, hfront⟩ := List.getLast?_eq_some_iff.mp hlast
  have hdescending := @fetchFeed_descending limit log beforeId userIds
  rw [hfront, List.pairwise_append] at hdescending
  rw [hfront] at hrow
  rcases List.mem_append.mp hrow with hold | hnew
  · exact (hdescending.2.2 row hold last (List.mem_singleton_self _)).le
  · rw [List.mem_singleton.mp hnew]

-- What a page has of a user, and what is left behind it.
theorem filter_page (h : nextBeforeId (log.fetchFeed userIds beforeId limit) limit = some id)
    {u : Nat} (hu : u ∈ userIds) :
    (log.fetchFeed userIds beforeId limit).filter (fun row => row.userId = u) ++
        log.feed [u] (some id) = log.feed [u] beforeId := by
  rw [← filter_feed hu, ← filter_feed hu, ← List.filter_append, ← feed_of_page h]

theorem Paged.opening (hnext : nextBeforeId (log.fetchFeed userIds none limit) limit = some id) :
    Paged limit log log [⟨log, userIds, none, limit⟩] id := by
  obtain ⟨habove, hlast⟩ := fetchFeed_above hnext
  refine ⟨?_, ?_, ?_, ?_, List.prefix_rfl, hlast, fun u hu => ?_⟩ <;> rw [shown_singleton]
  · exact fetchFeed_descending
  · exact habove
  · exact fun row hrow => (mem_fetchFeed hrow).1
  · exact (nextBeforeId_eq_some hnext).1.trans (Nat.mul_one limit).symm
  · exact filter_page hnext (hu _ (List.mem_singleton_self _))

-- The log has grown, but not where the next page is.
theorem Paged.fetchFeed_eq (h : Paged limit first log pages before) :
    log.fetchFeed userIds (some before) limit = first.fetchFeed userIds (some before) limit := by
  obtain ⟨row, hrow, rfl⟩ := h.last
  rw [Log.fetchFeed, Log.fetchFeed, feed_of_prefix h.older hrow]

theorem Paged.newest (h : Paged limit first log pages before) :
    (shown pages ++ first.fetchFeed userIds (some before) limit).Pairwise
      fun a b => b.id < a.id := by
  rw [List.pairwise_append]
  refine ⟨h.newestFirst, fetchFeed_descending, fun row hrow next hnext => ?_⟩
  exact Nat.lt_of_lt_of_le ((mem_fetchFeed hnext).2.2 before rfl) (h.above row hrow)

theorem Paged.page (h : Paged limit first log pages before)
    (hnext : nextBeforeId (log.fetchFeed userIds (some before) limit) limit = some id) :
    Paged limit first log (pages ++ [⟨log, userIds, some before, limit⟩]) id := by
  have hpage : (⟨log, userIds, some before, limit⟩ : Fetch).page =
      first.fetchFeed userIds (some before) limit := h.fetchFeed_eq
  rw [h.fetchFeed_eq] at hnext
  obtain ⟨habove, hlast⟩ := fetchFeed_above hnext
  have hid : id < before := by
    obtain ⟨-, last, hmem, rfl⟩ := nextBeforeId_eq_some hnext
    exact (mem_fetchFeed (List.mem_of_getLast? hmem)).2.2 before rfl
  refine ⟨?_, ?_, ?_, ?_, h.older, hlast, fun u hu => ?_⟩ <;> rw [shown_concat, hpage]
  · exact h.newest
  · intro row hrow
    rcases List.mem_append.mp hrow with hold | hnew
    · exact hid.le.trans (h.above row hold)
    · exact habove row hnew
  · exact List.append_subset.mpr ⟨h.known, fun row hrow => (mem_fetchFeed hrow).1⟩
  · rw [List.length_append, List.length_append, h.full, (nextBeforeId_eq_some hnext).1,
      List.length_singleton, Nat.mul_add, Nat.mul_one]
  · rw [List.filter_append, List.append_assoc,
      filter_page hnext (hu _ (List.mem_append_right _ (List.mem_singleton_self _)))]
    exact h.rest u fun page hmem => hu page (List.mem_append_left _ hmem)

theorem Paged.grow (h : Paged limit first log pages id) (hlog : log.rows <+: later.rows) :
    Paged limit first later pages id := { h with older := h.older.trans hlog }

-- Every scroll that has begun is paged by the log that its first page was read from.
theorem Scrolls.paged (h : Scrolls limit log pages beforeId) :
    pages = [] ∧ beforeId = none ∨
      ∃ page others id, pages = page :: others ∧ beforeId = some id ∧
        Paged limit page.log log pages id := by
  induction h with
  | start log => exact Or.inl ⟨rfl, rfl⟩
  | page userIds _ hnext ih =>
    refine Or.inr ?_
    rcases ih with ⟨rfl, rfl⟩ | ⟨head, others, before, rfl, rfl, hpaged⟩
    · exact ⟨_, [], _, rfl, rfl, Paged.opening hnext⟩
    · exact ⟨head, others ++ [_], _, rfl, rfl, hpaged.page hnext⟩
  | grow _ hlog ih =>
    refine ih.imp id fun ⟨head, others, before, hpages, hbefore, hpaged⟩ => ?_
    exact ⟨head, others, before, hpages, hbefore, hpaged.grow hlog⟩

end Scrolling

-- What a client is shown by the pages of a scroll that is at its end.
structure Shown (pages : List Fetch) : Prop where
  newestFirst : (shown pages).Pairwise fun a b => b.id < a.id
  complete : ∃ first, pages.head? = some first ∧ ∀ u, (∀ page ∈ pages, u ∈ page.userIds) →
    (shown pages).filter (fun row => row.userId = u) = first.log.feed [u] none

section Ends

variable {limit : Nat} {log : Log} {pages : List Fetch} {beforeId : Option Nat}
  {userIds : List Nat}

theorem Scrolls.ends (h : Scrolls limit log pages beforeId) (hlimit : 0 < limit)
    (hnext : nextBeforeId (log.fetchFeed userIds beforeId limit) limit = none) :
    Shown (pages ++ [⟨log, userIds, beforeId, limit⟩]) := by
  have hall : (⟨log, userIds, beforeId, limit⟩ : Fetch).page = log.feed userIds beforeId :=
    fetchFeed_of_last hlimit hnext
  rcases h.paged with ⟨rfl, rfl⟩ | ⟨head, others, before, hpages, rfl, hpaged⟩
  · refine ⟨?_, _, rfl, fun u hu => ?_⟩ <;> rw [List.nil_append, shown_singleton, hall]
    · exact feed_descending log userIds none
    · exact filter_feed (hu _ (List.mem_singleton_self _))
  · have hfirst : (⟨log, userIds, some before, limit⟩ : Fetch).page =
        head.log.fetchFeed userIds (some before) limit := hpaged.fetchFeed_eq
    refine ⟨?_, head, by rw [hpages]; rfl, fun u hu => ?_⟩
    · rw [shown_concat, hfirst]
      exact hpaged.newest
    · have hrest := hpaged.rest u fun page hmem => hu page (List.mem_append_left _ hmem)
      obtain ⟨row, hrow, rfl⟩ := hpaged.last
      rw [shown_concat, hall, List.filter_append, feed_of_prefix hpaged.older hrow,
        filter_feed (hu _ (List.mem_append_right _ (List.mem_singleton_self _)))]
      exact hrest

-- A scroll goes on for as many pages as the log had at its first one.
theorem Scrolls.length_le (h : Scrolls limit log pages beforeId) {first : Fetch}
    (hfirst : pages.head? = some first) : limit * pages.length ≤ first.log.rows.length := by
  rcases h.paged with ⟨rfl, -⟩ | ⟨head, others, id, rfl, -, hpaged⟩
  · cases hfirst
  · cases hfirst
    have hnodup : (shown (first :: others)).Nodup :=
      hpaged.newestFirst.imp fun {a b} (hlt : b.id < a.id) (heq : a = b) =>
        absurd (congrArg Row.id heq) (Nat.ne_of_gt hlt)
    rw [← hpaged.full]
    exact (List.subperm_of_subset hnodup hpaged.known).length_le

end Ends

-- Whose feed it is, and how much of it is asked for at once.
def Request.scroll {F : Type} : Request F → Option Nat
  | .scrollUser _ limit | .scrollFriends _ limit => some limit
  | .publish _ | .relate _ => none

section Runs

variable {F : Type} {floats : Json.FloatText F}

-- How far a task has come that goes through a feed.
def Scrolling (limit : Nat) (w : World) (task : List (Line F)) (past : List (World × Line F)) :
    Prop :=
  (∃ beforeId, Scrolls limit w.log (fetches past) beforeId ∧
    ((∃ userId, task = [fetchForUser userId beforeId limit]) ∨
      (∃ viewerId, task = [fetchFriendships viewerId beforeId limit]) ∨
      ∃ viewerId friendIds, task = [fetchFeed viewerId friendIds beforeId limit])) ∨
    task = [] ∧ (0 < limit → Shown (fetches past)) ∧
      ∃ log beforeId userIds front, Scrolls limit log front beforeId ∧
        fetches past = front ++ [⟨log, userIds, beforeId, limit⟩]

-- The stage of a request, which only a scroll has more to say of.
def Request.Stage (w : World) (request : Request F) (task : List (Line F))
    (past : List (World × Line F)) : Prop :=
  ∀ limit, request.scroll = some limit → Scrolling limit w task past

theorem fetches_concat (past : List (World × Line F)) (w : World) (line : Line F) :
    fetches (past ++ [(w, line)]) = fetches past ++ (line.fetch w).toList := by
  have hone : [(w, line)].filterMap (fun entry => entry.2.fetch entry.1) =
      (line.fetch w).toList := by
    rw [List.filterMap_cons]
    cases line.fetch w <;> rfl
  rw [fetches, List.filterMap_append, hone]
  rfl

theorem events_perform (line : Line F) (w : World) :
    w.log.rows <+: (line.perform floats w).1.log.rows := by
  cases line with
  | publish event => exact List.prefix_append _ _
  | fetchForUser userId beforeId limit =>
    dsimp only [Line.perform]
    split <;> exact List.prefix_rfl
  | fetchFeed viewerId friendIds beforeId limit =>
    dsimp only [Line.perform]
    split <;> exact List.prefix_rfl
  | _ => exact List.prefix_rfl

-- A page, after which the scroll goes on with this line, if it does.
theorem Scrolling.page {w : World} {past : List (World × Line F)} {limit : Nat}
    {beforeId : Option Nat} {userIds : List Nat} {line : Line F} (next : Nat → Line F)
    (h : Scrolls limit w.log (fetches past) beforeId)
    (hfetch : line.fetch w = some ⟨w.log, userIds, beforeId, limit⟩)
    (hrun : line.perform floats w =
      match nextBeforeId (w.log.fetchFeed userIds beforeId limit) limit with
      | some id => (w, [next id])
      | none => (w, []))
    (hkind : ∀ id, (∃ userId, next id = fetchForUser userId (some id) limit) ∨
      ∃ viewerId, next id = fetchFriendships viewerId (some id) limit) :
    Scrolling limit (line.perform floats w).1 (line.perform floats w).2 (past ++ [(w, line)]) := by
  have hpages : fetches (past ++ [(w, line)]) =
      fetches past ++ [⟨w.log, userIds, beforeId, limit⟩] := by
    rw [fetches_concat, hfetch]
    rfl
  rw [hrun]
  cases hnext : nextBeforeId (w.log.fetchFeed userIds beforeId limit) limit with
  | none =>
    refine Or.inr ⟨rfl, fun hlimit => ?_, w.log, beforeId, userIds, fetches past, h, hpages⟩
    rw [hpages]
    exact h.ends hlimit hnext
  | some id =>
    refine Or.inl ⟨some id, hpages ▸ h.page userIds hnext, ?_⟩
    rcases hkind id with ⟨userId, hline⟩ | ⟨viewerId, hline⟩
    · exact Or.inl ⟨userId, congrArg (fun line => [line]) hline⟩
    · exact Or.inr (Or.inl ⟨viewerId, congrArg (fun line => [line]) hline⟩)

theorem Scrolling.own {w : World} {line : Line F} {rest : List (Line F)}
    {past : List (World × Line F)} {limit : Nat} (h : Scrolling limit w (line :: rest) past) :
    Scrolling limit (line.perform floats w).1 ((line.perform floats w).2 ++ rest)
      (past ++ [(w, line)]) := by
  rcases h with ⟨beforeId, hscrolls, hline⟩ | ⟨hnil, -⟩
  · rcases hline with ⟨userId, hline⟩ | ⟨viewerId, hline⟩ | ⟨viewerId, friendIds, hline⟩
    · cases hline
      rw [List.append_nil]
      exact Scrolling.page (fun id => fetchForUser userId (some id) limit) hscrolls rfl rfl
        fun id => Or.inl ⟨userId, rfl⟩
    · cases hline
      refine Or.inl ⟨beforeId, ?_, Or.inr (Or.inr ⟨viewerId, w.friendIds viewerId, rfl⟩)⟩
      rw [fetches_concat]
      exact (List.append_nil (fetches past)).symm ▸ hscrolls
    · cases hline
      rw [List.append_nil]
      exact Scrolling.page (fun id => fetchFriendships viewerId (some id) limit) hscrolls rfl rfl
        fun id => Or.inr ⟨viewerId, rfl⟩
  · cases hnil

theorem Scrolling.other {w : World} {task : List (Line F)} {past : List (World × Line F)}
    {limit : Nat} (h : Scrolling limit w task past) (line : Line F) :
    Scrolling limit (line.perform floats w).1 task past := by
  refine h.imp (fun ⟨beforeId, hscrolls, hline⟩ => ?_) id
  exact ⟨beforeId, hscrolls.grow (events_perform line w), hline⟩

-- What a scroll has shown: no event twice, the newest first, and at its end all the events that
-- there were at the first page of those who are in every page's list of users. It is at its end
-- after as many pages as the log of the first one fills, and one more.
structure Scrolled (limit : Nat) (pages : List Fetch) (done : Prop) : Prop where
  shown : done → Shown pages
  bounded : ∀ first, pages.head? = some first →
    limit * (pages.length - 1) ≤ first.log.rows.length

theorem Scrolling.scrolled {w : World} {task : List (Line F)} {past : List (World × Line F)}
    {limit : Nat} (h : Scrolling limit w task past) (hlimit : 0 < limit) :
    Scrolled limit (fetches past) (task = []) := by
  rcases h with ⟨beforeId, hscrolls, hline⟩ | ⟨-, hshown, log, beforeId, userIds, front, hscrolls,
    hpages⟩
  · refine ⟨fun hdone => ?_, fun first hfirst => ?_⟩
    · rw [hdone] at hline
      rcases hline with ⟨userId, hline⟩ | ⟨viewerId, hline⟩ | ⟨viewerId, friendIds, hline⟩ <;>
        cases hline
    · exact (Nat.mul_le_mul_left limit (Nat.sub_le _ 1)).trans (hscrolls.length_le hfirst)
  · refine ⟨fun _ => hshown hlimit, fun first hfirst => ?_⟩
    rw [hpages] at hfirst ⊢
    rw [List.length_append, List.length_singleton, Nat.add_sub_cancel]
    cases front with
    | nil => exact Nat.zero_le _
    | cons head others => exact hscrolls.length_le hfirst

-- Whatever is published meanwhile and whoever is befriended, this is what a client is shown that
-- follows next_before_id.
theorem scrolled_of_run (floats : Json.FloatText F) (w : World) (run : List (Event F)) (i : Nat)
    (request : Request F) (limit : Nat) (hlimit : 0 < limit)
    (hrequest : (Tasks.begun run)[i]? = some request) (hscroll : request.scroll = some limit) :
    ∃ task, (runFrom (Traffic.step floats) { world := w, running := [] } run).running[i]? =
        some task ∧
      Scrolled limit
        (fetches (Tasks.own i (Tasks.ran (Traffic.step floats) { world := w, running := [] } run)))
        (task = []) := by
  have hguard : Guarded (Traffic.step floats) (Tasks.Meets fun _ _ _ => True)
      { world := w, running := [] } run :=
    Guarded.mono (fun t e _ => Tasks.Meets.of_forall (fun _ _ _ => trivial) t e)
      (Guarded.of_forall fun _ _ => trivial)
  have hstages := @Tasks.Stages.invariant World (Line F) (Request F) Request.lines
    (Line.perform floats) { world := w, running := [] } Request.Stage (fun _ _ _ => True)
    (fun w request limit hscroll => ?_)
    (fun w request line rest past hstage limit hscroll => (hstage limit hscroll).own)
    (fun w request task past line others _ _ hstage limit hscroll =>
      (hstage limit hscroll).other line) rfl run hguard
  · have hi := (List.getElem?_eq_some_iff.mp hrequest).1
    rw [hstages.length] at hi
    have htask := List.getElem?_eq_getElem hi
    exact ⟨_, htask, (hstages.stage i request _ hrequest htask limit hscroll).scrolled hlimit⟩
  · cases request with
    | publish event => cases hscroll
    | relate relationships => cases hscroll
    | scrollUser userId _ =>
      cases hscroll
      exact Or.inl ⟨none, Scrolls.start w.log, Or.inl ⟨userId, rfl⟩⟩
    | scrollFriends viewerId _ =>
      cases hscroll
      exact Or.inl ⟨none, Scrolls.start w.log, Or.inr (Or.inl ⟨viewerId, rfl⟩)⟩

-- JSON has no pp that is not finite.
def Publication.Finite (floats : Json.FloatText F) (event : Publication F) : Prop :=
  match event with
  | .firstPlace _ _ _ _ _ pp => floats.constant pp = none
  | .rankUp _ _ _ _ | .ppRecord _ _ _ _ | .achievement _ _ _ _ => True

theorem Publication.proper {event : Publication F} (h : event.Finite floats) :
    Json.Proper floats event.data := by
  cases event with
  | rankUp userId mode oldRank newRank =>
    have hold : Json.Proper floats ((oldRank.map Json.int).getD .null) := by
      cases oldRank with
      | none => exact .null
      | some rank => exact .int rank
    refine .dict (by simp) ?_
    simp only [List.forall_mem_cons]
    exact ⟨hold, .int newRank, by simp⟩
  | ppRecord userId mode oldPp newPp =>
    refine .dict (by simp) ?_
    simp only [List.forall_mem_cons]
    exact ⟨.int oldPp, .int newPp, by simp⟩
  | firstPlace userId mode scoreId beatmapId beatmapTitle pp =>
    refine .dict (by simp) ?_
    simp only [List.forall_mem_cons]
    exact ⟨.int scoreId, .int beatmapId, .str beatmapTitle, .float h, by simp⟩
  | achievement userId mode achievementId achievementName =>
    refine .dict (by simp) ?_
    simp only [List.forall_mem_cons]
    exact ⟨.int achievementId, .str achievementName, by simp⟩

-- The row of an event, as it is read.
def Publication.event (publication : Publication F) (id : Nat) : ActivityEvent F :=
  ⟨id, publication.userId, publication.eventType.value, some publication.mode,
    some publication.data⟩

-- The last row that is written is read as what was published.
theorem deserialize_publish (hfloats : floats.ReadsBack) (log : Log) {event : Publication F}
    (h : event.Finite floats) {row : Row}
    (hrow : (log.publish floats event).rows.getLast? = some row) :
    row.deserialize floats = some (event.event row.id) := by
  have hshort : event.eventType.value.take EVENT_TYPE_MAX_LEN = event.eventType.value := by
    cases event <;> rfl
  cases List.getLast?_concat.symm.trans hrow
  dsimp only [Row.deserialize]
  rw [Json.loads_dumps hfloats (Publication.proper h), hshort]
  rfl

-- Only a publication writes to the log, and no line leads to one.
theorem perform_log (line : Line F) (w : World) :
    (∀ event, publish event ∉ (line.perform floats w).2) ∧
      ((line.perform floats w).1.log = w.log ∨
        ∃ event, line = publish event ∧
          (line.perform floats w).1.log = w.log.publish floats event) := by
  cases line with
  | publish event => exact ⟨fun _ hmem => (by cases hmem), Or.inr ⟨event, rfl, rfl⟩⟩
  | fetchForUser userId beforeId limit =>
    dsimp only [Line.perform]
    split <;> exact ⟨fun event hmem => by simp at hmem, Or.inl rfl⟩
  | fetchFeed viewerId friendIds beforeId limit =>
    dsimp only [Line.perform]
    split <;> exact ⟨fun event hmem => by simp at hmem, Or.inl rfl⟩
  | relate relationships => exact ⟨fun _ hmem => (by cases hmem), Or.inl rfl⟩
  | fetchFriendships viewerId beforeId limit =>
    exact ⟨fun event hmem => by simp [Line.perform] at hmem, Or.inl rfl⟩

-- What the log has once these requests have begun: what it had, and what was published.
structure Published (floats : Json.FloatText F) (start : List Row) (requests : List (Request F))
    (w : World) (left : List (Line F)) : Prop where
  asked : ∀ event, publish event ∈ left → .publish event ∈ requests
  read : ∀ row ∈ w.log.rows, row ∈ start ∨
    ∃ event : Publication F, .publish event ∈ requests ∧
      (event.Finite floats → row.deserialize floats = some (event.event row.id))

theorem Published.begin {start : List Row} {requests : List (Request F)} {w : World}
    {left : List (Line F)} (h : Published floats start requests w left) (request : Request F) :
    Published floats start (requests ++ [request]) w (request.lines ++ left) where
  asked event hmem := by
    rcases List.mem_append.mp hmem with hnew | hold
    · refine List.mem_append_right _ ?_
      cases request <;> cases List.mem_singleton.mp hnew
      exact List.mem_singleton_self _
    · exact List.mem_append_left _ (h.asked event hold)
  read row hrow := by
    refine (h.read row hrow).imp id fun ⟨event, hevent, hread⟩ => ?_
    exact ⟨event, List.mem_append_left _ hevent, hread⟩

theorem Published.perform {start : List Row} {requests : List (Request F)} {w : World}
    {line : Line F} {others : List (Line F)} (hfloats : floats.ReadsBack)
    (h : Published floats start requests w (line :: others)) :
    Published floats start requests (line.perform floats w).1
      ((line.perform floats w).2 ++ others) := by
  obtain ⟨hlines, hlog⟩ := @perform_log F floats line w
  refine ⟨fun event hmem => ?_, fun row hrow => ?_⟩
  · rcases List.mem_append.mp hmem with hnew | hold
    · exact absurd hnew (hlines event)
    · exact h.asked event (List.mem_cons_of_mem _ hold)
  · rcases hlog with hlog | ⟨event, rfl, hlog⟩
    · exact h.read row (hlog ▸ hrow)
    · rw [hlog] at hrow
      rcases List.mem_append.mp hrow with hold | hnew
      · exact h.read row hold
      · have hlast : (w.log.publish floats event).rows.getLast? = some row := by
          rw [List.mem_singleton.mp hnew]
          exact List.getLast?_concat
        exact Or.inr ⟨event, h.asked event List.mem_cons_self,
          fun hfinite => deserialize_publish hfloats w.log hfinite hlast⟩

-- Every event in the log is one of the start, or is read as what was published.
theorem published_of_run (floats : Json.FloatText F) (hfloats : floats.ReadsBack) (w : World)
    (run : List (Event F))
    (hfinite : ∀ event, .publish event ∈ Tasks.begun run → event.Finite floats) :
    ∀ row ∈ (runFrom (Traffic.step floats) { world := w, running := [] } run).world.log.rows,
      row ∈ w.log.rows ∨ ∃ event, .publish event ∈ Tasks.begun run ∧
        row.deserialize floats = some (event.event row.id) := by
  have hrun := @Tasks.left_invariant World (Line F) (Request F) Request.lines
    (Line.perform floats) { world := w, running := [] } (Published floats w.log.rows)
    (fun _ _ _ _ hperm h =>
      { h with asked := fun event hmem => h.asked event (hperm.mem_iff.mpr hmem) })
    (fun _ _ _ request h => h.begin request) (fun _ _ _ _ h => h.perform hfloats) run []
    ⟨fun event hmem => (by cases hmem), fun row hrow => Or.inl hrow⟩
  intro row hrow
  rw [List.nil_append] at hrun
  refine (hrun.read row hrow).imp id fun ⟨event, hevent, hread⟩ => ?_
  exact ⟨event, hevent, hread (hfinite event hevent)⟩

-- The one float 0.0.
def zeroOnly : Json.FloatText Unit where
  constant _ := none
  ofConstant _ := ()
  repr _ := ['0', '.', '0']
  float _ := ()

theorem zeroOnly_readsBack : zeroOnly.ReadsBack :=
  fun _ _ => ⟨⟨['.', '0'], rfl, by decide, rfl⟩, rfl⟩

-- 5 has 2 and 3 for friends.
def twoFriends : World where
  log := ⟨[], 1, List.Pairwise.nil, fun _ hrow => (by cases hrow)⟩
  relationships := [⟨5, 2, .FRIEND⟩, ⟨5, 3, .FRIEND⟩, ⟨5, 4, .BLOCK⟩]

-- 5 goes through the feed event by event, and 2 plays on.
def scrollWhilePlaying : List (Event Unit) :=
  [.begin (.publish (.firstPlace 2 0 7 70 "song" ())), .resume 0,
    .begin (.publish (.achievement 3 0 1 "first")), .resume 1, .begin (.scrollFriends 5 1),
    .resume 2, .resume 2, .begin (.publish (.ppRecord 2 0 10 20)), .resume 3, .resume 2, .resume 2,
    .begin (.publish (.rankUp 3 0 none 9)), .resume 4, .resume 2, .resume 2]

theorem scrolled_of_run_scrollWhilePlaying :
    ∃ task, (runFrom (Traffic.step zeroOnly) { world := twoFriends, running := [] }
        scrollWhilePlaying).running[2]? = some task ∧
      Scrolled 1
        (fetches (Tasks.own 2 (Tasks.ran (Traffic.step zeroOnly)
          { world := twoFriends, running := [] } scrollWhilePlaying)))
        (task = []) :=
  scrolled_of_run zeroOnly twoFriends scrollWhilePlaying 2 (.scrollFriends 5 1) 1 Nat.one_pos rfl
    rfl

theorem published_of_run_scrollWhilePlaying :
    ∃ row, (runFrom (Traffic.step zeroOnly) { world := twoFriends, running := [] }
        scrollWhilePlaying).world.log.rows.head? = some row ∧
      (row ∈ twoFriends.log.rows ∨ ∃ event, .publish event ∈ Tasks.begun scrollWhilePlaying ∧
        row.deserialize zeroOnly = some (event.event row.id)) := by
  refine ⟨_, rfl, published_of_run zeroOnly zeroOnly_readsBack twoFriends scrollWhilePlaying ?_ _
    (List.mem_of_mem_head? rfl)⟩
  intro event _
  cases event <;> trivial

end Runs

end BanchoPrism.Feed
