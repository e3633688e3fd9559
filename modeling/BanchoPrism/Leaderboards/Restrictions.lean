import BanchoPrism.Leaderboards.Live

namespace BanchoPrism.Leaderboards

open Library Line

-- The lines that redis serves, and those that the database does.
def Line.onRedis : Line → Redis → Redis
  | zadd board id pp => SortedSets.zadd (.live board) [(id, pp)]
  | zrem board id => SortedSets.zrem (.live board) id
  | unrankCountry mode country id => SortedSets.zrem (.live (countryBoard mode country)) id
  | _ => id

def Line.onAccounts : Line → Accounts → Accounts
  | writePriv id priv => fun s => s.modify id fun a => { a with priv := priv }
  | writeCountry id country => fun s => s.modify id fun a => { a with country := country }
  | writePp id mode pp => fun s =>
      if mode ∈ statModes then s.modify id fun a => { a with pp := Function.update a.pp mode pp }
      else s
  | _ => id

section Servers

variable (s : Server) (p : Ref)

@[simp] theorem modifyPlayer_stores (f : Player → Player) :
    (s.modifyPlayer p f).stores = s.stores := rfl

@[simp] theorem logout_stores : (s.logout p).stores = s.stores := by
  unfold Server.logout
  simp only [apply_ite Server.stores]
  simp

@[simp] theorem make_stores (id : Nat) (player : Player) :
    (s.make id player).2.stores = s.stores := rfl

@[simp] theorem restrict_stores : (restrict s p).1.stores = s.stores := rfl

@[simp] theorem unrestrict_stores : (unrestrict s p).1.stores = s.stores := rfl

@[simp] theorem moderate_stores (moderation : Moderation) :
    (moderate s p moderation).1.stores = s.stores := by
  cases moderation <;> simp only [moderate] <;> split <;> simp

theorem op_stores (op : Op) : (op.perform s).1.stores = s.stores := by
  cases op <;> simp only [Op.perform] <;> (try split) <;> (try split) <;> simp

end Servers

-- A line leaves the stores as redis or the database serves it, and alone otherwise.
theorem perform_stores (line : Line) (s : Server) :
    (line.perform s).1.stores =
      { redis := line.onRedis s.stores.redis, accounts := line.onAccounts s.stores.accounts } := by
  cases line with
  | op o => exact op_stores s o
  | updateRank p mode =>
    simp only [Line.perform]
    split
    · rfl
    · split <;> rfl
  | gotPlayer id priv country moderation => exact moderate_stores _ _ moderation
  | refresh p =>
    simp only [Line.perform]
    split
    · exact logout_stores s p
    · rfl
  | writePp id mode pp =>
    simp only [Line.perform, onAccounts]
    split <;> rfl
  | _ =>
    simp only [Line.perform]
    first | rfl | (split <;> rfl)

theorem perform_redis (line : Line) (s : Server) :
    (line.perform s).1.stores.redis = line.onRedis s.stores.redis := by
  rw [perform_stores]

theorem perform_accounts (line : Line) (s : Server) :
    (line.perform s).1.stores.accounts = line.onAccounts s.stores.accounts := by
  rw [perform_stores]

section Owing

-- The user of the id has an entry on the board.
def Stores.Holds (s : Stores) (board : Board) (id : Nat) : Prop :=
  s.redis.scores (.live board) id ≠ none

instance (s : Stores) (board : Board) (id : Nat) : Decidable (s.Holds board id) :=
  inferInstanceAs (Decidable (_ ≠ _))

def Stores.Restricted (s : Stores) (id : Nat) : Prop :=
  ∃ a ∈ s.accounts.rows, a.id = id ∧ a.restricted

instance (s : Stores) (id : Nat) : Decidable (s.Restricted id) :=
  inferInstanceAs (Decidable (∃ a ∈ _, _ ∧ _))

-- The lines that take a user off a board. A restriction's country line counts for the
-- boards of every country: that it names the right one is asked of it when it is served.
def Line.clears (id : Nat) (board : Board) : Line → Bool
  | zrem b i => i = id && b = board
  | unrankHome p mode => p.id = id && board.mode = mode && board.country.isSome
  | unrankCountry mode _ i => i = id && board.mode = mode && board.country.isSome
  | _ => false

-- While a user is restricted, nothing puts them on a board that is not yet to be taken
-- off it again, and no country board that they are on is passed over.
def Line.Heeds (line : Line) (s : Server) (others : List (List Line)) : Prop :=
  match line with
  | zadd board id _ => s.stores.Restricted id → Tasks.Owed (clears id board) others
  | unrankCountry mode country id =>
      s.stores.Restricted id → ∀ other, other ≠ country →
        s.stores.Holds (countryBoard mode other) id →
        Tasks.Owed (clears id (countryBoard mode other)) others
  | _ => True

-- A task that writes a restriction goes on to take the user off every board.
def Line.Plans (rest : List Line) : Line → Prop
  | writePriv id priv => priv.has Privileges.UNRESTRICTED = false →
      ∀ board : Board, board.mode ∈ restrictedModes → ∃ line ∈ rest, line.clears id board
  | zadd board _ _ => board.mode ∈ restrictedModes
  | _ => True

def Planned : List Line → Prop
  | [] => True
  | line :: rest => line.Plans rest ∧ Planned rest

theorem Line.Plans.append {line : Line} {rest : List Line} (h : line.Plans rest)
    (more : List Line) : line.Plans (rest ++ more) := by
  cases line with
  | writePriv id priv =>
    intro hpriv board hmode
    obtain ⟨other, hother, hclears⟩ := h hpriv board hmode
    exact ⟨other, List.mem_append_left more hother, hclears⟩
  | _ => exact h

theorem Planned.append {xs ys : List Line} (hx : Planned xs) (hy : Planned ys) :
    Planned (xs ++ ys) := by
  induction xs with
  | nil => exact hy
  | cons line rest ih => exact ⟨hx.1.append ys, ih hx.2⟩

theorem planned_of_forall {lines : List Line} (h : ∀ line ∈ lines, ∀ rest, line.Plans rest) :
    Planned lines := by
  induction lines with
  | nil => trivial
  | cons line rest ih =>
    exact ⟨h line List.mem_cons_self rest, ih fun l hl => h l (List.mem_cons_of_mem line hl)⟩

end Owing

section Performing

variable {s : Server} {p : Ref}

-- The modes of a player's stats are those that the rows are made for.
def Server.StatsKnown (s : Server) : Prop :=
  ∀ p, ∀ entry ∈ (s.players p).stats, entry.1 ∈ restrictedModes

theorem restrict_planned : Planned (restrict s p).2 := by
  refine @Planned.append (_ :: _) _ ⟨fun _ board hmode => ?_, ?_⟩ ⟨trivial, trivial⟩
  · cases hc : board.country with
    | none =>
      refine ⟨zrem (globalBoard board.mode) p.id, ?_, ?_⟩
      · exact List.mem_flatMap.mpr ⟨board.mode, hmode, List.mem_cons_self⟩
      · simp [clears, globalBoard, ← hc]
    | some country =>
      refine ⟨unrankHome p board.mode, ?_, ?_⟩
      · exact List.mem_flatMap.mpr ⟨board.mode, hmode, List.mem_cons_of_mem _ List.mem_cons_self⟩
      · simp [clears, hc]
  · refine planned_of_forall fun line hline rest => ?_
    obtain ⟨mode, -, hmem⟩ := List.mem_flatMap.mp hline
    simp only [List.mem_cons, List.not_mem_nil, or_false] at hmem
    rcases hmem with rfl | rfl <;> trivial

theorem has_or_unrestricted (priv : Privileges) :
    (priv ||| Privileges.UNRESTRICTED).has Privileges.UNRESTRICTED = true := by
  have hbit : ((priv ||| 1) &&& 1).testBit 0 = true := by simp
  have hne : (priv ||| 1) &&& 1 ≠ 0 := by
    intro hzero
    rw [hzero] at hbit
    simp at hbit
  exact bne_iff_ne.mpr hne

theorem unrestrict_planned : Planned (unrestrict s p).2 := by
  refine ⟨fun hpriv => ?_, trivial, trivial, trivial⟩
  rw [has_or_unrestricted] at hpriv
  cases hpriv

theorem moderate_planned (moderation : Moderation) : Planned (moderate s p moderation).2 := by
  cases moderation <;> simp only [moderate] <;> split
  · exact trivial
  · exact restrict_planned
  · exact unrestrict_planned
  · exact trivial

theorem Server.StatsKnown.lookup (hs : s.StatsKnown) {mode pp : Nat}
    (h : (s.players p).stats.lookup mode = some pp) : mode ∈ restrictedModes :=
  hs p (mode, pp) (List.lookup_eq_some_iff.mp h |> fun ⟨l₁, l₂, hl, _⟩ => by simp [hl])

theorem op_planned (op : Op) : Planned (op.perform s).2 := by
  cases op with
  | restrict p => exact restrict_planned
  | moderate id moderation =>
    simp only [Op.perform]
    split
    · exact moderate_planned moderation
    · exact ⟨trivial, trivial⟩
  | updateProfile id country =>
    simp only [Op.perform]
    split
    · trivial
    · refine ⟨trivial, trivial, ?_⟩
      split <;> simp [Planned, Plans]
  | _ =>
    simp only [Op.perform]
    (try split) <;> (try split) <;> simp [Planned, Plans]

theorem perform_planned (line : Line) (hs : s.StatsKnown) : Planned (line.perform s).2 := by
  cases line with
  | op o => exact op_planned o
  | updateRank p mode =>
    simp only [Line.perform]
    split
    · trivial
    · rename_i pp hpp
      split
      · trivial
      · exact ⟨hs.lookup hpp, trivial, trivial⟩
  | rank p mode country =>
    simp only [Line.perform]
    split
    · trivial
    · rename_i pp hpp
      exact ⟨hs.lookup hpp, trivial⟩
  | rankHome p mode =>
    simp only [Line.perform]
    split
    · trivial
    · rename_i pp hpp
      exact ⟨hs.lookup hpp, trivial⟩
  | gotPlayer id priv country moderation => exact moderate_planned moderation
  | rankEach p =>
    refine planned_of_forall fun line hline rest => ?_
    obtain ⟨entry, -, hmem⟩ := List.mem_flatMap.mp hline
    simp only [List.mem_cons, List.not_mem_nil, or_false] at hmem
    rcases hmem with rfl | rfl <;> trivial
  | moveCountries id priv old new =>
    simp only [Line.perform]
    split
    · trivial
    · rename_i a _
      refine planned_of_forall fun line hline rest => ?_
      obtain ⟨entry, hentry, hmem⟩ := List.mem_flatMap.mp hline
      obtain ⟨mode, hmode, rfl⟩ := List.mem_map.mp hentry
      rcases List.mem_cons.mp hmem with rfl | hmem
      · trivial
      · split at hmem
        · obtain rfl := List.mem_singleton.mp hmem
          exact hmode
        · cases hmem
  | readUser id country =>
    simp only [Line.perform]
    split
    · trivial
    · split <;> simp [Planned, Plans]
  | _ =>
    simp only [Line.perform]
    (try split) <;> simp [Planned, Plans]

theorem Server.StatsKnown.modifyPlayer (hs : s.StatsKnown) {f : Player → Player}
    (hf : ∀ entry ∈ (f (s.players p)).stats, entry.1 ∈ restrictedModes) :
    (s.modifyPlayer p f).StatsKnown := by
  intro q entry hentry
  by_cases hq : q = p
  · subst hq
    simp only [Server.modifyPlayer, Function.update_self] at hentry
    exact hf entry hentry
  · simp only [Server.modifyPlayer, Function.update_of_ne hq] at hentry
    exact hs q entry hentry

theorem Server.StatsKnown.setPriv (hs : s.StatsKnown) (priv : Privileges) :
    (s.modifyPlayer p fun player => { player with priv := priv }).StatsKnown := by
  refine hs.modifyPlayer ?_
  exact hs p

theorem Server.StatsKnown.logout (hs : s.StatsKnown) : (s.logout p).StatsKnown := by
  have h := hs.modifyPlayer (p := p) (f := fun player => { player with isOnline := false }) (hs p)
  unfold Server.logout
  dsimp only
  split <;> exact h

theorem Server.StatsKnown.make (hs : s.StatsKnown) (id : Nat) {player : Player}
    (hplayer : player.stats = []) : (s.make id player).2.StatsKnown := by
  intro q entry hentry
  simp only [Server.make] at hentry
  by_cases hq : q = { id := id, number := s.made }
  · rw [hq, Function.update_self, hplayer] at hentry
    cases hentry
  · rw [Function.update_of_ne hq] at hentry
    exact hs q entry hentry

theorem Server.StatsKnown.moderate (hs : s.StatsKnown) (moderation : Moderation) :
    (moderate s p moderation).1.StatsKnown := by
  cases moderation <;> simp only [Leaderboards.moderate] <;> split
  · exact hs
  · exact hs.setPriv _
  · exact hs.setPriv _
  · exact hs

theorem Server.StatsKnown.op (hs : s.StatsKnown) (op : Op) : (op.perform s).1.StatsKnown := by
  cases op with
  | login id country tourney =>
    simp only [Op.perform]
    split
    · split
      · exact hs
      · exact hs.logout
    · exact hs
  | logout p => exact hs.logout
  | submit p mode pp =>
    simp only [Op.perform]
    split
    · exact hs
    · rename_i old hold
      dsimp only
      refine hs.modifyPlayer fun entry hentry => ?_
      obtain ⟨e, he, rfl⟩ := List.mem_map.mp hentry
      split
      · exact hs.lookup hold
      · exact hs p e he
  | restrict p => exact hs.setPriv _
  | moderate id moderation =>
    simp only [Op.perform]
    split
    · exact hs.moderate moderation
    · exact hs
  | updateProfile id country =>
    simp only [Op.perform]
    split <;> exact hs

theorem Server.StatsKnown.perform (hs : s.StatsKnown) (line : Line) :
    (line.perform s).1.StatsKnown := by
  cases line with
  | op o => exact hs.op o
  | createPlayer id priv country => exact hs.make id rfl
  | gotPlayer id priv country moderation => exact (hs.make id rfl).moderate moderation
  | statsFromSql p =>
    simp only [Line.perform]
    split
    · exact hs
    · dsimp only
      refine hs.modifyPlayer fun entry hentry => ?_
      obtain ⟨mode, hmode, rfl⟩ := List.mem_map.mp hentry
      exact hmode
  | relocate id country =>
    simp only [Line.perform]
    split
    · exact hs
    · rename_i p _
      dsimp only
      refine hs.modifyPlayer ?_
      exact hs p
  | refresh p =>
    simp only [Line.perform]
    split
    · exact hs.logout
    · exact hs
  | updateRank p mode =>
    simp only [Line.perform]
    split
    · exact hs
    · split <;> exact hs
  | _ =>
    simp only [Line.perform]
    first | exact hs | (split <;> exact hs)

end Performing

section Serving

variable {s : Server} {line : Line} {board : Board} {id : Nat}

theorem holds_perform (h : (line.perform s).1.stores.Holds board id) :
    s.stores.Holds board id ∨ ∃ pp, line = zadd board id pp := by
  unfold Stores.Holds at h
  rw [perform_redis] at h
  cases line with
  | zadd b i pp =>
    rw [onRedis, SortedSets.scores_zadd_one] at h
    by_cases hsame : Key.live board = Key.live b ∧ id = i
    · obtain ⟨hb, rfl⟩ := hsame
      cases hb
      exact Or.inr ⟨pp, rfl⟩
    · rw [if_neg hsame] at h
      exact Or.inl h
  | zrem b i =>
    rw [onRedis, SortedSets.scores_zrem] at h
    split at h
    · exact absurd rfl h
    · exact Or.inl h
  | unrankCountry mode country i =>
    rw [onRedis, SortedSets.scores_zrem] at h
    split at h
    · exact absurd rfl h
    · exact Or.inl h
  | _ => exact Or.inl h

theorem restricted_perform (h : (line.perform s).1.stores.Restricted id) :
    s.stores.Restricted id ∨ ∃ priv, line = writePriv id priv ∧
      priv.has Privileges.UNRESTRICTED = false := by
  obtain ⟨a, ha, hid, hres⟩ := h
  rw [perform_accounts] at ha
  cases line with
  | writePriv i priv =>
    obtain ⟨b, hb, rfl⟩ := List.mem_map.mp ha
    rw [Accounts.partialUpdate_id] at hid
    unfold Accounts.partialUpdate at hres
    split at hres
    · rename_i hi
      refine Or.inr ⟨priv, ?_, by simpa [Account.restricted] using hres⟩
      rw [← hid, hi]
    · exact Or.inl ⟨b, hb, hid, hres⟩
  | writeCountry i country =>
    obtain ⟨b, hb, rfl⟩ := List.mem_map.mp ha
    rw [Accounts.partialUpdate_id] at hid
    refine Or.inl ⟨b, hb, hid, ?_⟩
    unfold Accounts.partialUpdate at hres
    split at hres <;> exact hres
  | writePp i mode pp =>
    simp only [onAccounts] at ha
    split at ha
    · obtain ⟨b, hb, rfl⟩ := List.mem_map.mp ha
      rw [Accounts.partialUpdate_id] at hid
      refine Or.inl ⟨b, hb, hid, ?_⟩
      unfold Accounts.partialUpdate at hres
      split at hres <;> exact hres
    · exact Or.inl ⟨a, ha, hid, hres⟩
  | _ => exact Or.inl ⟨a, ha, hid, hres⟩

-- A line that clears a board has taken the user off it, or goes on to, or has passed over
-- the board of another country.
theorem clears_perform (h : line.clears id board) :
    (line.perform s).1.stores.Holds board id → (∃ other ∈ (line.perform s).2,
      other.clears id board) ∨ ∃ country, line = unrankCountry board.mode country id ∧
        ∃ other, other ≠ country ∧ board = countryBoard board.mode other := by
  intro hholds
  cases line with
  | zrem b i =>
    obtain ⟨rfl, rfl⟩ : i = id ∧ b = board := by simpa [clears] using h
    unfold Stores.Holds at hholds
    rw [perform_redis, onRedis, SortedSets.scores_zrem, if_pos ⟨rfl, rfl⟩] at hholds
    exact absurd rfl hholds
  | unrankHome p mode =>
    refine Or.inl ⟨_, List.mem_cons_self, ?_⟩
    simpa [clears, and_assoc] using h
  | unrankCountry mode country i =>
    obtain ⟨⟨rfl, hmode⟩, hsome⟩ : (i = id ∧ board.mode = mode) ∧ board.country.isSome := by
      simpa [clears] using h
    obtain ⟨other, hother⟩ := Option.isSome_iff_exists.mp hsome
    have hboard : board = countryBoard board.mode other := by
      obtain ⟨m, c⟩ := board
      simp only at hother
      rw [hother]
      rfl
    refine Or.inr ⟨country, by rw [hmode], other, ?_, hboard⟩
    rintro rfl
    unfold Stores.Holds at hholds
    rw [perform_redis, onRedis, SortedSets.scores_zrem, ← hmode, ← hboard,
      if_pos ⟨rfl, rfl⟩] at hholds
    exact absurd rfl hholds
  | _ => cases h

end Serving

section Invariant

-- A restricted user is on no board, of any mode and of any country.
def Stores.Unlisted (s : Stores) : Prop := ∀ id, s.Restricted id → ∀ board, ¬s.Holds board id

-- What the server is started with: nobody is online, and the boards hold unrestricted
-- users only, in modes that there are stats for.
structure Traffic.Starts (t : Traffic) : Prop where
  idle : Tasks.Idle t.running
  unlisted : t.world.stores.Unlisted
  modes : ∀ board id, t.world.stores.Holds board id → board.mode ∈ restrictedModes
  players : ∀ p, (t.world.players p).stats = []

def Traffic.Heeds (t : Traffic) (e : Event) : Prop :=
  Tasks.Meets (fun line s others => line.Heeds s others) t e

structure Covered (t : Traffic) : Prop where
  owed : ∀ id board, t.world.stores.Restricted id → t.world.stores.Holds board id →
    Tasks.Owed (clears id board) t.running
  modes : ∀ board id, t.world.stores.Holds board id → board.mode ∈ restrictedModes
  planned : ∀ task ∈ t.running, Planned task
  stats : t.world.StatsKnown

theorem Traffic.Starts.covered {t : Traffic} (h : t.Starts) : Covered t where
  owed id board hres hholds := absurd hholds (h.unlisted id hres board)
  modes := h.modes
  planned task htask := by
    rw [h.idle task htask]
    trivial
  stats p entry hentry := by
    rw [h.players p] at hentry
    cases hentry

theorem Covered.unlisted {t : Traffic} (h : Covered t) (hidle : Tasks.Idle t.running) :
    t.world.stores.Unlisted :=
  fun id hres board hholds => hidle.not_owed (h.owed id board hres hholds)

end Invariant

section Steps

variable {t : Traffic} {i : Nat} {line : Line} {rest : List Line} {id : Nat} {board : Board}

-- What was owed before a line is still owed after it, unless the line has paid it.
theorem owed_perform (hnext : Tasks.next t.running i = some (line, rest))
    (hheeds : line.Heeds t.world (t.running.set i rest))
    (hres : t.world.stores.Restricted id) (hheld : t.world.stores.Holds board id)
    (howed : Tasks.Owed (clears id board) t.running)
    (hholds : (line.perform t.world).1.stores.Holds board id) :
    Tasks.Owed (clears id board) (t.running.set i ((line.perform t.world).2 ++ rest)) := by
  rcases howed.of_next hnext with hclears | hothers
  · rcases clears_perform hclears hholds with ⟨other, hmem, hother⟩ | ⟨country, rfl, other, hne, hboard⟩
    · exact Tasks.Owed.of_lines hnext (List.mem_append_left rest hmem) hother
    · have hother := hheeds hres other hne
      rw [← hboard] at hother
      exact (hother hheld).extend _
  · exact hothers.extend _

theorem Covered.resume (h : Covered t) (hnext : Tasks.next t.running i = some (line, rest))
    (hheeds : line.Heeds t.world (t.running.set i rest)) :
    Covered
      { world := (line.perform t.world).1
        running := t.running.set i ((line.perform t.world).2 ++ rest) } := by
  have htask := h.planned _ (Tasks.mem_of_next hnext)
  refine ⟨fun id board hres hholds => ?_, fun board id hholds => ?_, fun task hmem => ?_,
    h.stats.perform line⟩
  · rcases holds_perform hholds with hheld | ⟨pp, rfl⟩
    · rcases restricted_perform hres with hwas | ⟨priv, rfl, hpriv⟩
      · exact owed_perform hnext hheeds hwas hheld (h.owed id board hwas hheld) hholds
      · obtain ⟨other, hother, hclears⟩ := htask.1 hpriv board (h.modes board id hheld)
        exact Tasks.Owed.of_lines hnext (List.mem_append_right _ hother) hclears
    · rcases restricted_perform hres with hwas | ⟨priv, hline, -⟩
      · exact (hheeds hwas).extend _
      · cases hline
  · rcases holds_perform hholds with hheld | ⟨pp, rfl⟩
    · exact h.modes board id hheld
    · exact htask.1
  · rcases List.mem_or_eq_of_mem_set hmem with hold | rfl
    · exact h.planned task hold
    · exact (perform_planned line h.stats).append htask.2

theorem Covered.step (h : Covered t) (e : Event) (hheeds : t.Heeds e) : Covered (t.step e) := by
  refine Tasks.step_keeps h (fun op => ?_) (fun i line rest => h.resume) e hheeds
  refine ⟨fun id board hres hholds => (h.owed id board hres hholds).append _, h.modes,
    fun task hmem => ?_, h.stats⟩
  rcases List.mem_append.mp hmem with hold | hnew
  · exact h.planned task hold
  · rw [List.mem_singleton.mp hnew]
    exact ⟨trivial, trivial⟩

end Steps

section Home

-- The case of a server whose users are all of one country: only the lines that add
-- entries are then to be watched.
def Line.StaysHome (country : String) (line : Line) (s : Server) (others : List (List Line)) :
    Prop :=
  match line with
  | zadd board id _ =>
      (∀ other ∈ board.country, other = country) ∧
        (s.stores.Restricted id → Tasks.Owed (clears id board) others)
  | unrankCountry _ other _ => other = country
  | _ => True

instance (country : String) (line : Line) (s : Server) (others : List (List Line)) :
    Decidable (line.StaysHome country s others) := by
  unfold Line.StaysHome
  split <;> infer_instance

def Traffic.StaysHome (country : String) (t : Traffic) (e : Event) : Prop :=
  Tasks.Meets (fun line s others => line.StaysHome country s others) t e

instance (country : String) (t : Traffic) (e : Event) : Decidable (t.StaysHome country e) :=
  inferInstanceAs (Decidable (Tasks.Meets _ t e))

def Traffic.AtHome (country : String) (t : Traffic) : Prop :=
  ∀ board id, t.world.stores.Holds board id → ∀ other ∈ board.country, other = country

variable {t : Traffic} {country : String}

theorem AtHome.step (h : t.AtHome country) {e : Event} (he : t.StaysHome country e) :
    (t.step e).AtHome country := by
  refine Tasks.step_keeps h (fun _ => h) (fun i line rest hnext hline => ?_) e he
  intro board id hholds
  rcases holds_perform hholds with hheld | ⟨pp, rfl⟩
  · exact h board id hheld
  · exact hline.1

theorem StaysHome.heeds (h : t.AtHome country) {e : Event}
    (he : t.StaysHome country e) : t.Heeds e := by
  cases e with
  | begin op => trivial
  | resume i =>
    intro line rest hnext
    have hline := he line rest hnext
    cases line with
    | zadd board id pp => exact hline.2
    | unrankCountry mode other id =>
      intro _ c hc hholds
      have hhome : c = country := h _ id hholds c rfl
      exact absurd (hhome.trans (Eq.symm hline)) hc
    | _ => trivial

theorem heeds_of_staysHome {run : List Event} (h : t.AtHome country)
    (hg : Guarded Traffic.step (Traffic.StaysHome country) t run) :
    Guarded Traffic.step Traffic.Heeds t run := by
  induction run generalizing t with
  | nil => trivial
  | cons e rest ih => exact ⟨StaysHome.heeds h hg.1, ih (AtHome.step h hg.1) hg.2⟩

end Home

section Runs

-- In a run that heeds the boards a restricted user is on, no restricted user is on any
-- whenever no operation is half done.
theorem unlisted_of_heeds {t : Traffic} {run : List Event} (ht : t.Starts)
    (hg : Guarded Traffic.step Traffic.Heeds t run)
    (hidle : Tasks.Idle (runFrom Traffic.step t run).running) :
    (runFrom Traffic.step t run).world.stores.Unlisted :=
  (hg.invariant Covered (fun _ e h hheeds => h.step e hheeds) ht.covered).unlisted hidle

-- A user of the country us, registered, and a server that has just been started.
def registered : Account := { id := 5, priv := 3, country := "us", pp := fun _ => 0 }

def started : Traffic where
  world :=
    { stores :=
        { redis := fun _ => ∅
          accounts := { rows := [registered], sorted := by decide, positive := by decide } }
      players := fun _ => { priv := 0, country := "xx", stats := [], isOnline := false }
      made := 0
      byId := fun _ => none }
  running := []

theorem started_holds (board : Board) (id : Nat) : ¬started.world.stores.Holds board id :=
  fun h => h rfl

theorem started_starts : started.Starts where
  idle _ htask := absurd htask List.not_mem_nil
  unlisted id _ board := started_holds board id
  modes board id h := absurd h (started_holds board id)
  players _ := rfl

-- They log in from a country, submit a score, log out, and are restricted.
def oneScore (country : String) : List Event :=
  List.flatten
    [[.begin (.login 5 country false), .begin (.submit { id := 5, number := 0 } 0 300),
      .begin (.logout { id := 5, number := 0 }), .begin (.moderate 5 .restrict)],
    List.replicate 5 (.resume 0), List.replicate 6 (.resume 1), [.resume 2],
    List.replicate 29 (.resume 3)]

theorem unlisted_of_heeds_oneScore :
    (runFrom Traffic.step started (oneScore "us")).world.stores.Unlisted ∧
      (runFrom Traffic.step started (oneScore "us")).world.stores.Restricted 5 := by
  have hhome : started.AtHome "us" := fun board id h =>
    absurd h (started_holds board id)
  have hguarded : Guarded Traffic.step (Traffic.StaysHome "us") started (oneScore "us") := by
    decide
  exact ⟨unlisted_of_heeds started_starts (heeds_of_staysHome hhome hguarded) (by decide),
    by decide⟩

-- Their country is us, but they play from de.
theorem not_unlisted_playedAbroad :
    ¬∀ (t : Traffic) (run : List Event), t.Starts →
      Tasks.Idle (runFrom Traffic.step t run).running →
        (runFrom Traffic.step t run).world.stores.Unlisted := by
  intro h
  refine h started (oneScore "de") started_starts (by decide +kernel) 5 (by decide +kernel)
    (countryBoard 0 "de") ?_
  decide +kernel

end Runs

end BanchoPrism.Leaderboards
