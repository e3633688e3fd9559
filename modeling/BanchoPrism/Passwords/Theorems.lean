import BanchoPrism.Passwords.Serving

namespace BanchoPrism.Passwords

open Library Line

section Running

variable {t : Traffic} {i : Nat} {line : Line} {rest : List Line}

-- The state after a line is run.
def Traffic.after (t : Traffic) (i : Nat) (line : Line) (rest : List Line) : Traffic :=
  { world := (line.perform t.world).1
    running := t.running.set i ((line.perform t.world).2 ++ rest) }

theorem mem_next (hnext : Tasks.next t.running i = some (line, rest)) {hash : Hash} :
    hash ∈ Tasks.gather unwritten t.running ↔
      line.unwritten = some hash ∨ hash ∈ Tasks.gather unwritten (t.running.set i rest) := by
  rw [(Tasks.gather_next unwritten hnext).mem_iff, List.mem_append, Option.mem_toList]

theorem mem_after (hnext : Tasks.next t.running i = some (line, rest)) {hash : Hash} :
    hash ∈ Tasks.gather unwritten (t.after i line rest).running ↔
      hash ∈ (line.perform t.world).2.filterMap unwritten ∨
        hash ∈ Tasks.gather unwritten (t.running.set i rest) := by
  rw [Traffic.after, (Tasks.gather_extend unwritten (Tasks.lt_of_next hnext) _).mem_iff,
    List.mem_append]

-- A new hash is one that was carried before, or has a salt that nothing has.
theorem unwritten_after (hnext : Tasks.next t.running i = some (line, rest)) {hash : Hash}
    (hmem : hash ∈ Tasks.gather unwritten (t.after i line rest).running) :
    hash ∈ Tasks.gather unwritten t.running ∨ hash.salt = t.world.salts := by
  rw [mem_next hnext]
  rcases (mem_after hnext).mp hmem with hnew | hold
  · rcases perform_unwritten line t.world with ⟨-, hsub⟩ | ⟨-, -, md5, hone⟩
    · exact Or.inl (Or.inl (by simpa using hsub.subset hnew))
    · rw [hone, List.mem_singleton] at hnew
      rw [hnew]
      exact Or.inr rfl
  · exact Or.inl (Or.inr hold)

theorem salts_le (line : Line) (s : Server) : s.salts ≤ (line.perform s).1.salts := by
  rcases perform_unwritten line s with ⟨h, -⟩ | ⟨h, -, -⟩ <;> omega

theorem Retired.after {old : Hash} (h : Retired t.world t.running old)
    (hnext : Tasks.next t.running i = some (line, rest)) :
    Retired (t.after i line rest).world (t.after i line rest).running old := by
  refine ⟨Nat.lt_of_lt_of_le h.salt (salts_le line t.world), fun hmem => ?_⟩
  have hsalt := h.salt
  rcases unwritten_after hnext hmem with hold | hnew
  · exact h.unwritten hold
  · omega

-- Nothing but a line of its own account's change writes a hash.
theorem users_after (t : Traffic) (i : Nat) (line : Line) (rest : List Line) (name : String) :
    (t.after i line rest).world.users name = t.world.users name ∨
      ∃ old new, line = write name old new ∧
      (t.after i line rest).world.users name = some new := by
  have hline := perform_users line t.world
  change (line.perform t.world).1.users name = _ ∨ ∃ old new, _ ∧ (line.perform t.world).1.users name = _
  rw [hline]
  cases line with
  | write n old new =>
    by_cases hn : name = n
    · subst hn
      exact Or.inr ⟨old, new, rfl, Function.update_self _ _ _⟩
    · exact Or.inl (Function.update_of_ne hn _ _)
  | _ => exact Or.inl rfl

theorem Sound.fits (h : Sound t) (hnext : Tasks.next t.running i = some (line, rest)) :
    line.Fits t.world t.running :=
  h.lines _ (Tasks.mem_of_next hnext) line List.mem_cons_self

-- A hash that is stored stays so, until another one is written, which is stored too.
theorem Stored.after {name : String} (h : Stored t.world t.running name) (hs : Sound t)
    (hnext : Tasks.next t.running i = some (line, rest)) :
    Stored (t.after i line rest).world (t.after i line rest).running name := by
  intro hash hget
  rcases users_after t i line rest name with hsame | ⟨old, new, rfl, hnew⟩
  · rw [hsame] at hget
    rcases h hash hget with hcached | howed
    · refine Or.inl (perform_kept hcached fun new hline => ?_)
      subst hline
      exact (hs.fits hnext).2 name hget
    · rcases howed.of_next hnext with hcaches | hothers
      · cases line with
        | evict old new =>
          obtain rfl : new = hash := of_decide_eq_true hcaches
          exact Or.inl ⟨new.md5, Function.update_self _ _ _⟩
        | _ => cases hcaches
      · exact Or.inr (hothers.extend _)
  · rw [hnew] at hget
    cases hget
    exact Or.inr (Tasks.Owed.of_lines hnext (List.mem_append_left rest List.mem_cons_self)
      (decide_eq_true rfl))

theorem Line.Fits.after {other : Line} (h : other.Fits t.world t.running) (hs : Sound t)
    (hnext : Tasks.next t.running i = some (line, rest))
    (hheeds : line.Heeds t.world (t.running.set i rest))
    (hmem : ∃ task ∈ t.running.set i rest, other ∈ task) :
    other.Fits (t.after i line rest).world (t.after i line rest).running := by
  obtain ⟨task, htask, hother⟩ := hmem
  -- what a line that is still to be run has read is not written over
  have huser : ∀ name hash, other.enters name → t.world.users name = some hash →
      (t.after i line rest).world.users name = some hash := by
    intro name hash henters hget
    rcases users_after t i line rest name with hsame | ⟨old, new, rfl, -⟩
    · rw [hsame]
      exact hget
    · exact absurd ⟨task, htask, other, hother, henters⟩ hheeds.2
  have hretired : ∀ old, Retired t.world t.running old → ∀ name,
      (t.after i line rest).world.users name = some old → t.world.users name = some old := by
    intro old hold name hget
    rcases users_after t i line rest name with hsame | ⟨o, new, rfl, hnew⟩
    · rw [hsame] at hget
      exact hget
    · rw [hnew] at hget
      cases hget
      exact absurd ((mem_next hnext).mpr (Or.inl rfl)) hold.unwritten
  cases other with
  | verify name md5 hash caller =>
    rcases h with hget | hstored
    · rcases users_after t i line rest name with hsame | ⟨old, new, rfl, hnew⟩
      · exact Or.inl (hsame.trans hget)
      · refine Or.inr fun hash' hget' => ?_
        rw [hnew] at hget'
        cases hget'
        exact Or.inr (Tasks.Owed.of_lines hnext (List.mem_append_left rest List.mem_cons_self)
          (decide_eq_true rfl))
    · exact Or.inr (hstored.after hs hnext)
  | readPassword name => exact Stored.after h hs hnext
  | createPlayer name hash =>
    exact ⟨huser name hash (decide_eq_true rfl) h.1, h.2.after hs hnext⟩
  | append player =>
    exact ⟨huser player.name player.pwBcrypt (decide_eq_true rfl) h.1, h.2.after hs hnext⟩
  | write name old new =>
    exact ⟨h.1.after hnext, fun n hget => h.2 n (hretired old h.1 n hget)⟩
  | evict old new =>
    exact ⟨h.1.after hnext, fun n hget => h.2 n (hretired old h.1 n hget)⟩
  | _ => trivial

-- The lines that a line turns into fit the state that it leaves.
theorem fits_perform (hs : Sound t) (hnext : Tasks.next t.running i = some (line, rest)) :
    ∀ other ∈ (line.perform t.world).2,
      other.Fits (t.after i line rest).world (t.after i line rest).running := by
  have hfits := hs.fits hnext
  have husers := perform_users line t.world
  intro other hother
  cases line with
  | op o =>
    have hfetch : ∃ name md5 caller, other = fetchHash name md5 caller := by
      cases o with
      | login name md5 tourney =>
        simp only [Line.perform, Op.perform] at hother
        split at hother
        · split at hother <;> exact ⟨_, _, _, List.mem_singleton.mp hother⟩
        · exact ⟨_, _, _, List.mem_singleton.mp hother⟩
      | logout player => cases hother
      | request name md5 => cases hother
      | changePassword name current new => exact ⟨_, _, _, List.mem_singleton.mp hother⟩
      | authenticate name md5 => exact ⟨_, _, _, List.mem_singleton.mp hother⟩
    obtain ⟨name, md5, caller, rfl⟩ := hfetch
    trivial
  | fetchHash name md5 caller =>
    simp only [Line.perform] at hother
    split at hother
    · cases hother
    · rename_i hash hget
      obtain rfl := List.mem_singleton.mp hother
      exact Or.inl ((congrFun husers name).trans hget)
  | verify name md5 hash caller =>
    simp only [Line.perform] at hother
    split at hother
    · cases hother
    · rename_i u hu
      cases caller with
      | login =>
        obtain rfl := List.mem_singleton.mp hother
        rcases hfits with hget | hstored
        · intro hash' hget'
          rw [show (t.after i _ rest).world.users name = t.world.users name from
            congrFun husers name, hget] at hget'
          cases hget'
          have hworld : (t.after i (verify name md5 hash .login) rest).world = u := by
            simp only [Traffic.after, Line.perform, hu, Caller.proceed]
          rw [hworld]
          exact Or.inl (verify_verified hu).cached
        · exact hstored.after hs hnext
      | changePassword new =>
        obtain rfl := List.mem_singleton.mp hother
        trivial
      | api => cases hother
  | readPassword name =>
    have hstored : Stored t.world t.running name := hfits
    simp only [Line.perform] at hother
    split at hother
    · cases hother
    · rename_i hash hget
      obtain rfl := List.mem_singleton.mp hother
      exact ⟨(congrFun husers name).trans hget, hstored.after hs hnext⟩
  | createPlayer name hash =>
    obtain rfl := List.mem_singleton.mp hother
    exact ⟨hfits.1, hfits.2.after hs hnext⟩
  | append player =>
    simp only [Line.perform] at hother
    split at hother <;> cases hother
  | fetchOld name new =>
    simp only [Line.perform] at hother
    split at hother
    · cases hother
    · rename_i old hget
      obtain rfl := List.mem_singleton.mp hother
      have hretired : Retired t.world t.running old :=
        ⟨hs.salts name old hget, fun hmem => hs.fresh old hmem name hget⟩
      refine ⟨hretired.after hnext, fun n hold => hs.distinct n name old ?_ hget⟩
      exact (congrFun husers n).symm.trans hold
  | write name old new =>
    obtain rfl := List.mem_singleton.mp hother
    refine ⟨hfits.1.after hnext, fun n hold => ?_⟩
    rcases users_after t i (write name old new) rest n with hsame | ⟨o, w, hline, hnew⟩
    · rw [hsame] at hold
      obtain rfl := hfits.2 n hold
      have hwritten : (t.after i (write n old new) rest).world.users n = some new :=
        Function.update_self _ _ _
      rw [hwritten, hold] at hsame
      cases hsame
      exact hfits.1.unwritten ((mem_next hnext).mpr (Or.inl rfl))
    · cases hline
      rw [hnew] at hold
      cases hold
      exact hfits.1.unwritten ((mem_next hnext).mpr (Or.inl rfl))
  | evict old new => cases hother

end Running

section Players

variable {s : Server}

theorem Server.Listed.logout (h : s.Listed) {player : Player} (hsole : s.Sole player) :
    (s.logout player).Listed := by
  unfold Server.logout
  split
  · rename_i hmem
    have hother : ∀ other ∈ s.online.erase player, other.name ≠ player.name := by
      intro other hother hname
      have heq := hsole hmem other (List.mem_of_mem_erase hother) hname
      rw [heq] at hother
      exact h.nodup.not_mem_erase hother
    refine ⟨h.nodup.erase player, fun name other hget => ?_, fun other hmem' => ?_⟩
    · dsimp only at hget
      have hne : name ≠ player.name := by
        rintro rfl
        rw [Function.update_self] at hget
        cases hget
      rw [Function.update_of_ne hne] at hget
      obtain ⟨honline, hname⟩ := h.byName name other hget
      have hne' : other ≠ player := by
        rintro rfl
        exact hne hname.symm
      exact ⟨(List.mem_erase_of_ne hne').mpr honline, hname⟩
    · dsimp only
      rw [Function.update_of_ne (hother other hmem')]
      exact h.indexed other (List.mem_of_mem_erase hmem')
  · exact h

theorem Server.Listed.append (h : s.Listed) {player : Player} (hnot : player ∉ s.online) :
    Server.Listed
      { s with
        online := s.online ++ [player]
        byName := Function.update s.byName player.name (some player) } := by
  refine ⟨?_, fun name other hget => ?_, fun other hmem => ?_⟩
  · exact (List.perm_append_singleton player s.online).nodup_iff.mpr
      (List.nodup_cons.mpr ⟨hnot, h.nodup⟩)
  · dsimp only at hget
    by_cases hname : name = player.name
    · rw [hname, Function.update_self] at hget
      cases hget
      exact ⟨List.mem_append_right _ List.mem_cons_self, hname.symm⟩
    · rw [Function.update_of_ne hname] at hget
      obtain ⟨honline, hother⟩ := h.byName name other hget
      exact ⟨List.mem_append_left _ honline, hother⟩
  · dsimp only
    by_cases hname : other.name = player.name
    · exact ⟨player, by rw [hname, Function.update_self]⟩
    · rw [Function.update_of_ne hname]
      rcases List.mem_append.mp hmem with hold | hnew
      · exact h.indexed other hold
      · rw [List.mem_singleton.mp hnew] at hname
        exact absurd rfl hname

theorem logout_online_subset (s : Server) (player : Player) :
    (s.logout player).online ⊆ s.online := by
  unfold Server.logout
  split
  · exact fun other hmem => List.mem_of_mem_erase hmem
  · exact fun other hmem => hmem

-- The players online after a line: those before it, and the one that it appends.
theorem perform_online (line : Line) {player : Player}
    (hmem : player ∈ (line.perform s).1.online) :
    player ∈ s.online ∨ line = append player := by
  cases line with
  | op o =>
    refine Or.inl ?_
    cases o with
    | login name md5 tourney =>
      simp only [Line.perform, Op.perform] at hmem
      split at hmem
      · split at hmem
        · exact hmem
        · exact logout_online_subset s _ hmem
      · exact hmem
    | logout p => exact logout_online_subset s p hmem
    | _ => exact hmem
  | verify name md5 hash caller =>
    refine Or.inl ?_
    simp only [Line.perform] at hmem
    split at hmem
    · exact hmem
    · rename_i t ht
      rw [(proceed_same t name caller).2.1, (verify_verified ht).online] at hmem
      exact hmem
  | append p =>
    simp only [Line.perform] at hmem
    split at hmem
    · exact Or.inl hmem
    · rcases List.mem_append.mp hmem with hold | hnew
      · exact Or.inl hold
      · rw [List.mem_singleton.mp hnew]
        exact Or.inr rfl
  | fetchHash name md5 caller =>
    simp only [Line.perform] at hmem
    split at hmem <;> exact Or.inl hmem
  | readPassword name =>
    simp only [Line.perform] at hmem
    split at hmem <;> exact Or.inl hmem
  | fetchOld name new =>
    simp only [Line.perform] at hmem
    split at hmem <;> exact Or.inl hmem
  | _ => exact Or.inl hmem

theorem Server.Listed.of_same (h : s.Listed) {t : Server} (honline : t.online = s.online)
    (hname : t.byName = s.byName) : t.Listed := by
  refine ⟨?_, ?_, ?_⟩
  · rw [honline]
    exact h.nodup
  · rw [honline, hname]
    exact h.byName
  · rw [honline, hname]
    exact h.indexed

theorem Server.Listed.perform (h : s.Listed) (line : Line) {others : List (List Line)}
    (hheeds : line.Heeds s others) : (line.perform s).1.Listed := by
  cases line with
  | op o =>
    cases o with
    | login name md5 tourney =>
      simp only [Line.perform, Op.perform]
      split
      · rename_i player hget
        split
        · exact h
        · rename_i hno
          exact h.logout (hheeds (Bool.eq_false_iff.mpr hno) player hget)
      · exact h
    | logout player => exact h.logout hheeds
    | _ => exact h
  | verify name md5 hash caller =>
    simp only [Line.perform]
    split
    · exact h
    · rename_i t ht
      have hproceed := proceed_same t name caller
      have hverified := verify_verified ht
      exact h.of_same (hproceed.2.1.trans hverified.online)
        (hproceed.2.2.1.trans hverified.byName)
  | append player =>
    simp only [Line.perform]
    split
    · exact h
    · rename_i hnot
      exact h.append hnot
  | fetchHash name md5 caller =>
    simp only [Line.perform]
    split <;> exact h
  | readPassword name =>
    simp only [Line.perform]
    split <;> exact h
  | fetchOld name new =>
    simp only [Line.perform]
    split <;> exact h
  | write name old new => exact h.of_same rfl rfl
  | evict old new => exact h.of_same rfl rfl
  | createPlayer name hash => exact h.of_same rfl rfl

end Players

section Runs

variable {t : Traffic} {i : Nat} {line : Line} {rest : List Line}

theorem Sound.resume (h : Sound t) (hnext : Tasks.next t.running i = some (line, rest))
    (hheeds : line.Heeds t.world (t.running.set i rest)) : Sound (t.after i line rest) := by
  -- a hash that is written is the line's own new one
  have hwritten : ∀ name old new, line = write name old new →
      new ∈ Tasks.gather unwritten t.running := by
    rintro name old new rfl
    exact (mem_next hnext).mpr (Or.inl rfl)
  have hnodup := (Tasks.gather_next unwritten hnext).nodup_iff.mp h.nodup
  constructor
  case cache => exact perform_truthful h.cache
  case distinct =>
    intro name name' hash hget hget'
    rcases users_after t i line rest name with hsame | ⟨old, new, hline, hnew⟩ <;>
      rcases users_after t i line rest name' with hsame' | ⟨old', new', hline', hnew'⟩
    · exact h.distinct name name' hash (hsame ▸ hget) (hsame' ▸ hget')
    · rw [hnew'] at hget'
      cases hget'
      exact absurd (hsame ▸ hget) (h.fresh hash (hwritten name' old' hash hline') name)
    · rw [hnew] at hget
      cases hget
      exact absurd (hsame' ▸ hget') (h.fresh hash (hwritten name old hash hline) name')
    · rw [hline] at hline'
      cases hline'
      rfl
  case salts =>
    intro name hash hget
    refine Nat.lt_of_lt_of_le ?_ (salts_le line t.world)
    rcases users_after t i line rest name with hsame | ⟨old, new, hline, hnew⟩
    · exact h.salts name hash (hsame ▸ hget)
    · rw [hnew] at hget
      cases hget
      exact h.newSalts hash (hwritten name old hash hline)
  case newSalts =>
    intro hash hmem
    rcases (mem_after hnext).mp hmem with hnew | hold
    · rcases perform_unwritten line t.world with ⟨hsalts, hsub⟩ | ⟨hsalts, -, md5, hone⟩
      · have hcarried : line.unwritten = some hash := by simpa using hsub.subset hnew
        exact Nat.lt_of_lt_of_le (h.newSalts hash ((mem_next hnext).mpr (Or.inl hcarried)))
          (salts_le line t.world)
      · rw [hone, List.mem_singleton] at hnew
        rw [hnew]
        change t.world.salts < (line.perform t.world).1.salts
        omega
    · exact Nat.lt_of_lt_of_le (h.newSalts hash ((mem_next hnext).mpr (Or.inr hold)))
        (salts_le line t.world)
  case fresh =>
    intro hash hmem name hget
    rcases users_after t i line rest name with hsame | ⟨old, new, rfl, hnew⟩
    · rw [hsame] at hget
      rcases unwritten_after hnext hmem with hold | hsalt
      · exact h.fresh hash hold name hget
      · have hlt := h.salts name hash hget
        omega
    · rw [hnew] at hget
      cases hget
      rcases (mem_after hnext).mp hmem with hnone | hold
      · cases hnone
      · exact (List.nodup_cons.mp hnodup).1 hold
  case nodup =>
    rw [Traffic.after, (Tasks.gather_extend unwritten (Tasks.lt_of_next hnext) _).nodup_iff]
    rcases perform_unwritten line t.world with ⟨-, hsub⟩ | ⟨-, hnone, md5, hone⟩
    · exact hnodup.sublist (hsub.append_right _)
    · rw [hone]
      rw [hnone] at hnodup
      refine List.nodup_cons.mpr ⟨fun hmem => ?_, hnodup⟩
      exact Nat.lt_irrefl _ (h.newSalts _ ((mem_next hnext).mpr (Or.inr hmem)))
  case lines =>
    intro task htask other hother
    rcases Tasks.mem_set_cases htask with rfl | ⟨hold, hset⟩
    · rcases List.mem_append.mp hother with hnew | hold
      · exact fits_perform h hnext other hnew
      · have hfits := h.lines _ (Tasks.mem_of_next hnext) other (List.mem_cons_of_mem line hold)
        exact hfits.after h hnext hheeds ⟨rest, List.mem_set (Tasks.lt_of_next hnext) rest, hold⟩
    · exact (h.lines task hold other hother).after h hnext hheeds ⟨task, hset rest, hother⟩
  case players =>
    intro player hmem
    rcases perform_online line hmem with hold | rfl
    · obtain ⟨hget, hstored⟩ := h.players player hold
      refine ⟨?_, hstored.after h hnext⟩
      rcases users_after t i line rest player.name with hsame | ⟨old, new, rfl, -⟩
      · exact hsame.trans hget
      · exact absurd ⟨player, hold, rfl⟩ hheeds.1
    · obtain ⟨hget, hstored⟩ := h.fits hnext
      refine ⟨?_, hstored.after h hnext⟩
      exact (congrFun (perform_users (append player) t.world) player.name).trans hget
  case listed => exact h.listed.perform line hheeds

theorem gather_begin (running : List (List Line)) (o : Op) :
    Tasks.gather unwritten (running ++ [[op o]]) = Tasks.gather unwritten running := by
  simp [Tasks.gather, unwritten]

theorem Stored.append {s : Server} {running : List (List Line)} {name : String}
    (h : Stored s running name) (task : List Line) : Stored s (running ++ [task]) name := by
  intro hash hget
  rcases h hash hget with hcached | howed
  · exact Or.inl hcached
  · exact Or.inr (howed.append task)

theorem Retired.begin {s : Server} {running : List (List Line)} {old : Hash}
    (h : Retired s running old) (o : Op) : Retired s (running ++ [[op o]]) old := by
  refine ⟨h.salt, ?_⟩
  rw [gather_begin]
  exact h.unwritten

theorem Line.Fits.begin {s : Server} {running : List (List Line)} {line : Line}
    (h : line.Fits s running) (o : Op) : line.Fits s (running ++ [[op o]]) := by
  cases line with
  | verify name md5 hash caller => exact h.imp_right fun hstored => hstored.append _
  | readPassword name => exact Stored.append h _
  | createPlayer name hash => exact ⟨h.1, h.2.append _⟩
  | append player => exact ⟨h.1, h.2.append _⟩
  | write name old new => exact ⟨h.1.begin o, h.2⟩
  | evict old new => exact ⟨h.1.begin o, h.2⟩
  | _ => trivial

theorem Sound.begin (h : Sound t) (o : Op) :
    Sound { t with running := t.running ++ [[op o]] } := by
  constructor
  case cache => exact h.cache
  case distinct => exact h.distinct
  case salts => exact h.salts
  case newSalts =>
    rw [gather_begin]
    exact h.newSalts
  case fresh =>
    rw [gather_begin]
    exact h.fresh
  case nodup =>
    rw [gather_begin]
    exact h.nodup
  case lines =>
    intro task htask line hline
    rcases List.mem_append.mp htask with hold | hnew
    · exact (h.lines task hold line hline).begin o
    · rw [List.mem_singleton.mp hnew, List.mem_singleton] at hline
      rw [hline]
      trivial
  case players => exact fun player hmem =>
    ⟨(h.players player hmem).1, (h.players player hmem).2.append _⟩
  case listed => exact h.listed

theorem Sound.step (h : Sound t) (e : Event) (hheeds : t.Heeds e) : Sound (t.step e) :=
  Tasks.step_keeps h h.begin (fun _ _ _ hnext hline => h.resume hnext hline) e hheeds

theorem Sound.coherent (h : Sound t) (hidle : Tasks.Idle t.running) : t.world.Coherent := by
  constructor
  case login =>
    intro name md5
    unfold Server.authenticateLoginCredentials Server.IsPassword
    cases hget : t.world.users name with
    | none => simp
    | some hash =>
      simp only [Option.some.injEq, exists_eq_left']
      unfold Server.verify
      cases hknown : t.world.passwordCache hash with
      | none => simp [checkpw]
      | some known =>
        obtain rfl := h.cache hash known hknown
        by_cases hmd5 : hash.md5 = md5
        · simp [hmd5]
        · simp [hmd5, Ne.symm hmd5]
  case online =>
    intro name md5
    unfold Server.authenticateOnlinePlayer
    cases hname : t.world.byName name with
    | none =>
      have hoffline : ¬t.world.IsOnline name := by
        rintro ⟨player, hmem, rfl⟩
        obtain ⟨other, hother⟩ := h.listed.indexed player hmem
        rw [hname] at hother
        cases hother
      simp [hoffline]
    | some player =>
      obtain ⟨hmem, rfl⟩ := h.listed.byName name player hname
      obtain ⟨hget, hstored⟩ := h.players player hmem
      have honline : t.world.IsOnline player.name := ⟨player, hmem, rfl⟩
      rcases hstored player.pwBcrypt hget with ⟨known, hknown⟩ | howed
      · have htrue := h.cache _ known hknown
        simp only [Server.IsPassword, hget, hknown, htrue, honline, Option.some.injEq,
          exists_eq_left', true_and]
        by_cases hmd5 : player.pwBcrypt.md5 = md5 <;> simp [hmd5]
      · exact absurd howed hidle.not_owed

-- In a run that heeds who has read the old hash, both ways to authenticate go by the
-- current password whenever no operation is half done.
theorem coherent_of_heeds {run : List Event} (ht : t.Starts)
    (hg : Guarded Traffic.step Traffic.Heeds t run)
    (hidle : Tasks.Idle (runFrom Traffic.step t run).running) :
    (runFrom Traffic.step t run).world.Coherent :=
  (hg.invariant Sound (fun _ e h hheeds => h.step e hheeds) ht.sound).coherent hidle

-- Two accounts, and a server that has just been started.
def started : Traffic where
  world :=
    { users := fun name =>
        if name = "peppy" then some { md5 := "5f4d", salt := 0 }
        else if name = "cookiezi" then some { md5 := "e99a", salt := 1 }
        else none
      passwordCache := fun _ => none
      online := []
      byName := fun _ => none
      made := 0
      salts := 2 }
  running := []

theorem started_starts : started.Starts where
  idle _ htask := absurd htask List.not_mem_nil
  online := rfl
  byName _ := rfl
  cache _ _ h := absurd h (Option.some_ne_none _).symm
  salts name hash h := by
    simp only [started] at h
    split at h
    · cases h
      decide
    · split at h
      · cases h
        decide
      · cases h
  distinct name name' hash h h' := by
    simp only [started] at h h'
    split at h <;> split at h' <;> simp_all
    all_goals
      obtain ⟨rfl, rfl⟩ := h
      simp at h'

def loggedIn : List Event := .begin (.login "peppy" "5f4d" false) :: List.replicate 6 (.resume 0)

def changed (name : String) (current new : Md5) (i : Nat) : List Event :=
  .begin (.changePassword name current new) :: List.replicate 6 (.resume i)

-- One of them logs in, the other changes their password.
theorem coherent_of_heeds_other :
    (runFrom Traffic.step started (loggedIn ++ changed "cookiezi" "e99a" "ab56" 1)).world.Coherent ∧
      (runFrom Traffic.step started
        (loggedIn ++ changed "cookiezi" "e99a" "ab56" 1)).world.IsPassword "cookiezi" "ab56" := by
  refine ⟨coherent_of_heeds started_starts ?_ ?_, ⟨_, rfl, rfl⟩⟩ <;> decide

-- They change the password while they are online.
theorem not_coherent_changedOnline :
    ¬∀ (t : Traffic) (run : List Event), t.Starts →
      Tasks.Idle (runFrom Traffic.step t run).running →
        (runFrom Traffic.step t run).world.Coherent := by
  intro h
  have hcoherent := h started (loggedIn ++ changed "peppy" "5f4d" "ab56" 1) started_starts
    (by decide)
  have hfails : (runFrom Traffic.step started
      (loggedIn ++ changed "peppy" "5f4d" "ab56" 1)).world.authenticateOnlinePlayer
        "peppy" "ab56" = none := by
    decide
  have honline := (hcoherent.online "peppy" "ab56").mpr
    ⟨⟨{ name := "peppy", number := 0, pwBcrypt := { md5 := "5f4d", salt := 0 } }, by decide,
      rfl⟩, ⟨{ md5 := "ab56", salt := 2 }, by decide, rfl⟩⟩
  rw [hfails] at honline
  cases honline

end Runs

end BanchoPrism.Passwords
