import BanchoPrism.Conversations.Theorems

namespace BanchoPrism.Conversations

open Library Line

abbrev Ran := Tasks.Ran World Line

-- What a line that was run has sent.
def sentBy (texts : Texts) (r : Ran) : List (Nat × Packet) :=
  (r.line.perform texts r.world).1.sent.drop r.world.sent.length

-- The task has sent the message to a session of its recipient.
def SentLive (texts : Texts) (trace : List Ran) (i fromId toId : Nat) (msg : Str) (p : Nat) :
    Prop :=
  ∃ r ∈ trace, r.task = i ∧ (r.world.player p).id = toId ∧
    ∃ sender recipient, (p, .sendMessage sender msg recipient fromId) ∈ sentBy texts r

-- The message of the row has been sent to a session of its recipient: by the task that has stored
-- the row, or by a login that has read it.
def Shown (texts : Texts) (trace : List Ran) (row : Mail) : Prop :=
  (∃ stored ∈ trace, ∃ p,
      stored.line = create row.fromId row.toId row.msg (.cached p) ∧
        stored.world.nextId = row.id ∧
          SentLive texts trace stored.task row.fromId row.toId row.msg p) ∨
    ∃ r ∈ trace, ∃ player rows, r.line = append player rows ∧ player.id = row.toId ∧
      ∃ entry ∈ rows, entry.mail = { row with read := false } ∧
        (r.world.nextPlayer, unreadPacket texts entry) ∈ sentBy texts r

-- The user whose login has read the mail and is not on the list yet.
def Line.joins : Line → Option Nat
  | append player _ => if player.restricted then none else some player.id
  | _ => none

-- What is stored without being sent finds its recipient away: no session, no login that has read
-- the mail already, no request that marks mail of theirs. And a restricted player, whom no login
-- has sent any mail, marks none.
def Line.Heeds (texts : Texts) (line : Line) (w : World) (others : List Line) : Prop :=
  match line with
  | create _ toId _ (.fetched _) =>
      (∀ p ∈ w.online, (w.player p).id = toId → (w.player p).restricted) ∧
        ∀ other ∈ others, other.marks ≠ some toId ∧ other.joins ≠ some toId
  | markAsRead username _ _ =>
      ∀ p ∈ w.byName (texts.makeSafeName username), (w.player p).restricted = false
  | _ => True

instance (texts : Texts) (line : Line) (w : World) (others : List Line) :
    Decidable (line.Heeds texts w others) :=
  match line with
  | create _ toId _ (.fetched _) =>
      inferInstanceAs (Decidable
        ((∀ p ∈ w.online, (w.player p).id = toId → (w.player p).restricted) ∧
          ∀ other ∈ others, other.marks ≠ some toId ∧ other.joins ≠ some toId))
  | markAsRead username _ _ =>
      inferInstanceAs (Decidable
        (∀ p ∈ w.byName (texts.makeSafeName username), (w.player p).restricted = false))
  | create _ _ _ (.cached _) | sendPrivateMessage _ _ _ | fetchTarget _ _ _
  | fetchTargetPassword _ _ _ _ | login _ | append _ _ | logout _ | change _ _ | fetchSender _ _
  | fetchSenderPassword _ _ | fetchUnread _ _ | markRead _ _ | Line.pass _ => isTrue trivial

-- Where a message waits that was not sent yet: until a login sends it, nobody marks it.
structure Waits (w : World) (left : List Line) (row : Mail) : Prop where
  offline : ∀ p ∈ w.online, (w.player p).id = row.toId → (w.player p).restricted
  listed : ∀ player rows, append player rows ∈ left → player.id = row.toId →
    player.restricted = false → ∃ entry ∈ rows, entry.mail = row
  unmarked : ∀ line ∈ left, line.marks ≠ some row.toId

structure Heard (texts : Texts) (start : List Mail) (trace : List Ran) (w : World)
    (left : List Line) : Prop where
  standing : Standing texts w left
  seen : ∀ row ∈ w.mail, row.read → Shown texts trace row ∨ row ∈ start
  waits : ∀ row ∈ w.mail, row.read = false → Shown texts trace row ∨ Waits w left row

-- What a task is about to store for a session it has sent.
def Lively (texts : Texts) (trace : List Ran) (running : List (List Line)) : Prop :=
  ∀ i task, running[i]? = some task → ∀ fromId toId msg p,
    create fromId toId msg (.cached p) ∈ task → SentLive texts trace i fromId toId msg p

section Hearing

variable {texts : Texts} {start : List Mail} {trace trace' : List Ran} {w w' : World} {line : Line}
  {others l other : List Line} {row : Mail}

theorem SentLive.append {i fromId toId p : Nat} {msg : Str}
    (h : SentLive texts trace i fromId toId msg p) (more : List Ran) :
    SentLive texts (trace ++ more) i fromId toId msg p := by
  obtain ⟨r, hr, hsent⟩ := h
  exact ⟨r, List.mem_append_left _ hr, hsent⟩

theorem Shown.append (h : Shown texts trace row) (more : List Ran) :
    Shown texts (trace ++ more) row := by
  rcases h with ⟨stored, hstored, p, hline, hid, hsent⟩ | ⟨r, hr, hmail⟩
  · exact Or.inl ⟨stored, List.mem_append_left _ hstored, p, hline, hid, hsent.append more⟩
  · exact Or.inr ⟨r, List.mem_append_left _ hr, hmail⟩

theorem Heard.of_perm (h : Heard texts start trace w others) (hperm : others.Perm other) :
    Heard texts start trace w other where
  standing := h.standing.of_perm hperm
  seen := h.seen
  waits row hrow hread := (h.waits row hrow hread).imp id fun hwaits =>
    { hwaits with
      listed := fun player rows hmem => hwaits.listed player rows (hperm.mem_iff.mpr hmem)
      unmarked := fun line hline => hwaits.unmarked line (hperm.mem_iff.mpr hline) }

-- A message waits on as long as its recipient does not come, or comes with it.
theorem Waits.moved (h : Waits w (line :: others) row)
    (hstanding : Standing texts w (line :: others))
    (hgrows : Grows w w') (honline : ∀ p ∈ w'.online, p ∈ w.online)
    (hmarks : ∀ next ∈ l, next.marks = some row.toId → line.marks = some row.toId)
    (hlisted : ∀ player rows, append player rows ∈ l → player.id = row.toId →
      player.restricted = false → ∃ entry ∈ rows, entry.mail = row) :
    Waits w' (l ++ others) row where
  offline p hp hid := by
    obtain ⟨hsame, hrestricted⟩ := hgrows.same p (hstanding.online_lt p (honline p hp))
    rw [hrestricted]
    exact h.offline p (honline p hp) (hsame.symm.trans hid)
  listed player rows hmem := by
    rcases List.mem_append.mp hmem with hnew | hold
    · exact hlisted player rows hnew
    · exact h.listed player rows (List.mem_cons_of_mem line hold)
  unmarked next hnext hmark := by
    rcases List.mem_append.mp hnext with hnew | hold
    · exact h.unmarked line List.mem_cons_self (hmarks next hnew hmark)
    · exact h.unmarked next (List.mem_cons_of_mem line hold) hmark

-- A line that leaves the mail as it is.
theorem Heard.step (h : Heard texts start trace w (line :: others)) (more : List Ran)
    (hstanding : Standing texts w' (l ++ others)) (hmail : w'.mail = w.mail)
    (hwaits : ∀ row ∈ w.mail, row.read = false → Waits w (line :: others) row →
      Shown texts (trace ++ more) row ∨ Waits w' (l ++ others) row) :
    Heard texts start (trace ++ more) w' (l ++ others) where
  standing := hstanding
  seen row hrow hread := by
    rw [hmail] at hrow
    exact (h.seen row hrow hread).imp (·.append more) id
  waits row hrow hread := by
    rw [hmail] at hrow
    rcases h.waits row hrow hread with hshown | hwait
    · exact Or.inl (hshown.append more)
    · exact hwaits row hrow hread hwait

-- One that nobody logs in by and nobody marks by either.
theorem Heard.quiet (h : Heard texts start trace w (line :: others)) (more : List Ran)
    (hgrows : Grows w w') (hmail : w'.mail = w.mail) (honline : ∀ p ∈ w'.online, p ∈ w.online)
    (hstanding : Standing texts w' (l ++ others))
    (hlines : ∀ next ∈ l, next.marks = line.marks ∧ ∀ player rows, next ≠ append player rows) :
    Heard texts start (trace ++ more) w' (l ++ others) := by
  refine h.step more hstanding hmail fun row _ _ hwait => Or.inr ?_
  refine hwait.moved h.standing hgrows honline (fun next hnext hmarks => ?_)
    fun player rows hmem => absurd rfl ((hlines _ hmem).2 player rows)
  exact (hlines next hnext).1.symm.trans hmarks

theorem mem_unreadPackets_of_mem {sentTo : List Nat} {rows : List MailWithUsernames}
    {entry : MailWithUsernames} (h : entry ∈ rows) :
    unreadPacket texts entry ∈ unreadPackets texts sentTo rows := by
  induction rows generalizing sentTo with
  | nil => cases h
  | cons first rest ih =>
    unfold unreadPackets
    split <;> rcases List.mem_cons.mp h with rfl | hrest
    · exact List.mem_cons_self
    · exact List.mem_cons_of_mem _ (ih hrest)
    · exact List.mem_cons_of_mem _ List.mem_cons_self
    · exact List.mem_cons_of_mem _ (List.mem_cons_of_mem _ (ih hrest))

theorem Heard.deliver (h : Heard texts start trace w (line :: others)) {p : Nat}
    (msg recipient : Str) {target : Target} (hplain : line.marks = none) (more : List Ran)
    (hstanding : Standing texts (deliver w p msg recipient target).1
      ((deliver w p msg recipient target).2 ++ others)) :
    Heard texts start (trace ++ more) (deliver w p msg recipient target).1
      ((BanchoPrism.Conversations.deliver w p msg recipient target).2 ++ others) := by
  have hgrows := @deliver_grows w p msg recipient target
  obtain ⟨packets, lines, hrun, hdelivered⟩ := deliver_run w p msg recipient target
  rw [hrun] at hstanding hgrows ⊢
  refine h.quiet more hgrows rfl (fun _ hq => hq) hstanding fun next hnext => ?_
  rcases hdelivered.lines with rfl | ⟨rfl, -⟩
  · cases hnext
  · rw [List.mem_singleton.mp hnext, hplain]
    exact ⟨rfl, fun _ _ => by simp⟩

theorem Heard.append {player : Player} {rows : List MailWithUsernames} (i : Nat)
    (h : Heard texts start trace w (append player rows :: others)) :
    Heard texts start (trace ++ [{ task := i, world := w, line := .append player rows }])
      (w.append texts player rows) others := by
  have hgrows : Grows w (w.append texts player rows) := perform_grows texts w (.append player rows)
  have hstanding : Standing texts (w.append texts player rows) ([] ++ others) :=
    h.standing.append player rows
  refine h.step (l := []) _ hstanding rfl fun row _ hread hwait => ?_
  have hnew : (w.append texts player rows).player w.nextPlayer =
      { player with token := texts.generateToken w.nextPlayer } := Function.update_self ..
  by_cases hcomes : player.id = row.toId ∧ player.restricted = false
  · obtain ⟨entry, hentry, hmail⟩ :=
      hwait.listed player rows List.mem_cons_self hcomes.1 hcomes.2
    refine Or.inl (Or.inr ⟨_, List.mem_append_right _ (List.mem_singleton_self _), player, rows,
      rfl, hcomes.1, entry, hentry, ?_, ?_⟩)
    · rw [hmail, ← hread]
    · have hsent : sentBy texts { task := i, world := w, line := .append player rows } =
          (unreadPackets texts [] rows).map fun packet => (w.nextPlayer, packet) :=
        List.drop_left
      rw [hsent]
      exact List.mem_map.mpr ⟨_, mem_unreadPackets_of_mem hentry, rfl⟩
  · refine Or.inr ⟨fun p hp hid => ?_, fun other entries hmem => ?_, fun next hnext => ?_⟩
    · rcases List.mem_append.mp hp with honline | hcame
      · obtain ⟨hsame, hrestricted⟩ := hgrows.same p (h.standing.online_lt p honline)
        rw [hrestricted]
        exact hwait.offline p honline (hsame.symm.trans hid)
      · rw [List.mem_singleton.mp hcame, hnew] at hid ⊢
        exact (Bool.not_eq_false _).mp fun hfree => hcomes ⟨hid, hfree⟩
    · exact hwait.listed other entries (List.mem_cons_of_mem _ hmem)
    · exact hwait.unmarked next (List.mem_cons_of_mem _ hnext)

theorem Heard.create {fromId toId : Nat} {msg : Str} {target : Target} {i : Nat}
    (h : Heard texts start trace w (create fromId toId msg target :: others))
    (hheeds : (create fromId toId msg target).Heeds texts w others)
    (hlive : ∀ p, target = .cached p → SentLive texts trace i fromId toId msg p) :
    Heard texts start
      (trace ++ [{ task := i, world := w, line := .create fromId toId msg target }])
      ((Line.create fromId toId msg target).perform texts w).1 others := by
  have hgrows := perform_grows texts w (.create fromId toId msg target)
  refine ⟨h.standing.perform, fun row hrow hread => ?_, fun row hrow hread => ?_⟩
  · rcases List.mem_append.mp hrow with hold | hnew
    · exact (h.seen row hold hread).imp (·.append _) id
    · rw [List.mem_singleton.mp hnew] at hread
      cases hread
  · rcases List.mem_append.mp hrow with hold | hnew
    · refine (h.waits row hold hread).imp (·.append _) fun hwait => ?_
      exact hwait.moved (l := []) h.standing hgrows (fun _ hp => hp)
        (fun _ hnext => by cases hnext) fun _ _ hmem => by cases hmem
    · rw [List.mem_singleton.mp hnew]
      cases target with
      | cached p =>
        exact Or.inl (Or.inl ⟨_, List.mem_append_right _ (List.mem_singleton_self _), p, rfl, rfl,
          (hlive p rfl).append _⟩)
      | fetched player =>
        refine Or.inr ⟨hheeds.1, fun other entries hmem hid hfree => ?_,
          fun next hnext => (hheeds.2 next hnext).1⟩
        refine absurd ?_ (hheeds.2 _ hmem).2
        change (if other.restricted then none else some other.id) = some toId
        rw [hfree, if_neg Bool.false_ne_true]
        exact congrArg some hid

theorem Heard.markRead {toId fromId : Nat} (more : List Ran)
    (h : Heard texts start trace w (markRead toId fromId :: others)) :
    Heard texts start (trace ++ more) ((Line.markRead toId fromId).perform texts w).1 others := by
  have hgrows := perform_grows texts w (.markRead toId fromId)
  refine ⟨h.standing.perform, fun row hrow hread => ?_, fun row hrow hread => ?_⟩ <;>
    obtain ⟨old, hold, rfl⟩ := List.mem_map.mp hrow
  · split at hread
    · rename_i hmarked
      rw [if_pos hmarked]
      -- It was marked because it was unread, so it has been shown: the request is one of those
      -- that a message that waits has none of.
      rcases h.waits old hold hmarked.2.2 with hshown | hwait
      · exact Or.inl (hshown.append more)
      · refine absurd ?_ (hwait.unmarked _ List.mem_cons_self)
        exact congrArg some hmarked.1.symm
    · rename_i hkept
      rw [if_neg hkept]
      exact (h.seen old hold hread).imp (·.append more) id
  · split at hread
    · cases hread
    · rename_i hkept
      rw [if_neg hkept]
      refine (h.waits old hold hread).imp (·.append more) fun hwait => ?_
      exact hwait.moved (l := []) h.standing hgrows (fun _ hp => hp)
        (fun _ hnext => by cases hnext) fun _ _ hmem => by cases hmem

theorem Heard.perform (i : Nat) (h : Heard texts start trace w (line :: others))
    (hheeds : line.Heeds texts w others)
    (hlive : ∀ fromId toId msg p, line = .create fromId toId msg (.cached p) →
      SentLive texts trace i fromId toId msg p) :
    Heard texts start (trace ++ [{ task := i, world := w, line := line }])
      (line.perform texts w).1 ((line.perform texts w).2 ++ others) := by
  have hstanding := h.standing.perform
  have hgrows := perform_grows texts w line
  generalize hmore : [({ task := i, world := w, line := line } : Ran)] = more
  have hgone (hrun : line.perform texts w = (w, [])) :
      Heard texts start (trace ++ more) (line.perform texts w).1
        ((line.perform texts w).2 ++ others) := by
    rw [hrun] at hstanding hgrows ⊢
    exact h.quiet (l := []) more hgrows rfl (fun _ hp => hp) hstanding
      fun _ hnext => by cases hnext
  have hone {next : Line} (hrun : line.perform texts w = (w, [next]))
      (hmarks : next.marks = line.marks) (happend : ∀ player rows, next ≠ .append player rows) :
      Heard texts start (trace ++ more) (line.perform texts w).1
        ((line.perform texts w).2 ++ others) := by
    rw [hrun] at hstanding hgrows ⊢
    refine h.quiet more hgrows rfl (fun _ hp => hp) hstanding fun other hother => ?_
    rw [List.mem_singleton.mp hother]
    exact ⟨hmarks, happend⟩
  cases line with
  | sendPrivateMessage p text recipient =>
    rcases sendPrivateMessage_cases texts w p text recipient with
      hrun | ⟨-, ⟨q, -, hrun⟩ | hrun⟩
    · exact hgone hrun
    · rw [hrun] at hstanding ⊢
      exact h.deliver _ recipient rfl more hstanding
    · exact hone hrun rfl (by simp)
  | fetchTarget p msg recipient =>
    cases hfound : w.fetchUser texts (texts.makeSafeName recipient) with
    | none => exact hgone (by simp [Line.perform, hfound])
    | some user =>
      exact @hone (fetchTargetPassword p msg recipient user) (by simp [Line.perform, hfound]) rfl
        (by simp)
  | fetchTargetPassword p msg recipient user => exact h.deliver msg recipient rfl more hstanding
  | create fromId toId msg target =>
    rw [← hmore]
    exact h.create hheeds fun p htarget => hlive fromId toId msg p (by rw [htarget])
  | login player =>
    refine h.step more hstanding rfl fun row hrow hread hwait => Or.inr ?_
    refine hwait.moved h.standing hgrows (fun _ hp => hp) (fun next hnext hmarks => ?_)
      fun other rows hmem hid hfree => ?_
    · rw [List.mem_singleton.mp hnext] at hmarks
      cases hmarks
    · cases List.mem_singleton.mp hmem
      rw [if_neg (by simp [hfree])]
      refine ⟨_, List.mem_map.mpr ⟨row, List.mem_filter.mpr ⟨hrow, ?_⟩, rfl⟩, rfl⟩
      exact decide_eq_true ⟨hid.symm, hread⟩
  | append player rows =>
    rw [← hmore]
    exact h.append i
  | logout p =>
    by_cases hp : p ∈ w.online
    · have hrun : (logout p).perform texts w = (w.logout texts p, []) := by
        simp [Line.perform, hp]
      rw [hrun] at hstanding hgrows ⊢
      exact h.quiet (l := []) more hgrows rfl (fun _ hq => List.mem_of_mem_erase hq) hstanding
        fun _ hnext => by cases hnext
    · exact hgone (by simp [Line.perform, hp])
  | change p settings =>
    exact h.quiet (l := []) more hgrows rfl (fun _ hp => hp) hstanding
      fun _ hnext => by cases hnext
  | markAsRead username passwordMatches channel =>
    rcases markAsRead_cases texts w username passwordMatches channel with
      hrun | ⟨p, next, hname, hmarks, hrun⟩
    · exact hgone hrun
    · rw [hrun] at hstanding hgrows ⊢
      have happend : ∀ player rows, next ≠ .append player rows := by
        rintro player rows rfl
        cases hmarks
      refine h.step more hstanding rfl fun row _ _ hwait => Or.inr ?_
      refine hwait.moved h.standing hgrows (fun _ hq => hq) (fun other hother hmark => ?_)
        fun player rows hmem =>
          absurd (List.mem_singleton.mp hmem).symm (happend player rows)
      -- Who marks is online and has heard all that was stored before.
      rw [List.mem_singleton.mp hother, hmarks] at hmark
      have hrestricted := hwait.offline p (h.standing.named _ p hname).1 (Option.some.inj hmark)
      rw [hheeds p hname] at hrestricted
      cases hrestricted
  | fetchSender toId targetName =>
    cases hfound : w.fetchUser texts (texts.makeSafeName targetName) with
    | none => exact hgone (by simp [Line.perform, hfound])
    | some user =>
      exact @hone (fetchSenderPassword toId user) (by simp [Line.perform, hfound]) rfl (by simp)
  | fetchSenderPassword toId user =>
    exact @hone (fetchUnread toId user.id) rfl rfl (by simp)
  | fetchUnread toId fromId =>
    by_cases hany : w.mail.any fun row => row.toId = toId ∧ row.fromId = fromId ∧ row.read = false
    · exact @hone (.markRead toId fromId) (by simp only [Line.perform, if_pos hany]) rfl (by simp)
    · exact hgone (by simp only [Line.perform, if_neg hany])
  | markRead toId fromId => exact h.markRead more
  | pass seconds =>
    exact h.quiet (l := []) more hgrows rfl (fun _ hp => hp) hstanding
      fun _ hnext => by cases hnext

theorem Heard.begin (h : Heard texts start trace w others) (request : Request) :
    Heard texts start trace w ([request.line] ++ others) := by
  refine ⟨h.standing.begin request, h.seen, fun row hrow hread =>
    (h.waits row hrow hread).imp id fun hwait =>
      ⟨hwait.offline, fun player rows hmem => ?_, fun line hline => ?_⟩⟩
  · rcases List.mem_cons.mp hmem with hnew | hold
    · cases request <;> cases hnew
    · exact hwait.listed player rows hold
  · rcases List.mem_cons.mp hline with rfl | hold
    · cases request <;> exact fun hmark => by cases hmark
    · exact hwait.unmarked line hold

-- A message that is yet to be stored for a session has just been sent to it.
theorem sentLive_of_perform {i fromId toId p : Nat} {msg : Str}
    (hnamed : ∀ name p, w.byName name = some p → (w.player p).isOnline)
    (h : .create fromId toId msg (.cached p) ∈ (line.perform texts w).2) :
    SentLive texts (trace ++ [{ task := i, world := w, line := line }]) i fromId toId msg p := by
  have hdeliver {q : Nat} {text recipient : Str} {target : Target}
      (hrun : line.perform texts w = deliver w q text recipient target)
      (htarget : ∀ p, target = .cached p → (w.player p).isOnline) :
      SentLive texts (trace ++ [{ task := i, world := w, line := line }]) i fromId toId msg p := by
    obtain ⟨packets, lines, hpackets, hdelivered⟩ := deliver_run w q text recipient target
    rw [hrun, hpackets] at h
    rcases hdelivered.lines with rfl | ⟨rfl, hsent⟩
    · cases h
    · cases List.mem_singleton.mp h
      have hsentBy : sentBy texts { task := i, world := w, line := line } = packets := by
        unfold sentBy
        rw [hrun, hpackets]
        exact List.drop_left
      refine ⟨_, List.mem_append_right _ (List.mem_singleton_self _), rfl, rfl,
        (w.player q).name, (w.player p).name, ?_⟩
      rw [hsentBy]
      exact hsent p rfl (htarget p rfl)
  have hone {next : Line} (hrun : line.perform texts w = (w, [next]))
      (hnext : next ≠ .create fromId toId msg (.cached p)) : False := by
    rw [hrun] at h
    exact hnext (List.mem_singleton.mp h).symm
  have hnone (hrun : line.perform texts w = (w, [])) : False := by
    rw [hrun] at h
    cases h
  cases line with
  | sendPrivateMessage q text recipient =>
    rcases sendPrivateMessage_cases texts w q text recipient with
      hrun | ⟨-, ⟨target, hname, hrun⟩ | hrun⟩
    · exact (hnone hrun).elim
    · exact hdeliver hrun fun p heq => by cases heq; exact hnamed _ _ hname
    · exact (hone hrun (by simp)).elim
  | fetchTarget q text recipient =>
    cases hfound : w.fetchUser texts (texts.makeSafeName recipient) with
    | none => exact (hnone (by simp [Line.perform, hfound])).elim
    | some user =>
      exact (@hone (fetchTargetPassword q text recipient user) (by simp [Line.perform, hfound])
        (by simp)).elim
  | fetchTargetPassword q text recipient user => exact hdeliver rfl fun p heq => by cases heq
  | logout q =>
    dsimp only [Line.perform] at h
    cases h
  | markAsRead username passwordMatches channel =>
    rcases markAsRead_cases texts w username passwordMatches channel with
      hrun | ⟨q, next, -, hmarks, hrun⟩
    · exact (hnone hrun).elim
    · refine (hone hrun ?_).elim
      rintro rfl
      cases hmarks
  | fetchSender id targetName =>
    dsimp only [Line.perform] at h
    split at h <;> simp at h
  | fetchUnread id sender =>
    dsimp only [Line.perform] at h
    split at h <;> simp at h
  | login player => exact (hone rfl (by simp)).elim
  | fetchSenderPassword id user => exact (hone rfl (by simp)).elim
  | create _ _ _ _ | append _ _ | change _ _ | markRead _ _ | pass _ => cases h

theorem Lively.begin {running : List (List Line)} (h : Lively texts trace running)
    (request : Request) : Lively texts trace (running ++ [[request.line]]) := by
  intro i task htask fromId toId msg p hmem
  rcases Nat.lt_or_ge i running.length with hi | hi
  · rw [List.getElem?_append_left hi] at htask
    exact h i task htask fromId toId msg p hmem
  · rw [List.getElem?_append_right hi] at htask
    rw [List.mem_singleton.mp (List.mem_of_getElem? htask)] at hmem
    have hline := List.mem_singleton.mp hmem
    cases request <;> cases hline

theorem Lively.resume {running : List (List Line)} {i : Nat} {rest : List Line}
    (h : Lively texts trace running) (hnext : Tasks.next running i = some (line, rest))
    (hnamed : ∀ name p, w.byName name = some p → (w.player p).isOnline) :
    Lively texts (trace ++ [{ task := i, world := w, line := line }])
      (running.set i ((line.perform texts w).2 ++ rest)) := by
  intro j task htask fromId toId msg p hmem
  rcases Tasks.getElem?_lines_set hnext htask hmem with ⟨rfl, hnew⟩ | ⟨old, hold, hmem⟩
  · exact sentLive_of_perform hnamed hnew
  · exact (h j old hold fromId toId msg p hmem).append _

end Hearing

section Runs

variable {texts : Texts}

-- Where what is stored unsent finds its recipient away, no message is marked that its recipient
-- has not been sent.
theorem shown_of_heeds (texts : Texts) (w : World) (run : List Event) (h : w.Fresh texts)
    (hrun : Guarded (Traffic.step texts)
      (Tasks.Meets fun line w running => line.Heeds texts w (Tasks.gather some running))
      { world := w, running := [] } run) :
    ∀ row ∈ (served texts w run).world.mail, row.read →
      Shown texts (Tasks.ran (Traffic.step texts) { world := w, running := [] } run) row ∨
        row ∈ w.mail := by
  have hstart : Heard texts w.mail [] w [] := by
    refine ⟨h.standing, fun row hrow _ => Or.inr hrow,
      fun row hrow _ => Or.inr ⟨fun p hp hid => ?_, fun _ _ hmem => (by cases hmem),
        fun _ hline => (by cases hline)⟩⟩
    rw [h.online] at hp
    rw [List.mem_singleton.mp hp] at hid
    exact absurd hid.symm (h.unwritten row hrow)
  have hheard := @Tasks.ran_invariant _ _ _ (fun request : Request => [request.line])
    (Line.perform texts) { world := w, running := [] }
    (fun line w running => line.Heeds texts w (Tasks.gather some running))
    (fun t trace => Heard texts w.mail trace t.world (Tasks.gather some t.running) ∧
      Lively texts trace t.running)
    (fun t trace request h => ⟨?_, h.2.begin request⟩)
    (fun t trace i line rest h hnext hheeds => ⟨?_, ?_⟩) run []
    ⟨hstart, fun i task hi => (by cases hi)⟩ hrun
  · exact hheard.1.seen
  · exact (h.1.begin request).of_perm (Tasks.gather_begin t.running _).symm
  · have hbefore := h.1.of_perm (Tasks.gather_next some hnext)
    have hnew := @Tasks.gather_extend _ _ i rest _ some (Tasks.lt_of_next hnext)
      (line.perform texts t.world).2
    rw [List.filterMap_some] at hnew
    refine (hbefore.perform i hheeds fun fromId toId msg p heq => ?_).of_perm hnew.symm
    exact h.2 i _ (Tasks.next_eq_some.mp hnext) fromId toId msg p (heq ▸ List.mem_cons_self)
  · exact h.2.resume hnext fun name p hname => (h.1.standing.named name p hname).2.2

-- A server that everybody is called by a digit on.
def plainTexts : Texts :=
  { lower := id, unquote := id, collate := id, strftime := fun _ => [],
    generateToken := fun _ => ['t'], generateToken_ne := fun _ => List.cons_ne_nil _ _ }

def user (id : Nat) (name : Char) : User :=
  { id := id, name := [name], safeName := [name], silenceEnd := 0, restricted := false }

def visitor (id : Nat) (name : Char) : Player :=
  { id := id, name := [name], token := [], silenceEnd := 0, restricted := false }

def quietServer : World :=
  { users := [user 1 '1', user 2 '2', user 3 '3']
    clock := 0
    player := fun _ => { visitor 1 '1' with token := ['t'] }
    nextPlayer := 1
    bot := 0
    online := [0]
    byName := fun name => if name = ['1'] then some 0 else none }

theorem quietServer_fresh : quietServer.Fresh plainTexts where
  sent := rfl
  online := rfl
  bot_lt := Nat.one_pos
  token := rfl
  named name p h := by
    change (if name = ['1'] then some 0 else none) = some p at h
    split at h
    · cases h
      exact ⟨rfl, by assumption⟩
    · cases h
  unwritten row hrow := by cases hrow

-- 2 logs in and writes to 3, who then logs in and reads it; they go on, and 2 is online.
def letterTo3 : List Event :=
  [.begin (.login (visitor 2 '2')), .resume 0, .resume 0,
    .begin (.sendPrivateMessage 1 ['h', 'i'] ['3']), .resume 1, .resume 1, .resume 1, .resume 1,
    .begin (.login (visitor 3 '3')), .resume 2, .resume 2,
    .begin (.markAsRead ['3'] true ['2']), .resume 3, .resume 3, .resume 3,
    .begin (.sendPrivateMessage 2 ['h', 'o'] ['2']), .resume 4, .resume 4]

theorem shown_of_heeds_letterTo3 :
    ∃ row ∈ (served plainTexts quietServer letterTo3).world.mail, row.read ∧
      (Shown plainTexts (Tasks.ran (Traffic.step plainTexts)
          { world := quietServer, running := [] } letterTo3) row ∨
        row ∈ quietServer.mail) := by
  have h := shown_of_heeds plainTexts quietServer letterTo3 quietServer_fresh (by decide +kernel)
  have hmem : ⟨1, 2, 3, ['h', 'i'], 0, true⟩ ∈
      (served plainTexts quietServer letterTo3).world.mail := by decide +kernel
  exact ⟨_, hmem, rfl, h _ hmem rfl⟩

theorem untold_of_fresh_letterTo3 :
    ¬∃ entry ∈ (served plainTexts quietServer letterTo3).world.sent, ∃ name,
      entry.2 = .notification (offlineNotice name) := by
  rintro ⟨entry, hentry, name, hnotice⟩
  exact untold_of_fresh plainTexts quietServer letterTo3 quietServer_fresh entry hentry name hnotice

theorem mail_kept_letterTo3 :
    (runFrom (Traffic.step plainTexts) (served plainTexts quietServer (letterTo3.take 8))
        (letterTo3.drop 8)).world.mail[0]? =
      some { (⟨1, 2, 3, ['h', 'i'], 0, false⟩ : Mail) with
        read := false || (Tasks.ran (Traffic.step plainTexts)
          (served plainTexts quietServer (letterTo3.take 8)) (letterTo3.drop 8)).any fun r =>
            r.line = markRead 3 2 } :=
  mail_kept (served plainTexts quietServer (letterTo3.take 8)) (letterTo3.drop 8) 0
    ⟨1, 2, 3, ['h', 'i'], 0, false⟩ (by decide +kernel)

end Runs

end BanchoPrism.Conversations
