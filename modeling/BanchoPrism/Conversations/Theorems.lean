import BanchoPrism.Conversations.Mail

namespace BanchoPrism.Conversations

open Library Text Line

section Handlers

variable {texts : Texts} {w : World} {p : Nat} {msg recipient : Str} {target : Target}

-- What a handler sends to the player and to an object of the player list, and what it goes on to
-- store: messages of the bot are not stored, and what is stored has been sent to whom is online.
structure Delivered (w : World) (p : Nat) (msg : Str) (target : Target)
    (packets : List (Nat × Packet)) (lines : List Line) : Prop where
  receivers : ∀ entry ∈ packets, entry.1 = p ∨ target = .cached entry.1
  lines : lines = [] ∨
    lines = [create (w.player p).id (w.target target).id (limit msg) target] ∧
      ∀ q, target = .cached q → (w.player q).isOnline →
        (q, .sendMessage (w.player p).name (limit msg) (w.player q).name (w.player p).id) ∈ packets
  noticed : ∀ entry ∈ packets, ∀ name, entry.2 = .notification (offlineNotice name) →
    ¬(w.target target).isOnline

theorem offlineNotice_ne_truncated (name : Str) : offlineNotice name ≠ truncated := by
  intro h
  have hsuffix :
      " is currently offline, but will receive your messsage on their next login.".toList <:+
        truncated := ⟨name, h⟩
  exact absurd hsuffix (by decide)

theorem refusal_ne_notification {player other : Player} {packet : Packet}
    (h : refusal w player other recipient = some packet) (text : Str) :
    packet ≠ .notification text := by
  unfold refusal at h
  rintro rfl
  repeat' split at h
  all_goals cases h

theorem mem_asides {other : Player} {entry : Nat × Packet} (h : entry ∈ asides w p msg other) :
    entry.1 = p ∧ ∀ name, entry.2 ≠ .notification (offlineNotice name) := by
  unfold asides at h
  rcases List.mem_append.mp h with h | h
  · split at h
    · rw [List.mem_singleton.mp h]
      refine ⟨rfl, fun name hname => ?_⟩
      exact offlineNotice_ne_truncated name (Packet.notification.inj hname).symm
    · cases h
  · split at h
    · rw [List.mem_singleton.mp h]
      exact ⟨rfl, fun name hname => by cases hname⟩
    · cases h

theorem deliver_run (w : World) (p : Nat) (msg recipient : Str) (target : Target) :
    ∃ packets lines, deliver w p msg recipient target = (w.enqueue packets, lines) ∧
      Delivered w p msg target packets lines := by
  unfold deliver
  split
  · rename_i packet hrefusal
    refine ⟨_, _, rfl, fun entry hentry => ?_, Or.inl rfl, fun entry hentry name hname => ?_⟩
    · rw [List.mem_singleton.mp hentry]
      exact Or.inl rfl
    · rw [List.mem_singleton.mp hentry] at hname
      exact absurd hname (refusal_ne_notification hrefusal _)
  split
  · refine ⟨_, _, rfl, fun entry hentry => Or.inl (mem_asides hentry).1, Or.inl rfl,
      fun entry hentry name hname => absurd hname ((mem_asides hentry).2 name)⟩
  refine ⟨_, _, rfl, fun entry hentry => ?_, Or.inr ⟨rfl, ?_⟩, fun entry hentry name hname => ?_⟩
  · rcases List.mem_append.mp hentry with haside | hmain
    · exact Or.inl (mem_asides haside).1
    · split at hmain
      · cases target with
        | cached q => exact Or.inr (congrArg Target.cached (by rw [List.mem_singleton.mp hmain]))
        | fetched player => cases hmain
      · rw [List.mem_singleton.mp hmain]
        exact Or.inl rfl
  · rintro q rfl honline
    have htarget : (w.target (.cached q)).isOnline := honline
    refine List.mem_append_right _ ?_
    rw [if_pos htarget]
    exact List.mem_singleton_self _
  · rcases List.mem_append.mp hentry with haside | hmain
    · exact absurd hname ((mem_asides haside).2 name)
    · split at hmain
      · cases target with
        | cached q =>
          rw [List.mem_singleton.mp hmain] at hname
          cases hname
        | fetched player => cases hmain
      · rename_i honline
        exact honline

-- A message is sent to nobody, or to an object of the list, or its target is looked up.
theorem sendPrivateMessage_cases (texts : Texts) (w : World) (p : Nat) (text recipient : Str) :
    (sendPrivateMessage p text recipient).perform texts w = (w, []) ∨
      p ∈ w.online ∧
        ((∃ q, w.byName (texts.makeSafeName recipient) = some q ∧
            (sendPrivateMessage p text recipient).perform texts w =
              deliver w p (strip text) recipient (.cached q)) ∨
          (sendPrivateMessage p text recipient).perform texts w =
            (w, [fetchTarget p (strip text) recipient])) := by
  by_cases hp : p ∈ w.online
  · by_cases hsilenced : w.silenced (w.player p)
    · exact Or.inl (by simp [Line.perform, hsilenced])
    · by_cases hempty : strip text = []
      · exact Or.inl (by simp [Line.perform, hempty])
      · refine Or.inr ⟨hp, ?_⟩
        cases hname : w.byName (texts.makeSafeName recipient) with
        | none => exact Or.inr (by simp [Line.perform, hp, hsilenced, hempty, hname])
        | some q => exact Or.inl ⟨q, rfl, by simp [Line.perform, hp, hsilenced, hempty, hname]⟩
  · exact Or.inl (by simp [Line.perform, hp])

-- Whose mail a request to mark a conversation goes on with.
def Line.marks : Line → Option Nat
  | fetchSender toId _ | fetchSenderPassword toId _ | fetchUnread toId _ | markRead toId _ =>
      some toId
  | _ => none

theorem markAsRead_cases (texts : Texts) (w : World) (username : Str) (passwordMatches : Bool)
    (channel : Str) :
    (markAsRead username passwordMatches channel).perform texts w = (w, []) ∨
      ∃ p line, w.byName (texts.makeSafeName username) = some p ∧
        line.marks = some (w.player p).id ∧
        (markAsRead username passwordMatches channel).perform texts w = (w, [line]) := by
  cases hname : w.byName (texts.makeSafeName username) with
  | none => exact Or.inl (by simp [Line.perform, hname])
  | some p =>
    cases passwordMatches with
    | false => exact Or.inl (by simp [Line.perform, hname])
    | true =>
      by_cases hempty : texts.unquote channel = []
      · exact Or.inl (by simp [Line.perform, hname, hempty])
      · cases htarget : w.byName (texts.makeSafeName (texts.unquote channel)) with
        | none =>
          refine Or.inr ⟨p, _, rfl, ?_, by simp [Line.perform, hname, hempty, htarget]; rfl⟩
          rfl
        | some target =>
          refine Or.inr ⟨p, _, rfl, ?_, by simp [Line.perform, hname, hempty, htarget]; rfl⟩
          rfl

end Handlers

section Kept

variable {texts : Texts}

-- A line leaves a row as it is, or marks it.
theorem perform_mail {w : World} {i : Nat} {row : Mail} (h : w.mail[i]? = some row) (line : Line) :
    (line.perform texts w).1.mail[i]? =
      some { row with read := row.read || decide (line = markRead row.toId row.fromId) } := by
  have hsame {other : Line} {w' : World} (hother : other ≠ markRead row.toId row.fromId)
      (hmail : w'.mail = w.mail) : w'.mail[i]? =
        some { row with read := row.read || decide (other = markRead row.toId row.fromId) } := by
    rw [decide_eq_false hother, Bool.or_false, hmail]
    exact h
  have hdeliver (p : Nat) (msg recipient : Str) (target : Target) :
      (deliver w p msg recipient target).1.mail = w.mail := by
    obtain ⟨packets, lines, hrun, -⟩ := deliver_run w p msg recipient target
    rw [hrun]
    rfl
  cases line with
  | sendPrivateMessage p text recipient =>
    refine hsame (by simp) ?_
    rcases sendPrivateMessage_cases texts w p text recipient with
      hrun | ⟨-, ⟨q, -, hrun⟩ | hrun⟩ <;> rw [hrun]
    exact hdeliver p _ recipient _
  | fetchTarget p msg recipient =>
    refine hsame (by simp) ?_
    dsimp only [Line.perform]
    split <;> rfl
  | fetchTargetPassword p msg recipient user => exact hsame (by simp) (hdeliver p msg recipient _)
  | create fromId toId msg target =>
    rw [decide_eq_false (by simp), Bool.or_false]
    exact (List.getElem?_append_left (List.getElem?_eq_some_iff.mp h).1).trans h
  | logout p =>
    refine hsame (by simp) ?_
    dsimp only [Line.perform]
    split <;> rfl
  | markAsRead username passwordMatches channel =>
    refine hsame (by simp) ?_
    rcases markAsRead_cases texts w username passwordMatches channel with
      hrun | ⟨p, line, -, -, hrun⟩ <;> rw [hrun]
  | fetchSender toId targetName =>
    refine hsame (by simp) ?_
    dsimp only [Line.perform]
    split <;> rfl
  | fetchUnread toId fromId =>
    refine hsame (by simp) ?_
    dsimp only [Line.perform]
    split <;> rfl
  | markRead toId fromId =>
    have hmap : ((markRead toId fromId).perform texts w).1.mail[i]? =
        w.mail[i]?.map fun row =>
          if row.toId = toId ∧ row.fromId = fromId ∧ row.read = false then
            { row with read := true }
          else row := List.getElem?_map
    rw [hmap, h, Option.map_some]
    by_cases hline : markRead toId fromId = markRead row.toId row.fromId
    · cases hline
      rw [decide_eq_true rfl, Bool.or_true]
      split
      · rfl
      · rename_i hread
        obtain ⟨id, fromId, toId, msg, time, read⟩ := row
        cases read <;> simp_all
    · rw [decide_eq_false hline, Bool.or_false, if_neg]
      rintro ⟨rfl, rfl, -⟩
      exact hline rfl
  | _ => exact hsame (by simp) rfl

-- A message stays where it was stored, and is unread until its recipient marks the conversation.
theorem mail_kept (t : Traffic) (run : List Event) (i : Nat) (row : Mail)
    (h : t.world.mail[i]? = some row) :
    (runFrom (Traffic.step texts) t run).world.mail[i]? =
      some { row with
        read := row.read || (Tasks.ran (Traffic.step texts) t run).any fun r =>
          r.line = markRead row.toId row.fromId } := by
  induction run generalizing t row with
  | nil => simpa [runFrom, Tasks.ran] using h
  | cons e rest ih =>
    have hstep : (Traffic.step texts t e).world.mail[i]? =
        some { row with
          read := row.read || (Tasks.ranBy t e).any fun r =>
            r.line = markRead row.toId row.fromId } := by
      cases e with
      | begin request => simpa [Traffic.step, Tasks.step, Tasks.ranBy] using h
      | resume j =>
        change (Tasks.resume (Line.perform texts) t j).world.mail[i]? = _
        cases hnext : Tasks.next t.running j with
        | none =>
          rw [Tasks.resume_of_none hnext, Tasks.ranBy_of_none hnext]
          simpa using h
        | some found =>
          obtain ⟨line, left⟩ := found
          rw [Tasks.resume_of_next hnext, Tasks.ranBy_of_next hnext]
          simpa using perform_mail h line
    rw [runFrom, ih _ _ hstep, Tasks.ran, List.any_append, Bool.or_assoc]

end Kept

-- Who is told of what comes of the line.
def Line.player : Line → Option Nat
  | fetchTarget p _ _ | fetchTargetPassword p _ _ _ => some p
  | _ => none

-- The player list and its index agree, and nothing is sent to an object that is not there yet.
structure Standing (texts : Texts) (w : World) (left : List Line) : Prop where
  sent_lt : ∀ entry ∈ w.sent, entry.1 < w.nextPlayer
  online_lt : ∀ p ∈ w.online, p < w.nextPlayer
  named : ∀ name p, w.byName name = some p →
    p ∈ w.online ∧ name = texts.makeSafeName (w.player p).name ∧ (w.player p).isOnline
  players : ∀ line ∈ left, ∀ p ∈ line.player, p < w.nextPlayer

-- What is sent stays sent, and the objects that are there stay whose they are.
structure Grows (w w' : World) : Prop where
  sent : w.sent ⊆ w'.sent
  next : w.nextPlayer ≤ w'.nextPlayer
  same : ∀ p < w.nextPlayer, (w'.player p).id = (w.player p).id ∧
    (w'.player p).restricted = (w.player p).restricted

section Standings

variable {texts : Texts} {w w' : World} {line : Line} {others l other : List Line}

theorem Standing.of_perm (h : Standing texts w others) (hperm : others.Perm other) :
    Standing texts w other :=
  { h with players := fun line hline => h.players line (hperm.mem_iff.mpr hline) }

theorem Standing.moved (h : Standing texts w (line :: others))
    (hlines : ∀ next ∈ l, ∀ p ∈ next.player, p < w.nextPlayer) :
    Standing texts w (l ++ others) := by
  refine { h with players := fun next hnext => ?_ }
  rcases List.mem_append.mp hnext with hnew | hold
  · exact hlines next hnew
  · exact h.players next (List.mem_cons_of_mem line hold)

-- The mail and the clock are none of its concern.
theorem Standing.congr (h : Standing texts w others) (hsent : w'.sent = w.sent)
    (hplayer : w'.player = w.player) (hnext : w'.nextPlayer = w.nextPlayer)
    (honline : w'.online = w.online) (hname : w'.byName = w.byName) :
    Standing texts w' others := by
  refine ⟨?_, ?_, ?_, ?_⟩
  · rw [hsent, hnext]
    exact h.sent_lt
  · rw [honline, hnext]
    exact h.online_lt
  · rw [honline, hname, hplayer]
    exact h.named
  · rw [hnext]
    exact h.players

theorem Standing.enqueue (h : Standing texts w others) {packets : List (Nat × Packet)}
    (hpackets : ∀ entry ∈ packets, entry.1 < w.nextPlayer) :
    Standing texts (w.enqueue packets) others := by
  refine { h with sent_lt := fun entry hentry => ?_ }
  exact (List.mem_append.mp hentry).elim (h.sent_lt entry) (hpackets entry)

theorem Standing.deliver (h : Standing texts w (line :: others)) {p : Nat} (hp : p < w.nextPlayer)
    {target : Target} (htarget : ∀ q, target = .cached q → q < w.nextPlayer) (msg recipient : Str) :
    Standing texts (deliver w p msg recipient target).1
      ((BanchoPrism.Conversations.deliver w p msg recipient target).2 ++ others) := by
  obtain ⟨packets, lines, hrun, hdelivered⟩ := deliver_run w p msg recipient target
  rw [hrun]
  refine (h.moved fun next hnext => ?_).enqueue fun entry hentry => ?_
  · rcases hdelivered.lines with rfl | ⟨rfl, -⟩
    · cases hnext
    · rw [List.mem_singleton.mp hnext]
      exact fun q hq => by cases hq
  · rcases hdelivered.receivers entry hentry with heq | heq
    · exact heq ▸ hp
    · exact htarget _ heq

theorem Standing.append (h : Standing texts w (line :: others)) (player : Player)
    (rows : List MailWithUsernames) : Standing texts (w.append texts player rows) others := by
  have hold {p : Nat} (hp : p < w.nextPlayer) :
      (w.append texts player rows).player p = w.player p :=
    Function.update_of_ne (Nat.ne_of_lt hp) _ _
  refine ⟨fun entry hentry => ?_, fun p hp => ?_, fun name p hname => ?_, fun next hnext p hp => ?_⟩
  · rcases List.mem_append.mp hentry with hsent | hnew
    · exact Nat.lt_succ_of_lt (h.sent_lt entry hsent)
    · obtain ⟨packet, -, rfl⟩ := List.mem_map.mp hnew
      exact Nat.lt_succ_self _
  · rcases List.mem_append.mp hp with honline | hnew
    · exact Nat.lt_succ_of_lt (h.online_lt p honline)
    · rw [List.mem_singleton.mp hnew]
      exact Nat.lt_succ_self _
  · by_cases heq : name = texts.makeSafeName player.name
    · subst heq
      have hp : w.nextPlayer = p := by
        have hself := Function.update_self (texts.makeSafeName player.name) (some w.nextPlayer)
          w.byName
        exact Option.some.inj (hself.symm.trans hname)
      subst hp
      refine ⟨List.mem_append_right _ (List.mem_singleton_self _), ?_⟩
      have hnew : (w.append texts player rows).player w.nextPlayer =
          { player with token := texts.generateToken w.nextPlayer } := Function.update_self ..
      rw [hnew]
      exact ⟨rfl, decide_eq_true (texts.generateToken_ne _)⟩
    · have hbefore : w.byName name = some p := (Function.update_of_ne heq _ _).symm.trans hname
      obtain ⟨honline, hsafe, htoken⟩ := h.named name p hbefore
      rw [hold (h.online_lt p honline)]
      exact ⟨List.mem_append_left _ honline, hsafe, htoken⟩
  · exact Nat.lt_succ_of_lt (h.players next (List.mem_cons_of_mem line hnext) p hp)

theorem Standing.logout (h : Standing texts w (line :: others)) (p : Nat) :
    Standing texts (w.logout texts p) others := by
  refine ⟨h.sent_lt, fun q hq => h.online_lt q (List.mem_of_mem_erase hq), fun name q hname => ?_,
    fun next hnext => h.players next (List.mem_cons_of_mem line hnext)⟩
  by_cases heq : name = texts.makeSafeName (w.player p).name
  · subst heq
    exact absurd ((Function.update_self ..).symm.trans hname) (by simp)
  · have hbefore : w.byName name = some q := (Function.update_of_ne heq _ _).symm.trans hname
    obtain ⟨honline, hsafe, htoken⟩ := h.named name q hbefore
    have hne : q ≠ p := by
      rintro rfl
      exact heq hsafe
    have hsame : (w.logout texts p).player q = w.player q := Function.update_of_ne hne _ _
    rw [hsame]
    exact ⟨(List.mem_erase_of_ne hne).mpr honline, hsafe, htoken⟩

theorem Standing.change (h : Standing texts w (line :: others)) (p : Nat) (settings : Settings) :
    Standing texts ((change p settings).perform texts w).1 others := by
  have hsame (q : Nat) :
      (((Line.change p settings).perform texts w).1.player q).name = (w.player q).name ∧
        (((Line.change p settings).perform texts w).1.player q).token = (w.player q).token := by
    by_cases hq : q = p
    · subst hq
      simp [Line.perform]
    · simp [Line.perform, hq]
  refine ⟨h.sent_lt, h.online_lt, fun name q hname => ?_,
    fun next hnext => h.players next (List.mem_cons_of_mem line hnext)⟩
  obtain ⟨honline, hsafe, htoken⟩ := h.named name q hname
  refine ⟨honline, ?_, ?_⟩
  · rw [(hsame q).1]
    exact hsafe
  · unfold Player.isOnline at htoken ⊢
    rw [(hsame q).2]
    exact htoken

theorem player_of_marks {toId : Nat} (h : line.marks = some toId) : line.player = none := by
  cases line <;> first | rfl | cases h

theorem Standing.perform (h : Standing texts w (line :: others)) :
    Standing texts (line.perform texts w).1 ((line.perform texts w).2 ++ others) := by
  have hgone : Standing texts w others := h.moved (l := []) fun _ hnext => by cases hnext
  have hplayer := h.players line List.mem_cons_self
  have hone {next : Line} (hnext : ∀ p ∈ next.player, p < w.nextPlayer) :
      Standing texts w ([next] ++ others) :=
    h.moved fun other hother => List.mem_singleton.mp hother ▸ hnext
  cases line with
  | sendPrivateMessage p text recipient =>
    rcases sendPrivateMessage_cases texts w p text recipient with
      hrun | ⟨hp, ⟨q, hq, hrun⟩ | hrun⟩ <;> rw [hrun]
    · exact hgone
    · refine h.deliver (h.online_lt p hp) ?_ _ recipient
      rintro _ ⟨rfl⟩
      exact h.online_lt q (h.named _ q hq).1
    · exact hone fun other hother => by cases hother; exact h.online_lt p hp
  | fetchTarget p msg recipient =>
    dsimp only [Line.perform]
    split
    · exact hgone
    · exact hone hplayer
  | fetchTargetPassword p msg recipient user =>
    exact h.deliver (hplayer p rfl) (fun q hq => by cases hq) msg recipient
  | create fromId toId msg target => exact hgone.congr rfl rfl rfl rfl rfl
  | login player => exact hone fun p hp => by cases hp
  | append player rows => exact h.append player rows
  | logout p =>
    dsimp only [Line.perform]
    split
    · exact h.logout p
    · exact hgone
  | change p settings => exact h.change p settings
  | markAsRead username passwordMatches channel =>
    rcases markAsRead_cases texts w username passwordMatches channel with
      hrun | ⟨p, next, -, hmarks, hrun⟩ <;> rw [hrun]
    · exact hgone
    · exact hone fun q hq => by rw [player_of_marks hmarks] at hq; cases hq
  | fetchSender toId targetName =>
    dsimp only [Line.perform]
    split
    · exact hgone
    · exact hone fun p hp => by cases hp
  | fetchSenderPassword toId user => exact hone fun p hp => by cases hp
  | fetchUnread toId fromId =>
    dsimp only [Line.perform]
    split
    · exact hone fun p hp => by cases hp
    · exact hgone
  | markRead toId fromId => exact hgone.congr rfl rfl rfl rfl rfl
  | pass seconds => exact hgone.congr rfl rfl rfl rfl rfl

theorem Standing.begin (h : Standing texts w others) (request : Request) :
    Standing texts w ([request.line] ++ others) := by
  refine { h with players := fun line hline => ?_ }
  rcases List.mem_cons.mp hline with rfl | hold
  · cases request <;> exact fun p hp => by cases hp
  · exact h.players line hold

theorem Grows.of_eq (hsent : w'.sent = w.sent) (hplayer : w'.player = w.player)
    (hnext : w'.nextPlayer = w.nextPlayer) : Grows w w' where
  sent := hsent ▸ List.Subset.refl _
  next := Nat.le_of_eq hnext.symm
  same p _ := by
    rw [hplayer]
    exact ⟨rfl, rfl⟩

theorem deliver_grows (p : Nat) (msg recipient : Str) (target : Target) :
    Grows w (deliver w p msg recipient target).1 := by
  obtain ⟨packets, lines, hrun, -⟩ := deliver_run w p msg recipient target
  rw [hrun]
  exact ⟨List.subset_append_left _ _, Nat.le_refl _, fun _ _ => ⟨rfl, rfl⟩⟩

theorem perform_grows (texts : Texts) (w : World) (line : Line) :
    Grows w (line.perform texts w).1 := by
  have hupdate (p : Nat) (player : Player) (hid : player.id = (w.player p).id)
      (hrestricted : player.restricted = (w.player p).restricted) (q : Nat) :
      (Function.update w.player p player q).id = (w.player q).id ∧
        (Function.update w.player p player q).restricted = (w.player q).restricted := by
    by_cases hq : q = p
    · subst hq
      rw [Function.update_self]
      exact ⟨hid, hrestricted⟩
    · rw [Function.update_of_ne hq]
      exact ⟨rfl, rfl⟩
  cases line with
  | sendPrivateMessage p text recipient =>
    rcases sendPrivateMessage_cases texts w p text recipient with
      hrun | ⟨-, ⟨q, -, hrun⟩ | hrun⟩ <;> rw [hrun]
    · exact Grows.of_eq rfl rfl rfl
    · exact deliver_grows p _ recipient _
    · exact Grows.of_eq rfl rfl rfl
  | fetchTarget p msg recipient =>
    dsimp only [Line.perform]
    split <;> exact Grows.of_eq rfl rfl rfl
  | fetchTargetPassword p msg recipient user => exact deliver_grows p msg recipient _
  | append player rows =>
    refine ⟨List.subset_append_left _ _, Nat.le_succ _, fun p hp => ?_⟩
    have hold : (w.append texts player rows).player p = w.player p :=
      Function.update_of_ne (Nat.ne_of_lt hp) _ _
    change ((w.append texts player rows).player p).id = _ ∧ _
    rw [hold]
    exact ⟨rfl, congrArg Player.restricted hold⟩
  | logout p =>
    dsimp only [Line.perform]
    split
    · refine ⟨List.Subset.refl _, Nat.le_refl _, fun q _ => ?_⟩
      exact hupdate p { w.player p with token := [] } rfl rfl q
    · exact Grows.of_eq rfl rfl rfl
  | change p settings =>
    refine ⟨List.Subset.refl _, Nat.le_refl _, fun q _ => ?_⟩
    exact hupdate p { w.player p with settings := settings } rfl rfl q
  | markAsRead username passwordMatches channel =>
    rcases markAsRead_cases texts w username passwordMatches channel with
      hrun | ⟨p, next, -, -, hrun⟩ <;> rw [hrun] <;> exact Grows.of_eq rfl rfl rfl
  | fetchSender toId targetName =>
    dsimp only [Line.perform]
    split <;> exact Grows.of_eq rfl rfl rfl
  | fetchUnread toId fromId =>
    dsimp only [Line.perform]
    split <;> exact Grows.of_eq rfl rfl rfl
  | _ => exact Grows.of_eq rfl rfl rfl

-- No player was told that a target is offline.
def Untold (w : World) : Prop :=
  ∀ entry ∈ w.sent, ∀ name, entry.2 ≠ .notification (offlineNotice name)

theorem mem_unreadPackets {sentTo : List Nat} {rows : List MailWithUsernames} {packet : Packet}
    (h : packet ∈ unreadPackets texts sentTo rows) :
    ∃ sender text recipient senderId, packet = .sendMessage sender text recipient senderId := by
  induction rows generalizing sentTo with
  | nil => cases h
  | cons row rest ih =>
    unfold unreadPackets at h
    split at h
    · rcases List.mem_cons.mp h with rfl | hrest
      · exact ⟨_, _, _, _, rfl⟩
      · exact ih hrest
    · rcases List.mem_cons.mp h with rfl | hmore
      · exact ⟨_, _, _, _, rfl⟩
      rcases List.mem_cons.mp hmore with rfl | hrest
      · exact ⟨_, _, _, _, rfl⟩
      · exact ih hrest

theorem Untold.deliver (h : Untold w) (p : Nat) (msg recipient : Str) {target : Target}
    (honline : (w.target target).isOnline) : Untold (deliver w p msg recipient target).1 := by
  obtain ⟨packets, lines, hrun, hdelivered⟩ := deliver_run w p msg recipient target
  rw [hrun]
  intro entry hentry name hname
  rcases List.mem_append.mp hentry with hold | hnew
  · exact h entry hold name hname
  · exact hdelivered.noticed entry hnew name hname honline

theorem Untold.perform (h : Untold w) (hstanding : Standing texts w (line :: others)) :
    Untold (line.perform texts w).1 := by
  cases line with
  | sendPrivateMessage p text recipient =>
    rcases sendPrivateMessage_cases texts w p text recipient with
      hrun | ⟨-, ⟨q, hq, hrun⟩ | hrun⟩ <;> rw [hrun]
    · exact h
    · exact h.deliver p _ recipient (hstanding.named _ q hq).2.2
    · exact h
  | fetchTarget p msg recipient =>
    dsimp only [Line.perform]
    split <;> exact h
  | fetchTargetPassword p msg recipient user =>
    exact h.deliver p msg recipient (decide_eq_true (texts.generateToken_ne _))
  | append player rows =>
    intro entry hentry name hname
    rcases List.mem_append.mp hentry with hold | hnew
    · exact h entry hold name hname
    · obtain ⟨packet, hpacket, rfl⟩ := List.mem_map.mp hnew
      obtain ⟨sender, text, recipient, senderId, rfl⟩ := mem_unreadPackets hpacket
      cases hname
  | logout p =>
    dsimp only [Line.perform]
    split <;> exact h
  | markAsRead username passwordMatches channel =>
    rcases markAsRead_cases texts w username passwordMatches channel with
      hrun | ⟨p, next, -, -, hrun⟩ <;> rw [hrun] <;> exact h
  | fetchSender toId targetName =>
    dsimp only [Line.perform]
    split <;> exact h
  | fetchUnread toId fromId =>
    dsimp only [Line.perform]
    split <;> exact h
  | _ => exact h

-- What a server starts with: nobody is online but the bot, and nothing has been sent.
structure World.Fresh (texts : Texts) (w : World) : Prop where
  sent : w.sent = []
  online : w.online = [w.bot]
  bot_lt : w.bot < w.nextPlayer
  token : (w.player w.bot).isOnline
  named : ∀ name p, w.byName name = some p →
    p = w.bot ∧ name = texts.makeSafeName (w.player w.bot).name
  unwritten : ∀ row ∈ w.mail, row.toId ≠ (w.player w.bot).id

theorem World.Fresh.standing (h : w.Fresh texts) : Standing texts w [] where
  sent_lt entry hentry := by
    rw [h.sent] at hentry
    cases hentry
  online_lt p hp := by
    rw [h.online] at hp
    exact List.mem_singleton.mp hp ▸ h.bot_lt
  named name p hname := by
    obtain ⟨rfl, hsafe⟩ := h.named name p hname
    rw [h.online]
    exact ⟨List.mem_singleton_self _, hsafe, h.token⟩
  players line hline := by cases hline

-- The messages of a server, from its start on.
def served (texts : Texts) (w : World) (run : List Event) : Traffic :=
  runFrom (Traffic.step texts) { world := w, running := [] } run

-- Whoever writes to a player that is not online is not told: what is made from the row of the
-- player has a token.
theorem untold_of_fresh (texts : Texts) (w : World) (run : List Event) (h : w.Fresh texts) :
    ∀ entry ∈ (served texts w run).world.sent, ∀ name,
      entry.2 ≠ .notification (offlineNotice name) := by
  have hstart : Standing texts w [] ∧ Untold w :=
    ⟨h.standing, fun entry hentry => by rw [h.sent] at hentry; cases hentry⟩
  have hrun := @Tasks.left_invariant _ _ _ (fun request : Request => [request.line])
    (Line.perform texts) { world := w, running := [] }
    (fun _ w left => Standing texts w left ∧ Untold w)
    (fun _ _ _ _ hperm h => ⟨h.1.of_perm hperm, h.2⟩)
    (fun _ _ _ request h => ⟨h.1.begin request, h.2⟩)
    (fun _ _ _ _ h => ⟨h.1.perform, h.2.perform h.1⟩) run [] hstart
  exact hrun.2

end Standings

end BanchoPrism.Conversations
