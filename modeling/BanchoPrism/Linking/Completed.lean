import BanchoPrism.Library.Traces
import BanchoPrism.Linking.OAuth
import Mathlib.Data.List.Perm.Subperm

namespace BanchoPrism.Linking

open Library DiscordLinkingService

-- The token of the callback that a line is run for.
def Line.token : Line → Option String
  | .store _ _ | .expire _ => none
  | .consume call | .exchange call _ | .identify call _ _ | .check call _ _ | .upsert call _ _
  | .fetch call _ => some call.state

-- The token, with the user that it has turned out to be for.
def Line.claim : Line → Option (String × Int)
  | .store _ _ | .expire _ | .consume _ => none
  | .exchange call userId | .identify call userId _ | .check call userId _ | .upsert call userId _
  | .fetch call userId => some (call.state, userId)

-- The user whose link was written.
def Line.written : Line → Option Int
  | .fetch _ userId => some userId
  | _ => none

def Op.token : Op → Option String
  | .completeLink call => some call.state
  | .beginLink _ _ | .expire _ => none

-- What Discord answers is an object, its ids fit their column, and when a link is written, no
-- other user has come to have the Discord account.
def Line.Clear (v : DiscordLinkingService) (line : Line) (w : World) : Prop :=
  match line with
  | .exchange call _ => (v.tokenResponse call).typed
  | .identify call _ accessToken => (identityResponse call accessToken).typed
  | .upsert _ userId identity => identity.id.length ≤ discordIdMaxLen ∧
      ∀ link ∈ w.links, v.indexed link = v.collate identity.id → link.userId = userId
  | _ => True

-- A declared outcome, and with LINKED the link.
def Answer.Declared (answer : Answer) : Prop :=
  ∃ result, answer.result = .ok result ∧ (result.outcome = .LINKED ↔ result.link.isSome)

-- A line that is run leaves the links of other users than its own, and one that writes a link
-- writes it for the user that the token was consumed for.
structure Binds (v : DiscordLinkingService) (r : Tasks.Ran World Line) : Prop where
  others : ∀ link ∈ r.world.links, r.line.claim.map Prod.snd ≠ some link.userId →
    link ∈ (v.perform r.line r.world).1.links
  written : ∀ call userId identity, r.line = .upsert call userId identity →
    (call.state, userId) ∈ r.world.consumed ∧
      fetchBy DiscordLink.userId (v.perform r.line r.world).1.links userId =
        some (row userId identity call.now)

instance (v : DiscordLinkingService) (line : Line) (w : World) : Decidable (line.Clear v w) :=
  match line with
  | .exchange call _ => inferInstanceAs (Decidable ((v.tokenResponse call).typed = true))
  | .identify call _ accessToken =>
      inferInstanceAs (Decidable ((identityResponse call accessToken).typed = true))
  | .upsert _ userId identity => inferInstanceAs (Decidable (identity.id.length ≤ discordIdMaxLen ∧
      ∀ link ∈ w.links, v.indexed link = v.collate identity.id → link.userId = userId))
  | .store _ _ | .expire _ | .consume _ | .check _ _ _ | .fetch _ _ => isTrue trivial

-- What holds after a run from given links.
structure Linked (v : DiscordLinkingService) (links : List DiscordLink) (run : List Event) :
    Prop where
  unique : Unique DiscordLink.userId v.indexed
    (runFrom (Flows.step v) (started links) run).world.links
  single : let w := (runFrom (Flows.step v) (started links) run).world
    (w.consumed ++ w.states).Subperm w.issued
  binds : ∀ r ∈ Tasks.ran (Flows.step v) (started links) run, Binds v r
  linked : let w := (runFrom (Flows.step v) (started links) run).world
    ∀ answer ∈ w.answers, ∀ link, answer.result = .ok { outcome := .LINKED, link := some link } →
      (answer.state, link.userId) ∈ w.consumed ∧
        (fetchBy DiscordLink.userId w.links link.userId).isSome
  declared : ∀ answer ∈ (runFrom (Flows.step v) (started links) run).world.answers,
    answer.Declared
  answered : let t := runFrom (Flows.step v) (started links) run
    (t.world.answers.map Answer.state ++ Tasks.gather Line.token t.running).Perm
      ((Tasks.begun run).filterMap Op.token)

section Lines

variable {v : DiscordLinkingService} {w : World} {line : Line}

-- What a call answers when it ends with a line.
def Ends (w : World) (line : Line) (result : LinkResult) : Prop :=
  match result.link with
  | none => result.outcome ≠ .LINKED
  | some link => result.outcome = .LINKED ∧ line.written = some link.userId ∧ link ∈ w.links

-- What a line may do.
inductive Does (v : DiscordLinkingService) (w : World) : Line → World × List Line → Prop
  | store (userId : Int) (state : String) (urls : List (Int × Option String)) :
      Does v w (.store userId state)
        ({ w with
            states := replaceBy Prod.fst w.states (state, userId)
            issued := w.issued ++ [(state, userId)]
            redirects := urls }, [])
  | redirect (userId : Int) (state : String) (urls : List (Int × Option String)) :
      Does v w (.store userId state) ({ w with redirects := urls }, [])
  | expire (state : String) :
      Does v w (.expire state) ({ w with states := deleteBy Prod.fst w.states state }, [])
  | consume (call : Call) (userId : Int) (found : (call.state, userId) ∈ w.states) :
      Does v w (.consume call)
        ({ w with
            states := deleteBy Prod.fst w.states call.state
            consumed := w.consumed ++ [(call.state, userId)] }, [.exchange call userId])
  | goOn (line next : Line) (token : next.token = line.token) (claim : next.claim = line.claim)
      (written : next.written = none) : Does v w line (w, [next])
  | answer (line : Line) (call : Call) (result : LinkResult) (token : line.token = some call.state)
      (claim : ∀ userId, line.written = some userId → line.claim = some (call.state, userId))
      (ends : Ends w line result) : Does v w line (w.answer call (.ok result), [])
  | upsert (call : Call) (userId : Int) (identity : DiscordIdentity) (after : List DiscordLink)
      (unique : Unique DiscordLink.userId v.indexed after)
      (same : after = upsertBy DiscordLink.userId w.links (row userId identity call.now)
        (refresh (row userId identity call.now))) :
      Does v w (.upsert call userId identity) ({ w with links := after }, [.fetch call userId])

theorem exchangeCodeForToken_of_typed {call : Call} (h : (v.tokenResponse call).typed) :
    ∃ found, v.exchangeCodeForToken call = .ok found := by
  unfold exchangeCodeForToken
  cases hresponse : v.tokenResponse call with
  | raises => exact ⟨none, rfl⟩
  | object payload => exact ⟨parseAccessToken payload, rfl⟩
  | other =>
    rw [hresponse] at h
    cases h

theorem fetchDiscordIdentity_of_typed {call : Call} {accessToken : String}
    (h : (identityResponse call accessToken).typed) :
    ∃ found, fetchDiscordIdentity call accessToken = .ok found := by
  unfold fetchDiscordIdentity
  cases hresponse : identityResponse call accessToken with
  | raises => exact ⟨none, rfl⟩
  | object payload => exact ⟨parseIdentity payload, rfl⟩
  | other =>
    rw [hresponse] at h
    cases h

theorem upsertLink_of_clear {call : Call} {userId : Int} {identity : DiscordIdentity}
    (hunique : Unique DiscordLink.userId v.indexed w.links)
    (hclear : (Line.upsert call userId identity).Clear v w) :
    v.upsertLink w.links userId identity call.now =
        .ok (upsertBy DiscordLink.userId w.links (row userId identity call.now)
          (refresh (row userId identity call.now))) ∧
      Unique DiscordLink.userId v.indexed
        (upsertBy DiscordLink.userId w.links (row userId identity call.now)
          (refresh (row userId identity call.now))) := by
  obtain ⟨hlength, hfree⟩ := hclear
  have hupsert : upsertInto DiscordLink.userId v.indexed w.links (row userId identity call.now)
      (refresh (row userId identity call.now)) = _ :=
    upsertInto_eq_upsertBy hunique (fun _ => rfl) (fun _ => rfl) hfree
  refine ⟨?_, hunique.upsertInto hupsert⟩
  unfold upsertLink
  rw [if_pos hlength]
  dsimp only
  rw [hupsert]

theorem Does.refuse {call : Call} {outcome : LinkOutcome} (htoken : line.token = some call.state)
    (hwritten : line.written = none) (houtcome : outcome ≠ .LINKED) :
    Does v w line (w.answer call (.ok { outcome := outcome }), []) := by
  refine Does.answer line call _ htoken (fun userId h => ?_) houtcome
  rw [hwritten] at h
  cases h

theorem does_perform (hunique : Unique DiscordLink.userId v.indexed w.links)
    (hclear : line.Clear v w)
    (hrow : ∀ userId, line.written = some userId →
      (fetchBy DiscordLink.userId w.links userId).isSome) :
    Does v w line (v.perform line w) := by
  cases line with
  | store userId state =>
    simp only [perform]
    split
    · exact Does.store userId state _
    · exact Does.redirect userId state _
  | expire state => exact Does.expire state
  | consume call =>
    simp only [perform]
    split
    · cases hfetch : fetchBy Prod.fst w.states call.state with
      | none => exact Does.refuse rfl rfl (by decide)
      | some entry =>
        obtain ⟨state, userId⟩ := entry
        have hstate : state = call.state := key_of_fetchBy hfetch
        subst hstate
        exact Does.consume call userId (mem_of_fetchBy hfetch)
    · exact Does.refuse rfl rfl (by decide)
  | exchange call userId =>
    obtain ⟨found, hfound⟩ := exchangeCodeForToken_of_typed hclear
    simp only [perform, hfound]
    cases found with
    | none => exact Does.refuse rfl rfl (by decide)
    | some accessToken => exact Does.goOn _ _ rfl rfl rfl
  | identify call userId accessToken =>
    obtain ⟨found, hfound⟩ := fetchDiscordIdentity_of_typed hclear
    simp only [perform, hfound]
    cases found with
    | none => exact Does.refuse rfl rfl (by decide)
    | some identity => exact Does.goOn _ _ rfl rfl rfl
  | check call userId identity =>
    simp only [perform]
    split
    · split
      · exact Does.refuse rfl rfl (by decide)
      · exact Does.goOn _ _ rfl rfl rfl
    · exact Does.goOn _ _ rfl rfl rfl
  | upsert call userId identity =>
    obtain ⟨hupsert, hafter⟩ := upsertLink_of_clear hunique hclear
    simp only [perform, hupsert]
    exact Does.upsert call userId identity _ hafter rfl
  | fetch call userId =>
    simp only [perform]
    cases hfetch : fetchBy DiscordLink.userId w.links userId with
    | none =>
      have hsome := hrow userId rfl
      rw [hfetch] at hsome
      cases hsome
    | some link =>
      have huser : link.userId = userId := key_of_fetchBy hfetch
      refine Does.answer _ call _ rfl (fun _ h => ?_) ⟨rfl, ?_, mem_of_fetchBy hfetch⟩
      · cases h
        rfl
      · rw [huser]
        rfl

theorem fetchBy_upsert {links : List DiscordLink} {userId other : Int} {identity : DiscordIdentity}
    {now : Int} :
    fetchBy DiscordLink.userId
        (upsertBy DiscordLink.userId links (row userId identity now)
          (refresh (row userId identity now))) other =
      if userId = other then some (row userId identity now)
      else fetchBy DiscordLink.userId links other := by
  have hkey : ∀ old, (refresh (row userId identity now) old).userId = old.userId := fun _ => rfl
  rw [fetchBy_upsertBy hkey]
  change (if userId = other then _ else _) = _
  split
  case isTrue heq =>
    subst heq
    cases hfetch : fetchBy DiscordLink.userId links userId with
    | none => rfl
    | some old =>
      have huser : old.userId = userId := key_of_fetchBy hfetch
      simp [refresh, row, huser]
  case isFalse => rfl

namespace Does

variable {p : World × List Line}

theorem unique (h : Does v w line p) (hunique : Unique DiscordLink.userId v.indexed w.links) :
    Unique DiscordLink.userId v.indexed p.1.links := by
  cases h with
  | upsert call userId identity after hafter => exact hafter
  | _ => exact hunique

theorem single (h : Does v w line p) (hsingle : (w.consumed ++ w.states).Subperm w.issued) :
    (p.1.consumed ++ p.1.states).Subperm p.1.issued := by
  have hdelete (state : String) : (deleteBy Prod.fst w.states state).Sublist w.states :=
    List.filter_sublist
  cases h with
  | store userId state urls =>
    change (w.consumed ++ (deleteBy Prod.fst w.states state ++ [(state, userId)])).Subperm
      (w.issued ++ [(state, userId)])
    rw [← List.append_assoc, List.subperm_append_right]
    exact ((List.Sublist.refl _).append (hdelete state)).subperm.trans hsingle
  | expire state => exact ((List.Sublist.refl _).append (hdelete state)).subperm.trans hsingle
  | consume call userId hfound =>
    change (w.consumed ++ [(call.state, userId)] ++ deleteBy Prod.fst w.states call.state).Subperm
      w.issued
    have hrest : ((call.state, userId) :: deleteBy Prod.fst w.states call.state).Subperm
        w.states := by
      refine List.cons_subperm_of_not_mem_of_mem (fun hmem => ?_) hfound (hdelete _).subperm
      exact of_decide_eq_true (List.mem_filter.mp hmem).2 rfl
    rw [List.append_assoc]
    exact ((List.subperm_append_left _).mpr hrest).trans hsingle
  | _ => exact hsingle

theorem consumed_subset (h : Does v w line p) : w.consumed ⊆ p.1.consumed := by
  cases h with
  | consume => exact List.subset_append_left _ _
  | _ => exact List.Subset.refl _

theorem claim (h : Does v w line p) {next : Line} (hnext : next ∈ p.2) {c : String × Int}
    (hc : next.claim = some c) : line.claim = some c ∨ c ∈ p.1.consumed := by
  cases h with
  | consume call userId =>
    rw [List.mem_singleton.mp hnext] at hc
    cases hc
    exact Or.inr (List.mem_append_right _ (List.mem_singleton_self _))
  | goOn line other htoken hclaim =>
    rw [List.mem_singleton.mp hnext, hclaim] at hc
    exact Or.inl hc
  | upsert call userId =>
    rw [List.mem_singleton.mp hnext] at hc
    exact Or.inl hc
  | _ => cases hnext

theorem isSome_fetch (h : Does v w line p) {userId : Int}
    (hsome : (fetchBy DiscordLink.userId w.links userId).isSome) :
    (fetchBy DiscordLink.userId p.1.links userId).isSome := by
  cases h with
  | upsert call other identity after hafter hsame =>
    dsimp only
    rw [hsame, fetchBy_upsert]
    split
    · rfl
    · exact hsome
  | _ => exact hsome

theorem written (h : Does v w line p) {next : Line} (hnext : next ∈ p.2) {userId : Int}
    (hwritten : next.written = some userId) :
    (fetchBy DiscordLink.userId p.1.links userId).isSome := by
  cases h with
  | consume call other =>
    rw [List.mem_singleton.mp hnext] at hwritten
    cases hwritten
  | goOn line other htoken hclaim hnone =>
    rw [List.mem_singleton.mp hnext, hnone] at hwritten
    cases hwritten
  | upsert call other identity after hafter hsame =>
    rw [List.mem_singleton.mp hnext] at hwritten
    cases hwritten
    dsimp only
    rw [hsame, fetchBy_upsert, if_pos rfl]
    rfl
  | _ => cases hnext

-- Of the callback that a line is of, there is an answer after it, or a line to go on with.
theorem token (h : Does v w line p) :
    (p.1.answers.map Answer.state ++ p.2.filterMap Line.token).Perm
      (w.answers.map Answer.state ++ line.token.toList) := by
  cases h with
  | goOn line next htoken =>
    have hnext : [next].filterMap Line.token = line.token.toList := by
      rw [← htoken, List.filterMap_cons]
      cases next.token <;> rfl
    dsimp only
    rw [hnext]
  | answer line call result htoken =>
    simp [World.answer, htoken]
  | _ => exact List.Perm.refl _

theorem linked (h : Does v w line p) {answer : Answer} (hanswer : answer ∈ p.1.answers) :
    answer ∈ w.answers ∨ answer.Declared ∧
      ∀ link, answer.result = .ok { outcome := .LINKED, link := some link } →
        line.claim = some (answer.state, link.userId) ∧ link ∈ w.links := by
  cases h with
  | answer line call result htoken hclaim hends =>
    rcases List.mem_append.mp hanswer with hold | hnew
    · exact Or.inl hold
    rw [List.mem_singleton.mp hnew]
    obtain ⟨outcome, link⟩ := result
    refine Or.inr ⟨⟨_, rfl, ?_⟩, fun link' hlink => ?_⟩
    · cases link with
      | none => exact ⟨fun heq => absurd heq hends, nofun⟩
      | some link => exact ⟨fun _ => rfl, fun _ => hends.1⟩
    · cases hlink
      exact ⟨hclaim _ hends.2.1, hends.2.2⟩
  | _ => exact Or.inl hanswer

theorem others (h : Does v w line p) {link : DiscordLink} (hlink : link ∈ w.links)
    (hother : line.claim.map Prod.snd ≠ some link.userId) : link ∈ p.1.links := by
  cases h with
  | upsert call userId identity after hafter hsame =>
    have hne : link.userId ≠ userId := fun heq => hother (congrArg some heq.symm)
    dsimp only
    rw [hsame]
    unfold upsertBy
    split
    · exact List.mem_map.mpr ⟨link, hlink, if_neg hne⟩
    · exact List.mem_append_left _ hlink
  | _ => exact hlink

end Does

theorem binds_perform (hunique : Unique DiscordLink.userId v.indexed w.links)
    (hclear : line.Clear v w) (h : Does v w line (v.perform line w))
    (hclaimed : ∀ c, line.claim = some c → c ∈ w.consumed) (i : Nat) :
    Binds v { task := i, world := w, line := line } := by
  refine ⟨fun link hlink hother => h.others hlink hother, ?_⟩
  rintro call userId identity rfl
  refine ⟨hclaimed _ rfl, ?_⟩
  simp only [perform, (upsertLink_of_clear hunique hclear).1]
  rw [fetchBy_upsert, if_pos rfl]

end Lines

-- What every run keeps of the table, the tokens, the lines to be run and the answers.
structure Kept (v : DiscordLinkingService) (t : Flows) (ops : List Op)
    (trace : List (Tasks.Ran World Line)) : Prop where
  unique : Unique DiscordLink.userId v.indexed t.world.links
  single : (t.world.consumed ++ t.world.states).Subperm t.world.issued
  claimed : ∀ task ∈ t.running, ∀ line ∈ task, ∀ c, line.claim = some c → c ∈ t.world.consumed
  written : ∀ task ∈ t.running, ∀ line ∈ task, ∀ userId, line.written = some userId →
    (fetchBy DiscordLink.userId t.world.links userId).isSome
  binds : ∀ r ∈ trace, Binds v r
  linked : ∀ answer ∈ t.world.answers, ∀ link,
    answer.result = .ok { outcome := .LINKED, link := some link } →
      (answer.state, link.userId) ∈ t.world.consumed ∧
        (fetchBy DiscordLink.userId t.world.links link.userId).isSome
  declared : ∀ answer ∈ t.world.answers, answer.Declared
  answered : (t.world.answers.map Answer.state ++ Tasks.gather Line.token t.running).Perm
    (ops.filterMap Op.token)

namespace Kept

variable {v : DiscordLinkingService} {t : Flows} {ops : List Op}
  {trace : List (Tasks.Ran World Line)}

theorem start {links : List DiscordLink} (h : Unique DiscordLink.userId v.indexed links) :
    Kept v (started links) [] [] where
  unique := h
  single := List.Subperm.refl []
  claimed := fun _ htask => absurd htask List.not_mem_nil
  written := fun _ htask => absurd htask List.not_mem_nil
  binds := fun _ hr => absurd hr List.not_mem_nil
  linked := fun _ hanswer => absurd hanswer List.not_mem_nil
  declared := fun _ hanswer => absurd hanswer List.not_mem_nil
  answered := List.Perm.refl []

theorem lines_token (op : Op) : op.lines.filterMap Line.token = op.token.toList := by
  cases op <;> rfl

theorem begin (h : Kept v t ops trace) (op : Op) :
    Kept v { t with running := t.running ++ [op.lines] } (ops ++ [op]) trace := by
  have hnew : ∀ line ∈ op.lines, line.claim = none ∧ line.written = none := by
    intro line hline
    cases op <;> (rw [List.mem_singleton.mp hline]; exact ⟨rfl, rfl⟩)
  refine { h with claimed := ?_, written := ?_, answered := ?_ }
  · intro task htask line hline c hc
    rcases List.mem_append.mp htask with hold | hbegun
    · exact h.claimed task hold line hline c hc
    · rw [List.mem_singleton.mp hbegun] at hline
      rw [(hnew line hline).1] at hc
      cases hc
  · intro task htask line hline userId hwritten
    rcases List.mem_append.mp htask with hold | hbegun
    · exact h.written task hold line hline userId hwritten
    · rw [List.mem_singleton.mp hbegun] at hline
      rw [(hnew line hline).2] at hwritten
      cases hwritten
  · have hgather : Tasks.gather Line.token (t.running ++ [op.lines]) =
        Tasks.gather Line.token t.running ++ op.token.toList := by
      rw [Tasks.gather, List.flatMap_append, List.flatMap_singleton, lines_token]
      rfl
    have hops : (ops ++ [op]).filterMap Op.token = ops.filterMap Op.token ++ op.token.toList := by
      rw [List.filterMap_append]
      cases hop : op.token <;> simp [hop]
    dsimp only
    rw [hgather, hops, ← List.append_assoc]
    exact h.answered.append_right _

theorem resume (h : Kept v t ops trace) {i : Nat} {line : Line} {rest : List Line}
    (hnext : Tasks.next t.running i = some (line, rest)) (hclear : line.Clear v t.world) :
    Kept v
      { world := (v.perform line t.world).1
        running := t.running.set i ((v.perform line t.world).2 ++ rest) }
      ops (trace ++ [{ task := i, world := t.world, line := line }]) := by
  have hmem := Tasks.mem_of_next hnext
  have hdoes := does_perform h.unique hclear (h.written _ hmem line List.mem_cons_self)
  have hclaim := h.claimed _ hmem line List.mem_cons_self
  refine ⟨hdoes.unique h.unique, hdoes.single h.single, ?_, ?_, ?_, ?_, ?_, ?_⟩
  · intro task htask other hother c hc
    rcases Tasks.mem_lines_set hnext htask hother with hnew | ⟨task', htask', hother'⟩
    · rcases hdoes.claim hnew hc with hline | hconsumed
      · exact hdoes.consumed_subset (hclaim c hline)
      · exact hconsumed
    · obtain ⟨task'', htask'', hother''⟩ := Tasks.mem_lines_of_rest hnext htask' hother'
      exact hdoes.consumed_subset (h.claimed task'' htask'' other hother'' c hc)
  · intro task htask other hother userId hwritten
    rcases Tasks.mem_lines_set hnext htask hother with hnew | ⟨task', htask', hother'⟩
    · exact hdoes.written hnew hwritten
    · obtain ⟨task'', htask'', hother''⟩ := Tasks.mem_lines_of_rest hnext htask' hother'
      exact hdoes.isSome_fetch (h.written task'' htask'' other hother'' userId hwritten)
  · intro r hr
    rcases List.mem_append.mp hr with hold | hnew
    · exact h.binds r hold
    · rw [List.mem_singleton.mp hnew]
      exact binds_perform h.unique hclear hdoes hclaim i
  · intro answer hanswer link hresult
    rcases hdoes.linked hanswer with hold | ⟨-, hlinked⟩
    · obtain ⟨hconsumed, hsome⟩ := h.linked answer hold link hresult
      exact ⟨hdoes.consumed_subset hconsumed, hdoes.isSome_fetch hsome⟩
    · obtain ⟨hline, hlink⟩ := hlinked link hresult
      have hsome := fetchBy_of_mem h.unique.first hlink
      exact ⟨hdoes.consumed_subset (hclaim _ hline), hdoes.isSome_fetch (by rw [hsome]; rfl)⟩
  · intro answer hanswer
    rcases hdoes.linked hanswer with hold | ⟨hdeclared, -⟩
    · exact h.declared answer hold
    · exact hdeclared
  · have hextend : (Tasks.gather Line.token
        (t.running.set i ((v.perform line t.world).2 ++ rest))).Perm _ :=
      Tasks.gather_extend Line.token (Tasks.lt_of_next hnext) (v.perform line t.world).2
    have hsplit := Tasks.gather_next Line.token hnext
    refine ((hextend.append_left _).trans ?_).trans h.answered
    rw [← List.append_assoc]
    refine (hdoes.token.append_right _).trans ?_
    rw [List.append_assoc]
    exact hsplit.symm.append_left _

end Kept

-- After every run in which the condition is met, and so at any time of one, the links and the
-- answers are what is asked of them.
theorem linked_run {v : DiscordLinkingService} {links : List DiscordLink} {run : List Event}
    (hunique : Unique DiscordLink.userId v.indexed links)
    (hclear : Guarded (Flows.step v) (Tasks.Meets fun line w _ => line.Clear v w) (started links)
      run) : Linked v links run := by
  have hkept := Tasks.history_invariant (Kept v) (fun _ _ _ op h => h.begin op)
    (fun _ _ _ _ _ _ h hnext hclear => h.resume hnext hclear) (Kept.start hunique) hclear
  rw [List.nil_append, List.nil_append] at hkept
  exact ⟨hkept.unique, hkept.single, hkept.binds, hkept.linked, hkept.declared, hkept.answered⟩

def configured : DiscordLinkingService where
  clientId := "cid"
  clientSecret := "secret"
  redirectUri := "https://osu.example/cb"
  collate := fun id => id

-- The callback of a flow that has gone well at Discord.
def approved (state discordId : String) (now : Int) : Call where
  state := state
  code := "the-code"
  exchangeCode := fun _ _ => .object [("access_token", .str "tok")]
  fetchIdentity := fun _ _ => .object [("id", .str discordId), ("username", .str "gamer")]
  now := now

def resumes (i n : Nat) : List Event := List.replicate n (.resume i)

-- Two users link two Discord accounts, side by side.
def sideBySide : List Event :=
  .begin (.beginLink 6 "a") :: .begin (.beginLink 7 "b") :: .resume 0 :: .resume 1 ::
    .begin (.completeLink (approved "a" "42" 1)) :: .begin (.completeLink (approved "b" "43" 2)) ::
      (resumes 2 4 ++ resumes 3 4 ++ resumes 2 2 ++ resumes 3 2)

theorem linked_run_sideBySide : Linked configured [] sideBySide :=
  linked_run (by decide) (by decide)

-- They link one and the same, and each looks before the other has written.
def sameAccount : List Event :=
  .begin (.beginLink 6 "a") :: .begin (.beginLink 7 "b") :: .resume 0 :: .resume 1 ::
    .begin (.completeLink (approved "a" "42" 1)) :: .begin (.completeLink (approved "b" "42" 2)) ::
      (resumes 2 4 ++ resumes 3 4 ++ resumes 2 2 ++ resumes 3 2)

-- The second upsert changes the link of the first user, and its call raises.
theorem not_linked_sameAccount :
    ¬∀ (v : DiscordLinkingService) (links : List DiscordLink) (run : List Event),
      Unique DiscordLink.userId v.indexed links → Linked v links run := by
  intro h
  have hlinked := h configured [] sameAccount (by decide)
  have hanswers : (runFrom (Flows.step configured) (started []) sameAccount).world.answers =
      [⟨"a", .ok ⟨.LINKED, some ⟨6, "42", "gamer", 1⟩⟩⟩, ⟨"b", .error .AssertionError⟩] := by rfl
  have hlast := hlinked.declared ⟨"b", .error .AssertionError⟩ (by rw [hanswers]; simp)
  obtain ⟨result, hresult, -⟩ := hlast
  cases hresult

end BanchoPrism.Linking
