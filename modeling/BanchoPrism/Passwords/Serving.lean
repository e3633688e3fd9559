import BanchoPrism.Passwords.Coherence

namespace BanchoPrism.Passwords

open Library Line

section Effects

variable {s : Server} {line : Line}

def Line.onUsers : Line → (String → Option Hash) → String → Option Hash
  | write name _ new => fun users => Function.update users name (some new)
  | _ => id

theorem logout_users (s : Server) (player : Player) : (s.logout player).users = s.users := by
  unfold Server.logout
  split <;> rfl

theorem logout_cache (s : Server) (player : Player) :
    (s.logout player).passwordCache = s.passwordCache := by
  unfold Server.logout
  split <;> rfl

theorem logout_salts (s : Server) (player : Player) : (s.logout player).salts = s.salts := by
  unfold Server.logout
  split <;> rfl

-- What verifying leaves as it is, and what it adds to the cache.
structure Verified (s t : Server) (hash : Hash) : Prop where
  users : t.users = s.users
  online : t.online = s.online
  byName : t.byName = s.byName
  salts : t.salts = s.salts
  cached : ∃ known, t.passwordCache hash = some known
  cache : ∀ h known, t.passwordCache h = some known →
    s.passwordCache h = some known ∨ known = h.md5
  kept : ∀ h known, s.passwordCache h = some known → t.passwordCache h = some known

theorem verify_verified {t : Server} {md5 : Md5} {hash : Hash} (h : s.verify md5 hash = some t) :
    Verified s t hash := by
  unfold Server.verify at h
  split at h
  · rename_i known hknown
    split at h
    · cases h
      exact ⟨rfl, rfl, rfl, rfl, ⟨known, hknown⟩, fun _ _ => Or.inl, fun _ _ h => h⟩
    · cases h
  · rename_i hmissing
    split at h
    · rename_i hcheck
      cases h
      refine ⟨rfl, rfl, rfl, rfl, ⟨md5, Function.update_self _ _ _⟩, fun h known hget => ?_,
        fun h known hget => ?_⟩
      · dsimp only at hget
        by_cases hh : h = hash
        · subst hh
          rw [Function.update_self] at hget
          cases hget
          exact Or.inr (of_decide_eq_true hcheck).symm
        · rw [Function.update_of_ne hh] at hget
          exact Or.inl hget
      · have hne : h ≠ hash := by
          rintro rfl
          rw [hmissing] at hget
          cases hget
        dsimp only
        rw [Function.update_of_ne hne]
        exact hget
    · cases h

theorem proceed_same (s : Server) (name : String) (caller : Caller) :
    (caller.proceed s name).1.users = s.users ∧ (caller.proceed s name).1.online = s.online ∧
      (caller.proceed s name).1.byName = s.byName ∧
      (caller.proceed s name).1.passwordCache = s.passwordCache := by
  cases caller <;> exact ⟨rfl, rfl, rfl, rfl⟩

theorem op_users (o : Op) : (o.perform s).1.users = s.users := by
  cases o with
  | login name md5 tourney =>
    simp only [Op.perform]
    split
    · split
      · rfl
      · exact logout_users s _
    · rfl
  | logout player => exact logout_users s player
  | _ => rfl

theorem op_cache (o : Op) : (o.perform s).1.passwordCache = s.passwordCache := by
  cases o with
  | login name md5 tourney =>
    simp only [Op.perform]
    split
    · split
      · rfl
      · exact logout_cache s _
    · rfl
  | logout player => exact logout_cache s player
  | _ => rfl

theorem perform_users (line : Line) (s : Server) :
    (line.perform s).1.users = line.onUsers s.users := by
  cases line with
  | op o => exact op_users o
  | verify name md5 hash caller =>
    simp only [Line.perform]
    split
    · rfl
    · rename_i t ht
      exact (proceed_same t name caller).1.trans (verify_verified ht).users
  | append player =>
    simp only [Line.perform]
    split <;> rfl
  | fetchHash name md5 caller =>
    simp only [Line.perform]
    split <;> rfl
  | readPassword name =>
    simp only [Line.perform]
    split <;> rfl
  | fetchOld name new =>
    simp only [Line.perform]
    split <;> rfl
  | _ => rfl

-- The cache keeps what it has, but for an old hash that is evicted.
theorem perform_kept {hash : Hash} (h : ∃ md5, s.passwordCache hash = some md5)
    (hline : ∀ new, line ≠ evict hash new) :
    ∃ md5, (line.perform s).1.passwordCache hash = some md5 := by
  cases line with
  | op o =>
    change ∃ md5, (o.perform s).1.passwordCache hash = some md5
    rw [op_cache]
    exact h
  | verify name md5 trusted caller =>
    simp only [Line.perform]
    split
    · exact h
    · rename_i t ht
      obtain ⟨known, hknown⟩ := h
      rw [(proceed_same t name caller).2.2.2]
      exact ⟨known, (verify_verified ht).kept hash known hknown⟩
  | evict old new =>
    have hne : hash ≠ old := by
      rintro rfl
      exact hline new rfl
    simp only [Line.perform]
    by_cases hnew : hash = new
    · subst hnew
      exact ⟨hash.md5, Function.update_self _ _ _⟩
    · rw [Function.update_of_ne hnew, Function.update_of_ne hne]
      exact h
  | append player =>
    simp only [Line.perform]
    split <;> exact h
  | fetchHash name md5 caller =>
    simp only [Line.perform]
    split <;> exact h
  | readPassword name =>
    simp only [Line.perform]
    split <;> exact h
  | fetchOld name new =>
    simp only [Line.perform]
    split <;> exact h
  | _ => exact h

theorem perform_truthful (h : ∀ hash md5, s.passwordCache hash = some md5 → md5 = hash.md5)
    (hash : Hash) (md5 : Md5) (hget : (line.perform s).1.passwordCache hash = some md5) :
    md5 = hash.md5 := by
  cases line with
  | op o =>
    change (o.perform s).1.passwordCache hash = some md5 at hget
    rw [op_cache] at hget
    exact h hash md5 hget
  | verify name untrusted trusted caller =>
    simp only [Line.perform] at hget
    split at hget
    · exact h hash md5 hget
    · rename_i t ht
      rw [(proceed_same t name caller).2.2.2] at hget
      rcases (verify_verified ht).cache hash md5 hget with hold | hnew
      · exact h hash md5 hold
      · exact hnew
  | evict old new =>
    simp only [Line.perform] at hget
    by_cases hnew : hash = new
    · subst hnew
      rw [Function.update_self] at hget
      cases hget
      rfl
    · rw [Function.update_of_ne hnew] at hget
      by_cases hold : hash = old
      · rw [hold, Function.update_self] at hget
        cases hget
      · rw [Function.update_of_ne hold] at hget
        exact h hash md5 hget
  | append player =>
    simp only [Line.perform] at hget
    split at hget <;> exact h hash md5 hget
  | fetchHash name md5 caller =>
    simp only [Line.perform] at hget
    split at hget <;> exact h hash _ hget
  | readPassword name =>
    simp only [Line.perform] at hget
    split at hget <;> exact h hash md5 hget
  | fetchOld name new =>
    simp only [Line.perform] at hget
    split at hget <;> exact h hash md5 hget
  | _ => exact h hash md5 hget

-- A line hands on the new hash that it carries, or makes one with the next salt.
theorem perform_unwritten (line : Line) (s : Server) :
    ((line.perform s).1.salts = s.salts ∧
        ((line.perform s).2.filterMap unwritten).Sublist line.unwritten.toList) ∨
      ((line.perform s).1.salts = s.salts + 1 ∧ line.unwritten = none ∧
        ∃ md5, (line.perform s).2.filterMap unwritten = [{ md5 := md5, salt := s.salts }]) := by
  cases line with
  | op o =>
    refine Or.inl ?_
    cases o with
    | login name md5 tourney =>
      simp only [Line.perform, Op.perform]
      split
      · split
        · exact ⟨rfl, List.Sublist.refl _⟩
        · exact ⟨logout_salts s _, List.Sublist.refl _⟩
      · exact ⟨rfl, List.Sublist.refl _⟩
    | logout player => exact ⟨logout_salts s player, List.Sublist.refl _⟩
    | _ => exact ⟨rfl, List.Sublist.refl _⟩
  | verify name md5 hash caller =>
    simp only [Line.perform]
    split
    · exact Or.inl ⟨rfl, List.Sublist.refl _⟩
    · rename_i t ht
      have hsalts := (verify_verified ht).salts
      cases caller with
      | changePassword new =>
        refine Or.inr ⟨congrArg (· + 1) hsalts, rfl, new, ?_⟩
        rw [← hsalts]
        rfl
      | _ => exact Or.inl ⟨hsalts, List.Sublist.refl _⟩
  | append player =>
    simp only [Line.perform]
    split <;> exact Or.inl ⟨rfl, List.Sublist.refl _⟩
  | fetchHash name md5 caller =>
    simp only [Line.perform]
    split <;> exact Or.inl ⟨rfl, List.Sublist.refl _⟩
  | readPassword name =>
    simp only [Line.perform]
    split <;> exact Or.inl ⟨rfl, List.Sublist.refl _⟩
  | fetchOld name new =>
    simp only [Line.perform]
    split
    · exact Or.inl ⟨rfl, List.nil_sublist _⟩
    · exact Or.inl ⟨rfl, List.Sublist.refl _⟩
  | write name old new => exact Or.inl ⟨rfl, List.nil_sublist _⟩
  | _ => exact Or.inl ⟨rfl, List.Sublist.refl _⟩

end Effects

end BanchoPrism.Passwords
