import Mathlib.Data.List.Nodup
import Mathlib.Logic.Function.Basic

namespace BanchoPrism.Library

open Function

-- Groups that list their members, and members that list their groups.
@[ext]
structure Roster (Group Member : Type) where
  members : Group → List Member
  groups : Member → List Group

namespace Roster

variable {Group Member : Type}

-- Both sides tell the same story, and nobody is listed twice.
structure Paired (roster : Roster Group Member) : Prop where
  mem_iff : ∀ g p, p ∈ roster.members g ↔ g ∈ roster.groups p
  members_nodup : ∀ g, (roster.members g).Nodup
  groups_nodup : ∀ p, (roster.groups p).Nodup

variable [DecidableEq Group] [DecidableEq Member]

def join (roster : Roster Group Member) (g : Group) (p : Member) : Roster Group Member :=
  { members := update roster.members g (roster.members g ++ [p])
    groups := update roster.groups p (roster.groups p ++ [g]) }

def part (roster : Roster Group Member) (g : Group) (p : Member) : Roster Group Member :=
  { members := update roster.members g ((roster.members g).erase p)
    groups := update roster.groups p ((roster.groups p).erase g) }

section Changes

variable {roster : Roster Group Member} {g h : Group} {p q : Member}

theorem mem_join : q ∈ (roster.join g p).members h ↔ q ∈ roster.members h ∨ h = g ∧ q = p := by
  by_cases hg : h = g
  · subst hg
    simp [join]
  · simp [join, hg]

theorem mem_groups_join :
    h ∈ (roster.join g p).groups q ↔ h ∈ roster.groups q ∨ h = g ∧ q = p := by
  by_cases hp : q = p
  · subst hp
    simp [join]
  · simp [join, hp]

theorem Paired.join (hr : roster.Paired) (hp : p ∉ roster.members g) :
    (roster.join g p).Paired := by
  have hg : g ∉ roster.groups p := fun h => hp ((hr.mem_iff g p).mpr h)
  refine ⟨fun h q => ?_, fun h => ?_, fun q => ?_⟩
  · rw [mem_join, mem_groups_join, hr.mem_iff]
  · by_cases hh : h = g
    · subst hh
      have hlist : (roster.join h p).members h = roster.members h ++ [p] := update_self ..
      rw [hlist, ← List.concat_eq_append]
      exact (hr.members_nodup h).concat hp
    · have hlist : (roster.join g p).members h = roster.members h := update_of_ne hh _ _
      rw [hlist]
      exact hr.members_nodup h
  · by_cases hq : q = p
    · subst hq
      have hlist : (roster.join g q).groups q = roster.groups q ++ [g] := update_self ..
      rw [hlist, ← List.concat_eq_append]
      exact (hr.groups_nodup q).concat hg
    · have hlist : (roster.join g p).groups q = roster.groups q := update_of_ne hq _ _
      rw [hlist]
      exact hr.groups_nodup q

theorem Paired.mem_part (hr : roster.Paired) :
    q ∈ (roster.part g p).members h ↔ q ∈ roster.members h ∧ ¬(h = g ∧ q = p) := by
  by_cases hg : h = g
  · subst hg
    have hlist : (roster.part h p).members h = (roster.members h).erase p := update_self ..
    rw [hlist, (hr.members_nodup h).mem_erase_iff]
    simp [and_comm]
  · simp [part, hg]

theorem Paired.mem_groups_part (hr : roster.Paired) :
    h ∈ (roster.part g p).groups q ↔ h ∈ roster.groups q ∧ ¬(h = g ∧ q = p) := by
  by_cases hp : q = p
  · subst hp
    have hlist : (roster.part g q).groups q = (roster.groups q).erase g := update_self ..
    rw [hlist, (hr.groups_nodup q).mem_erase_iff]
    simp [and_comm]
  · simp [part, hp]

theorem Paired.part (hr : roster.Paired) (g : Group) (p : Member) : (roster.part g p).Paired := by
  refine ⟨fun h q => ?_, fun h => ?_, fun q => ?_⟩
  · rw [hr.mem_part, hr.mem_groups_part, hr.mem_iff]
  · by_cases hh : h = g
    · subst hh
      have hlist : (roster.part h p).members h = (roster.members h).erase p := update_self ..
      rw [hlist]
      exact (hr.members_nodup h).erase p
    · have hlist : (roster.part g p).members h = roster.members h := update_of_ne hh _ _
      rw [hlist]
      exact hr.members_nodup h
  · by_cases hq : q = p
    · subst hq
      have hlist : (roster.part g q).groups q = (roster.groups q).erase g := update_self ..
      rw [hlist]
      exact (hr.groups_nodup q).erase g
    · have hlist : (roster.part g p).groups q = roster.groups q := update_of_ne hq _ _
      rw [hlist]
      exact hr.groups_nodup q

end Changes

end Roster

end BanchoPrism.Library
