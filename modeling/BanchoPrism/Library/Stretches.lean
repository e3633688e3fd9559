import Mathlib.Data.List.Forall2

namespace BanchoPrism.Library

-- The indices from one to another, which is not one of them.
@[ext]
structure Stretch where
  start : ℕ
  stop : ℕ
  deriving DecidableEq

namespace Stretch

def length (s : Stretch) : ℕ := s.stop - s.start

-- What begins before the index is over there.
def Edge (Good : Stretch → Prop) (lo hi i : ℕ) : Prop :=
  ∀ s, Good s → lo ≤ s.start → s.stop ≤ hi → s.start < i → s.stop ≤ i

-- A good stretch between two bounds, which no other good one has in it.
structure Maximal (Good : Stretch → Prop) (lo hi : ℕ) (s : Stretch) : Prop where
  low : lo ≤ s.start
  nonempty : s.start < s.stop
  high : s.stop ≤ hi
  good : Good s
  widest : ∀ t, Good t → lo ≤ t.start → t.stop ≤ hi → t.start ≤ s.start → s.stop ≤ t.stop → t = s

-- The maximal stretches of at least a length that are over at an index, in their order.
structure Found (Good : Stretch → Prop) (lo hi least i : ℕ) (runs : List Stretch) : Prop where
  edge : Edge Good lo hi i
  ordered : runs.Pairwise fun s t => s.stop ≤ t.start
  mem : ∀ s, s ∈ runs ↔ Maximal Good lo hi s ∧ least ≤ s.length ∧ s.stop ≤ i

-- All of them.
structure Exact (Good : Stretch → Prop) (lo hi least : ℕ) (runs : List Stretch) : Prop where
  ordered : runs.Pairwise fun s t => s.stop ≤ t.start
  mem : ∀ s, s ∈ runs ↔ Maximal Good lo hi s ∧ least ≤ s.length

variable {Good : Stretch → Prop} {lo hi least i j : ℕ} {runs : List Stretch}

theorem Found.start : Found Good lo hi least lo [] := by
  refine ⟨fun s _ hlo _ hstart => by omega, List.Pairwise.nil, fun s => ?_⟩
  refine ⟨fun hs => absurd hs List.not_mem_nil, fun ⟨hs, _, hstop⟩ => ?_⟩
  have := hs.low
  have := hs.nonempty
  omega

-- What is left is too short to have another one.
theorem Found.exact (h : Found Good lo hi least i runs) (hrest : hi - i < least) :
    Exact Good lo hi least runs := by
  refine ⟨h.ordered, fun s => (h.mem s).trans ?_⟩
  refine ⟨fun ⟨hs, hlong, _⟩ => ⟨hs, hlong⟩, fun ⟨hs, hlong⟩ => ⟨hs, hlong, ?_⟩⟩
  rcases Nat.lt_or_ge s.start i with hlt | hge
  · exact h.edge s hs.good hs.low hs.high hlt
  · have := hs.high
    unfold length at hlong
    omega

-- Nothing begins at the index.
theorem Found.skip (h : Found Good lo hi least i runs) (hnone : ∀ k, i < k → ¬Good ⟨i, k⟩) :
    Found Good lo hi least (i + 1) runs := by
  have hbegin : ∀ s, Good s → s.start = i → s.stop ≤ i := by
    rintro ⟨start, stop⟩ hs rfl
    exact Nat.le_of_not_lt fun hlt => hnone stop hlt hs
  refine ⟨fun s hs hlo hhi hstart => ?_, h.ordered, fun s => (h.mem s).trans ?_⟩
  · rcases Nat.lt_succ_iff_lt_or_eq.mp hstart with hlt | heq
    · exact Nat.le_succ_of_le (h.edge s hs hlo hhi hlt)
    · exact Nat.le_succ_of_le (hbegin s hs heq)
  · refine ⟨fun ⟨hs, hleast, hstop⟩ => ⟨hs, hleast, Nat.le_succ_of_le hstop⟩,
      fun ⟨hs, hleast, hstop⟩ => ⟨hs, hleast, ?_⟩⟩
    have hlt := Nat.lt_of_lt_of_le hs.nonempty hstop
    rcases Nat.lt_succ_iff_lt_or_eq.mp hlt with hlt | heq
    · exact h.edge s hs.good hs.low hs.high hlt
    · exact hbegin s hs.good heq

section Take

variable (h : Found Good lo hi least i runs) (hlo : lo ≤ i) (hhi : j ≤ hi) (hgood : Good ⟨i, j⟩)

include h hlo hhi hgood

theorem Found.eq_of_between {s : Stretch} (hs : Maximal Good lo hi s) (hstop : s.stop ≤ j) :
    s.stop ≤ i ∨ s = ⟨i, j⟩ := by
  rcases Nat.lt_or_ge s.start i with hlt | hge
  · exact Or.inl (h.edge s hs.good hs.low hs.high hlt)
  · exact Or.inr (hs.widest ⟨i, j⟩ hgood hlo hhi hge hstop).symm

variable (hij : i < j) (hedge : Edge Good lo hi j)

include hij hedge

theorem Found.maximal : Maximal Good lo hi ⟨i, j⟩ := by
  refine ⟨hlo, hij, hhi, hgood, fun t ht htlo hstop hbefore hafter => ?_⟩
  have hstart : t.start = i := by
    refine Nat.le_antisymm hbefore (Nat.le_of_not_lt fun hlt => ?_)
    exact absurd (Nat.lt_of_lt_of_le hij hafter) (Nat.not_lt.mpr (h.edge t ht htlo hstop hlt))
  refine Stretch.ext hstart (Nat.le_antisymm (hedge t ht htlo hstop ?_) hafter)
  rw [hstart]
  exact hij

theorem Found.take (hlong : least ≤ j - i) : Found Good lo hi least j (runs ++ [⟨i, j⟩]) := by
  refine ⟨hedge, ?_, fun s => ?_⟩
  · refine List.pairwise_append.mpr ⟨h.ordered, List.pairwise_singleton _ _, fun s hs t ht => ?_⟩
    rw [List.mem_singleton.mp ht]
    exact ((h.mem s).mp hs).2.2
  · rw [List.mem_append, List.mem_singleton, h.mem]
    constructor
    · rintro (⟨hs, hleast, hstop⟩ | rfl)
      · exact ⟨hs, hleast, Nat.le_trans hstop (Nat.le_of_lt hij)⟩
      · exact ⟨h.maximal hlo hhi hgood hij hedge, hlong, Nat.le_refl j⟩
    · rintro ⟨hs, hleast, hstop⟩
      rcases h.eq_of_between hlo hhi hgood hs hstop with hbefore | heq
      · exact Or.inl ⟨hs, hleast, hbefore⟩
      · exact Or.inr heq

theorem Found.pass (hshort : j - i < least) : Found Good lo hi least j runs := by
  refine ⟨hedge, h.ordered, fun s => (h.mem s).trans ?_⟩
  refine ⟨fun ⟨hs, hleast, hstop⟩ => ⟨hs, hleast, Nat.le_trans hstop (Nat.le_of_lt hij)⟩,
    fun ⟨hs, hleast, hstop⟩ => ⟨hs, hleast, ?_⟩⟩
  rcases h.eq_of_between hlo hhi hgood hs hstop with hbefore | rfl
  · exact hbefore
  · exact absurd hleast (Nat.not_le.mpr hshort)

end Take

section Told

variable {ρ : Type} {Tells : Stretch → ρ → Prop} {records : List ρ}

-- The records tell of the stretches that were found, each of its own.
def Told (Good : Stretch → Prop) (Tells : Stretch → ρ → Prop) (lo hi least i : ℕ)
    (records : List ρ) : Prop :=
  ∃ runs, Found Good lo hi least i runs ∧ List.Forall₂ Tells runs records

def AllTold (Good : Stretch → Prop) (Tells : Stretch → ρ → Prop) (lo hi least : ℕ)
    (records : List ρ) : Prop :=
  ∃ runs, Exact Good lo hi least runs ∧ List.Forall₂ Tells runs records

theorem Told.start : Told Good Tells lo hi least lo [] := ⟨[], Found.start, List.Forall₂.nil⟩

theorem Told.all (h : Told Good Tells lo hi least i records) (hrest : hi - i < least) :
    AllTold Good Tells lo hi least records := by
  obtain ⟨runs, hfound, htells⟩ := h
  exact ⟨runs, hfound.exact hrest, htells⟩

theorem Told.skip (h : Told Good Tells lo hi least i records) (hnone : ∀ k, i < k → ¬Good ⟨i, k⟩) :
    Told Good Tells lo hi least (i + 1) records := by
  obtain ⟨runs, hfound, htells⟩ := h
  exact ⟨runs, hfound.skip hnone, htells⟩

-- A stretch that is not too short is told of, and a short one is not.
theorem Told.take (h : Told Good Tells lo hi least i records) (hlo : lo ≤ i) (hhi : j ≤ hi)
    (hgood : Good ⟨i, j⟩) (hij : i < j) (hedge : Edge Good lo hi j) (hlong : least ≤ j - i)
    {record : ρ} (hrecord : Tells ⟨i, j⟩ record) :
    Told Good Tells lo hi least j (records ++ [record]) := by
  obtain ⟨runs, hfound, htells⟩ := h
  refine ⟨_, hfound.take hlo hhi hgood hij hedge hlong, ?_⟩
  exact List.rel_append htells (List.Forall₂.cons hrecord List.Forall₂.nil)

theorem Told.pass (h : Told Good Tells lo hi least i records) (hlo : lo ≤ i) (hhi : j ≤ hi)
    (hgood : Good ⟨i, j⟩) (hij : i < j) (hedge : Edge Good lo hi j) (hshort : j - i < least) :
    Told Good Tells lo hi least j records := by
  obtain ⟨runs, hfound, htells⟩ := h
  exact ⟨runs, hfound.pass hlo hhi hgood hij hedge hshort, htells⟩

theorem Told.edge (h : Told Good Tells lo hi least i records) : Edge Good lo hi i := by
  obtain ⟨runs, hfound, _⟩ := h
  exact hfound.edge

end Told

section Alike

variable {ν : Type} {value : ℕ → Option ν} {ok : ν → Prop}

-- The indices of one value, which is a value that counts.
def Alike (ok : ν → Prop) (value : ℕ → Option ν) (s : Stretch) : Prop :=
  ∃ v, ok v ∧ ∀ k, s.start ≤ k → k < s.stop → value k = some v

-- The value changes at the end of a stretch that begins where nothing else goes on.
theorem Alike.edge {v : ν} (hedge : Edge (Alike ok value) lo hi i) (hij : i ≤ j)
    (hall : ∀ k, i ≤ k → k < j → value k = some v) (hend : j < hi → value j ≠ some v) :
    Edge (Alike ok value) lo hi j := by
  intro s hs hlo hhi hstart
  rcases Nat.lt_or_ge s.start i with hlt | hge
  · exact Nat.le_trans (hedge s hs hlo hhi hlt) hij
  · refine Nat.le_of_not_lt fun hstop => hend (Nat.lt_of_lt_of_le hstop hhi) ?_
    obtain ⟨w, _, hw⟩ := hs
    have hfirst := hw s.start (Nat.le_refl _) (Nat.lt_trans hstart hstop)
    rw [hw j (Nat.le_of_lt hstart) hstop, ← hfirst, hall s.start hge hstart]

end Alike

section Loops

variable {ρ : Type}

-- while j < n and test(j): j += 1, for a test that is none where it raises.
def advance (test : ℕ → Option Bool) (n j : ℕ) : Option ℕ :=
  if j < n then do
    if ← test j then advance test n (j + 1) else return j
  else return j
  termination_by n - j

-- What is open ends here, and it is told of when it is long enough.
def flush (least : ℕ) (tell : ℕ → ℕ → Option ρ) (records : List ρ) (start : Option ℕ) (stop : ℕ) :
    Option (List ρ) :=
  match start with
  | none => some records
  | some start =>
      if stop - start < least then some records
      else (tell start stop).map fun record => records ++ [record]

-- A turn of a loop that opens a stretch where the test holds and flushes it where it does not.
def openStep (test : ℕ → Option Bool) (least : ℕ) (tell : ℕ → ℕ → Option ρ)
    (state : Option ℕ × List ρ) (i : ℕ) : Option (Option ℕ × List ρ) := do
  if ← test i then return (some (state.1.getD i), state.2)
  else
    let records ← flush least tell state.2 state.1 i
    return (none, records)

-- The loop from lo on, with the flush that follows it.
def openRuns (test : ℕ → Option Bool) (least : ℕ) (tell : ℕ → ℕ → Option ρ) (lo hi : ℕ) :
    Option (List ρ) := do
  let (start, records) ← (List.range' lo (hi - lo)).foldlM (openStep test least tell) (none, [])
  flush least tell records start hi

section Flushing

variable {Tells : Stretch → ρ → Prop} {least : ℕ} {tell : ℕ → ℕ → Option ρ} {records : List ρ}

theorem Told.flush (h : Told Good Tells lo hi least i records) (hlo : lo ≤ i) (hhi : j ≤ hi)
    (hgood : Good ⟨i, j⟩) (hij : i < j) (hedge : Edge Good lo hi j)
    (htell : ∃ record, tell i j = some record ∧ Tells ⟨i, j⟩ record) :
    ∃ records', Stretch.flush least tell records (some i) j = some records' ∧
      Told Good Tells lo hi least j records' := by
  rw [Stretch.flush]
  by_cases hshort : j - i < least
  · exact ⟨records, if_pos hshort, h.pass hlo hhi hgood hij hedge hshort⟩
  · obtain ⟨record, hrecord, htells⟩ := htell
    refine ⟨records ++ [record], by rw [if_neg hshort, hrecord]; rfl, ?_⟩
    exact h.take hlo hhi hgood hij hedge (Nat.not_lt.mp hshort) htells

end Flushing

theorem advance_spec {test : ℕ → Option Bool} {p : ℕ → Prop} [DecidablePred p] {n j : ℕ}
    (htest : ∀ k < n, test k = some (decide (p k))) (hj : j ≤ n) :
    ∃ stop, advance test n j = some stop ∧ j ≤ stop ∧ stop ≤ n ∧
      (∀ k, j ≤ k → k < stop → p k) ∧ (stop < n → ¬p stop) := by
  induction hrest : n - j generalizing j with
  | zero =>
    have hn : ¬j < n := by omega
    exact ⟨j, by rw [advance, if_neg hn]; rfl, Nat.le_refl j, hj, fun k _ _ => by omega,
      fun h => absurd h hn⟩
  | succ rest ih =>
    have hn : j < n := by omega
    rw [advance, if_pos hn, htest j hn]
    by_cases hp : p j
    · obtain ⟨stop, hstop, hle, hhi, hall, hend⟩ := ih (j := j + 1) hn (by omega)
      refine ⟨stop, by simpa [hp] using hstop, by omega, hhi, fun k hk hlt => ?_, hend⟩
      rcases Nat.eq_or_lt_of_le hk with rfl | hk
      · exact hp
      · exact hall k hk hlt
    · exact ⟨j, by simp [hp], Nat.le_refl j, hj, fun k _ _ => by omega, fun _ => hp⟩

-- A turn of a loop that takes a value as far as it goes.
theorem Told.alike {ν : Type} [DecidableEq ν] {value : ℕ → Option ν} {ok : ν → Prop} {v : ν}
    {Tells : Stretch → ρ → Prop} {tell : ℕ → ℕ → Option ρ} {test : ℕ → Option Bool}
    {records : List ρ} (h : Told (Alike ok value) Tells lo hi least i records) (hlo : lo ≤ i)
    (hhi : i < hi) (hv : value i = some v) (hok : ok v)
    (htest : ∀ k < hi, test k = some (decide (value k = some v)))
    (htell : ∀ j, i < j → j ≤ hi → ∃ record, tell i j = some record ∧ Tells ⟨i, j⟩ record) :
    ∃ j records', advance test hi i = some j ∧ i < j ∧ j ≤ hi ∧
      Stretch.flush least tell records (some i) j = some records' ∧
        Told (Alike ok value) Tells lo hi least j records' := by
  obtain ⟨j, hadvance, hle, hj, hall, hend⟩ := advance_spec htest (Nat.le_of_lt hhi)
  have hij : i < j := by
    refine Nat.lt_of_le_of_ne hle fun heq => ?_
    exact hend (heq ▸ hhi) (heq ▸ hv)
  have hedge := Alike.edge h.edge hle hall hend
  obtain ⟨records', hflush, htold⟩ :=
    h.flush hlo hj ⟨v, hok, hall⟩ hij hedge (htell j hij hj)
  exact ⟨j, records', hadvance, hij, hj, hflush, htold⟩

end Loops

section Opened

variable {ρ : Type} {Tells : Stretch → ρ → Prop} {p : ℕ → Prop}
  {test : ℕ → Option Bool} {tell : ℕ → ℕ → Option ρ} {start : Option ℕ} {records : List ρ}

-- The indices of which the test holds.
def Holds (p : ℕ → Prop) (s : Stretch) : Prop := ∀ k, s.start ≤ k → k < s.stop → p k

theorem Holds.edge (h : i < hi → ¬p i) : Edge (Holds p) lo hi i := by
  intro s hs _ hhi hstart
  rcases Nat.lt_or_ge i s.stop with hlt | hge
  · exact absurd (hs i (Nat.le_of_lt hstart) hlt) (h (Nat.lt_of_lt_of_le hlt hhi))
  · exact hge

-- Before an index, everything is told of but the stretch that is open.
def Opened (p : ℕ → Prop) (Tells : Stretch → ρ → Prop) (lo hi least i : ℕ) :
    Option ℕ × List ρ → Prop
  | (none, records) => Told (Holds p) Tells lo hi least i records
  | (some start, records) =>
      Told (Holds p) Tells lo hi least start records ∧ lo ≤ start ∧ start < i ∧
        Holds p ⟨start, i⟩

section Steps

variable (htell : ∀ a b, lo ≤ a → a < b → b ≤ hi → ∃ record, tell a b = some record ∧
  Tells ⟨a, b⟩ record)

include htell

theorem Opened.flush (h : Opened p Tells lo hi least i (start, records)) (hhi : i ≤ hi)
    (hp : i < hi → ¬p i) :
    ∃ records', Stretch.flush least tell records start i = some records' ∧
      Told (Holds p) Tells lo hi least i records' := by
  cases start with
  | none => exact ⟨records, rfl, h⟩
  | some start =>
    obtain ⟨htold, hlo, hlt, hholds⟩ := h
    exact htold.flush hlo hhi hholds hlt (Holds.edge hp) (htell start i hlo hlt hhi)

variable [DecidablePred p] (htest : ∀ k, lo ≤ k → k < hi → test k = some (decide (p k)))

include htest

theorem Opened.step {state : Option ℕ × List ρ} (h : Opened p Tells lo hi least i state)
    (hlo : lo ≤ i) (hhi : i < hi) :
    ∃ state', openStep test least tell state i = some state' ∧
      Opened p Tells lo hi least (i + 1) state' := by
  obtain ⟨start, records⟩ := state
  rw [openStep, htest i hlo hhi]
  by_cases hp : p i
  · refine ⟨(some (start.getD i), records), by simp [hp], ?_⟩
    cases start with
    | none =>
      refine ⟨h, hlo, Nat.lt_succ_self i, fun k hk hlt => ?_⟩
      rwa [show k = i from Nat.le_antisymm (Nat.le_of_lt_succ hlt) hk]
    | some start =>
      obtain ⟨htold, hlo, hlt, hholds⟩ := h
      refine ⟨htold, hlo, Nat.lt_succ_of_lt hlt, fun k hk hnext => ?_⟩
      rcases Nat.lt_succ_iff_lt_or_eq.mp hnext with hbefore | rfl
      · exact hholds k hk hbefore
      · exact hp
  · obtain ⟨records', hflush, htold⟩ := h.flush htell (Nat.le_of_lt hhi) fun _ => hp
    refine ⟨(none, records'), by simp [hp, hflush], htold.skip fun k hk hgood => ?_⟩
    exact hp (hgood i (Nat.le_refl i) hk)

theorem Opened.run {count : ℕ} {state : Option ℕ × List ρ}
    (h : Opened p Tells lo hi least i state) (hlo : lo ≤ i) (hcount : i + count ≤ hi) :
    ∃ state', (List.range' i count).foldlM (openStep test least tell) state = some state' ∧
      Opened p Tells lo hi least (i + count) state' := by
  induction count generalizing i state with
  | zero => exact ⟨state, rfl, h⟩
  | succ count ih =>
    obtain ⟨next, hstep, hnext⟩ := h.step htell htest hlo (by omega)
    obtain ⟨state', hrun, hstate⟩ := ih hnext (by omega) (by omega)
    refine ⟨state', ?_, by rwa [Nat.add_right_comm, Nat.add_assoc] at hstate⟩
    rw [List.range'_succ, List.foldlM_cons, hstep]
    exact hrun

theorem openRuns_exact (hleast : 0 < least) :
    ∃ records, openRuns test least tell lo hi = some records ∧
      AllTold (Holds p) Tells lo hi least records := by
  have hstart : Opened p Tells lo hi least lo (none, []) := Told.start
  rcases Nat.lt_or_ge hi lo with hempty | hle
  · refine ⟨[], ?_, Told.start.all (by omega)⟩
    rw [openRuns, Nat.sub_eq_zero_of_le (Nat.le_of_lt hempty)]
    rfl
  · obtain ⟨⟨start, records⟩, hrun, hopened⟩ :=
      hstart.run htell htest (Nat.le_refl lo) (Nat.le_of_eq (Nat.add_sub_cancel' hle))
    rw [Nat.add_sub_cancel' hle] at hopened
    obtain ⟨records', hflush, htold⟩ := hopened.flush htell (Nat.le_refl hi)
      fun h => absurd h (Nat.lt_irrefl hi)
    refine ⟨records', ?_, htold.all (by omega)⟩
    rw [openRuns, hrun]
    exact hflush

end Steps

end Opened

end Stretch

end BanchoPrism.Library
