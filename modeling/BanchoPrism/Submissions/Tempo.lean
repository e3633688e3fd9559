import BanchoPrism.Library.Stable
import BanchoPrism.Submissions.Measures

namespace BanchoPrism.Submissions

open Library

-- What the times of some hit objects come to: the earliest start, and the latest end or 0.
structure Spans (objects : List HitObject) (first last : ℚ) : Prop where
  first : IsLeast {q | .finite q ∈ objects.map HitObject.time} first
  last : IsGreatest {q | .finite q ∈ .finite 0 :: objects.map HitObject.endTime} last

-- No start that is first or last of all numbers, no end that is the last of all, and a stretch
-- between them that is a float.
structure Spannable (objects : List HitObject) : Prop where
  first : ∀ o ∈ objects.head?, o.time ≠ .nan
  times : ∀ o ∈ objects, o.time ≠ .infinite true
  ends : ∀ o ∈ objects, o.endTime ≠ .infinite false
  stretch : ∀ first last, Spans objects first last →
    ∃ q, (Number.finite last).sub (.finite first) = .finite q

-- How long each beat of some points lasts: to the next point, and the last to the end of the map.
def lastings (mapEndTime : Number) : List (Number × Number) → List (Number × Number)
  | [] => []
  | (time, beatLength) :: rest =>
      let stop := ((rest.map Prod.fst).head?).getD (mapEndTime.max time)
      (beatLength, (stop.sub time).max (.finite 0)) :: lastings mapEndTime rest

-- How long a beat is in effect, as the floats add up.
def activeFor (mapEndTime : Number) (points : List (Number × Number)) (beatLength : Number) :
    Number :=
  ((lastings mapEndTime points).filter fun lasting => lasting.1 = beatLength).foldl
    (fun total lasting => total.add lasting.2) (.finite 0)

-- The beat that is in effect longest over points in the order of their times, and of those that
-- are as long the earliest. What is no number compares to none, so that the first beat is the
-- one where its own time or the longest is none.
structure Longest (mapEndTime : Number) (points : List (Number × Number)) (beatLength : Number) :
    Prop where
  mem : beatLength ∈ points.map Prod.snd
  longest : ∀ other ∈ points.map Prod.snd,
    (activeFor mapEndTime points beatLength).lt (activeFor mapEndTime points other) = false
  earliest : ∀ other ∈ points.map Prod.snd,
    activeFor mapEndTime points other = activeFor mapEndTime points beatLength →
      activeFor mapEndTime points beatLength ≠ .nan →
        (points.map Prod.snd).idxOf beatLength ≤ (points.map Prod.snd).idxOf other
  known : ∀ first ∈ (points.map Prod.snd).head?,
    activeFor mapEndTime points first = .nan ∨ activeFor mapEndTime points beatLength = .nan →
      beatLength = first

section Spanning

variable {r : Readers} {objects rest : List HitObject} {o : HitObject} {lines : List String}
variable {first last : Number} {x e : ℚ}

theorem foldl_add (objects : List HitObject) (s : Span) (h : s.firstTime = some first) :
    objects.foldl Span.add s =
      { firstTime := some ((objects.map HitObject.time).foldl Number.min first)
        lastEnd := (objects.map HitObject.endTime).foldl Number.max s.lastEnd
        count := s.count + objects.length } := by
  induction objects generalizing s first with
  | nil =>
    cases s
    cases h
    rfl
  | cons o rest ih =>
    have hadd : (s.add o).firstTime = some (first.min o.time) := by
      unfold Span.add
      rw [h]
      rfl
    rw [List.foldl_cons, ih (s.add o) hadd]
    simp only [Span.add, List.map_cons, List.foldl_cons, List.length_cons, Span.mk.injEq, true_and]
    omega

theorem parseHitObjectSpan_nil (h : hitObjectsOf r lines = []) :
    parseHitObjectSpan r lines = invalid "no hit objects" := by
  unfold parseHitObjectSpan
  rw [h]
  rfl

theorem parseHitObjectSpan_cons (h : hitObjectsOf r lines = o :: rest) :
    parseHitObjectSpan r lines =
      match totalLengthOf ((rest.map HitObject.time).foldl Number.min o.time)
        (((o :: rest).map HitObject.endTime).foldl Number.max (.finite 0)) with
      | none => .error .other
      | some totalLength =>
          .ok (totalLength, rest.length + 1,
            ((o :: rest).map HitObject.endTime).foldl Number.max (.finite 0)) := by
  unfold parseHitObjectSpan
  rw [h, List.foldl_cons, foldl_add rest _ rfl]
  simp only [Span.add, List.map_cons, List.foldl_cons, Nat.zero_add]
  cases totalLengthOf ((rest.map HitObject.time).foldl Number.min o.time)
      ((rest.map HitObject.endTime).foldl Number.max ((Number.finite 0).max o.endTime)) with
  | none => rfl
  | some totalLength =>
    have hcount := Nat.add_comm 1 rest.length
    exact congrArg Except.ok (congrArg (Prod.mk totalLength) (congrArg (Prod.mk · _) hcount))

theorem totalLengthOf_none (h : first = .nan ∨ first = .infinite true ∨ last = .infinite false) :
    totalLengthOf first last = none := by
  have hnan : totalLengthOf .nan last = none := by
    cases last <;> rfl
  have hlow : totalLengthOf (.infinite true) last = none := by
    cases last with
    | infinite negative => cases negative <;> rfl
    | _ => rfl
  have hhigh : totalLengthOf first (.infinite false) = none := by
    cases first with
    | infinite negative => cases negative <;> rfl
    | _ => rfl
  rcases h with rfl | rfl | rfl
  · exact hnan
  · exact hlow
  · exact hhigh

theorem div_thousand (q : ℚ) : (Number.finite q).div (.finite 1000) = some (.ofRat (q / 1000)) := by
  rfl

-- A stretch that is a float is a number of seconds.
theorem totalLengthOf_finite (hle : x ≤ e) :
    totalLengthOf (.finite x) (.finite e) = none ∧
        (∀ q, (Number.finite e).sub (.finite x) ≠ .finite q) ∨
      ∃ q n, (Number.finite e).sub (.finite x) = .finite q ∧
        (Number.finite q).div (.finite 1000) = some (.finite n) ∧
          0 ≤ n ∧ totalLengthOf (.finite x) (.finite e) = some ⌈n⌉ := by
  have hnonneg : 0 ≤ nearest (e + -x) := nearest_nonneg (by linarith)
  have hsub : (Number.finite e).sub (.finite x) = .ofRat (e + -x) := rfl
  unfold totalLengthOf
  rw [hsub]
  cases hq : Number.ofRat (e + -x) with
  | nan =>
    unfold Number.ofRat at hq
    split at hq <;> cases hq
  | infinite negative =>
    left
    have hpositive : negative = false := by
      unfold Number.ofRat at hq
      split at hq
      · cases hq
      · rw [← Number.infinite.inj hq, decide_eq_false_iff_not]
        linarith
    subst hpositive
    exact ⟨rfl, by simp⟩
  | finite q =>
    right
    obtain ⟨hbound, rfl⟩ := Number.ofRat_eq_finite.mp hq
    have hmax : (Number.finite (nearest (e + -x))).max (.finite 0) =
        .finite (nearest (e + -x)) := by
      unfold Number.max Number.lt
      rw [if_neg]
      simpa using hnonneg
    have hseconds : 0 ≤ nearest (nearest (e + -x) / 1000) := nearest_nonneg (by positivity)
    have hdiv : Number.ofRat (nearest (e + -x) / 1000) =
        .finite (nearest (nearest (e + -x) / 1000)) := by
      apply Number.ofRat_eq_finite.mpr
      refine ⟨?_, rfl⟩
      rw [abs_of_nonneg hseconds]
      rw [abs_of_nonneg hnonneg] at hbound
      rcases lt_or_eq_of_le hnonneg with hpos | hzero
      · have hhalf : nearest (e + -x) / 1000 ≤ 2 ^ 1023 := by
          rw [div_le_iff₀ (by norm_num)]
          calc nearest (e + -x) ≤ 2 ^ 1024 := hbound.le
            _ = 2 ^ 1023 * 2 := pow_succ 2 1023
            _ ≤ 2 ^ 1023 * 1000 := by
              apply mul_le_mul_of_nonneg_left (by norm_num)
              positivity
        have hself : nearest (2 ^ 1023) = 2 ^ 1023 := by decide +kernel
        calc nearest (nearest (e + -x) / 1000) ≤ nearest (2 ^ 1023) :=
              nearest_mono (by positivity) hhalf
          _ = 2 ^ 1023 := hself
          _ < 2 ^ 1024 := by
            apply pow_lt_pow_right₀ (by norm_num) (by omega)
      · rw [← hzero, zero_div, nearest_zero]
        positivity
    refine ⟨_, _, rfl, ?_, hseconds, ?_⟩
    · rw [div_thousand, hdiv]
    · rw [hmax, div_thousand, hdiv]
      rfl

theorem endTime_of_readHitObject {line : String} (h : readHitObject r line = some o) :
    o.endTime = o.time ∨ o.time.lt o.endTime := by
  have hmax (time endTime : Number) :
      time.max endTime = time ∨ time.lt (time.max endTime) := by
    unfold Number.max
    split
    case isTrue hlt => exact Or.inr hlt
    case isFalse => exact Or.inl rfl
  unfold readHitObject at h
  split at h
  · obtain ⟨time, -, h⟩ := Option.bind_eq_some_iff.mp h
    obtain ⟨objectType, -, h⟩ := Option.bind_eq_some_iff.mp h
    cases h
    dsimp only
    unfold hitObjectEndTime
    split
    · split
      · exact Or.inl rfl
      · dsimp only
        generalize readFloat r _ = endTime
        cases endTime with
        | some endTime => exact hmax time endTime
        | none => exact Or.inl rfl
    · exact Or.inl rfl
  · cases h

-- Objects of which no time is beyond all numbers have a first start and a last end.
theorem exists_spans (hobjects : hitObjectsOf r lines = o :: rest) (hfirst : o.time ≠ .nan)
    (htimes : ∀ other ∈ o :: rest, other.time ≠ .infinite true)
    (hends : ∀ other ∈ o :: rest, other.endTime ≠ .infinite false) :
    ∃ x e, Spans (o :: rest) x e ∧ x ≤ e ∧
      (rest.map HitObject.time).foldl Number.min o.time = .finite x ∧
        ((o :: rest).map HitObject.endTime).foldl Number.max (.finite 0) = .finite e := by
  have hread : ∀ other ∈ o :: rest, other.endTime = other.time ∨ other.time.lt other.endTime := by
    intro other hother
    rw [← hobjects] at hother
    obtain ⟨line, -, hline⟩ := List.mem_filterMap.mp hother
    exact endTime_of_readHitObject hline
  have hlow : Number.infinite true ∉ rest.map HitObject.time := by
    intro hmem
    obtain ⟨other, hother, heq⟩ := List.mem_map.mp hmem
    exact htimes other (List.mem_cons_of_mem _ hother) heq
  have hhigh : Number.infinite false ∉ (o :: rest).map HitObject.endTime := by
    intro hmem
    obtain ⟨other, hother, heq⟩ := List.mem_map.mp hmem
    exact hends other hother heq
  obtain ⟨t, ht⟩ : ∃ t, o.time = .finite t := by
    cases htime : o.time with
    | finite t => exact ⟨t, rfl⟩
    | nan => exact absurd htime hfirst
    | infinite negative =>
      cases negative with
      | true => exact absurd htime (htimes o List.mem_cons_self)
      | false =>
        exfalso
        apply hends o List.mem_cons_self
        rcases hread o List.mem_cons_self with hsame | hlt
        · rw [hsame, htime]
        · rw [htime, Number.infinite_lt] at hlt
          cases hlt
  obtain ⟨x, hx, hleast⟩ := Number.foldl_min hlow t
  obtain ⟨e, he, hgreatest⟩ := Number.foldl_max hhigh 0
  rw [← ht] at hx hleast
  refine ⟨x, e, ⟨hleast, hgreatest⟩, ?_, hx, he⟩
  obtain ⟨other, hother, htime⟩ := List.mem_map.mp
    (show Number.finite x ∈ (o :: rest).map HitObject.time from hleast.1)
  have hle (q : ℚ) (hend : other.endTime = .finite q) : q ≤ e := by
    apply hgreatest.2
    rw [Set.mem_ofPred_eq, ← hend]
    exact List.mem_cons_of_mem _ (List.mem_map_of_mem hother)
  rcases hread other hother with hsame | hlt
  · exact hle x (hsame.trans htime)
  · rw [htime] at hlt
    cases hend : other.endTime with
    | nan =>
      rw [hend] at hlt
      cases hlt
    | infinite negative =>
      cases negative with
      | true =>
        rw [hend] at hlt
        cases hlt
      | false => exact absurd hend (hends other hother)
    | finite q =>
      rw [hend] at hlt
      exact (of_decide_eq_true hlt).le.trans (hle q hend)

theorem Spans.unique {x' e' : ℚ} (h : Spans objects x e) (h' : Spans objects x' e') :
    x' = x ∧ e' = e := ⟨h'.first.unique h.first, h'.last.unique h.last⟩

-- The span of some objects, where it is taken.
structure Spanned (r : Readers) (lines : List String) (n : ℚ) (x e : ℚ) : Prop where
  spans : Spans (hitObjectsOf r lines) x e
  seconds : ((Number.finite e).sub (.finite x)).div (.finite 1000) = some (.finite n)
  nonneg : 0 ≤ n
  run : parseHitObjectSpan r lines = .ok (⌈n⌉, (hitObjectsOf r lines).length, .finite e)

theorem parseHitObjectSpan_cases (r : Readers) (lines : List String) :
    (hitObjectsOf r lines = [] ∧ Spannable (hitObjectsOf r lines) ∧
        parseHitObjectSpan r lines = invalid "no hit objects") ∨
      (¬Spannable (hitObjectsOf r lines) ∧ parseHitObjectSpan r lines = .error .other) ∨
        Spannable (hitObjectsOf r lines) ∧ ∃ n x e, Spanned r lines n x e := by
  cases hobjects : hitObjectsOf r lines with
  | nil =>
    left
    refine ⟨rfl, ⟨by simp, by simp, by simp, ?_⟩, parseHitObjectSpan_nil hobjects⟩
    rintro first last ⟨hfirst, -⟩
    have hmem := hfirst.1
    simp at hmem
  | cons o rest =>
    right
    have hrun := parseHitObjectSpan_cons hobjects
    by_cases hfirst : o.time = .nan
    · left
      refine ⟨fun h => h.first o rfl hfirst, ?_⟩
      rw [hrun, totalLengthOf_none]
      left
      rw [hfirst, Number.foldl_min_nan]
    by_cases htimes : ∀ other ∈ o :: rest, other.time ≠ .infinite true
    · by_cases hends : ∀ other ∈ o :: rest, other.endTime ≠ .infinite false
      · obtain ⟨x, e, hspans, hle, hx, he⟩ := exists_spans hobjects hfirst htimes hends
        rw [hx, he] at hrun
        rcases totalLengthOf_finite hle with ⟨hnone, hstretch⟩ | ⟨q, n, hsub, hdiv, hn, htotal⟩
        · left
          rw [hrun, hnone]
          refine ⟨?_, rfl⟩
          intro h
          obtain ⟨q, hq⟩ := h.stretch x e hspans
          exact hstretch q hq
        · right
          refine ⟨⟨?_, htimes, hends, ?_⟩, n, x, e, ?_, by rw [hsub, hdiv], hn, ?_⟩
          · intro other hother
            cases hother
            exact hfirst
          · intro x' e' hspans'
            obtain ⟨rfl, rfl⟩ := hspans.unique hspans'
            exact ⟨q, hsub⟩
          · rw [hobjects]
            exact hspans
          · rw [hrun, htotal, hobjects]
            rfl
      · left
        push Not at hends
        obtain ⟨other, hother, hend⟩ := hends
        refine ⟨fun h => h.ends other hother hend, ?_⟩
        rw [hrun, totalLengthOf_none]
        right
        right
        apply Number.foldl_max_of_mem (by simp)
        rw [← hend]
        exact List.mem_cons_of_mem _ (List.mem_map_of_mem hother)
    · left
      push Not at htimes
      obtain ⟨other, hother, htime⟩ := htimes
      refine ⟨fun h => h.times other hother htime, ?_⟩
      rw [hrun, totalLengthOf_none]
      right
      left
      apply Number.foldl_min_of_mem hfirst
      rw [← htime]
      exact List.mem_map_of_mem hother

end Spanning

section Beating

variable {r : Readers} {points : List (Number × Number)} {lines : List String}
variable {mapEndTime beatLength bpm : Number}

theorem mem_durations_addAll (t : Tempos) (index : Nat) (k : Number) :
    k ∈ (t.addAll mapEndTime index points).durations.map Prod.fst ↔
      k ∈ t.durations.map Prod.fst ∨ k ∈ points.map Prod.snd := by
  induction points generalizing t index with
  | nil => simp [Tempos.addAll]
  | cons point rest ih =>
    obtain ⟨time, beatLength⟩ := point
    unfold Tempos.addAll
    rw [ih]
    simp only [Tempos.add, mem_keys_dictSet, List.map_cons, List.mem_cons, or_assoc]

theorem head?_addAll (t : Tempos) (index : Nat) :
    ((t.addAll mapEndTime index points).durations.map Prod.fst).head? =
      (t.durations.map Prod.fst).head?.or (points.map Prod.snd).head? := by
  induction points generalizing t index with
  | nil => simp [Tempos.addAll]
  | cons point rest ih =>
    unfold Tempos.addAll
    rw [ih, Tempos.add, head?_dictSet, Option.or_assoc, List.map_cons, List.head?_cons,
      Option.some_or]

theorem durations_addAll (t : Tempos) (index : Nat) (beatLength : Number) :
    ((t.addAll mapEndTime index points).durations.lookup beatLength).getD (.finite 0) =
      ((lastings mapEndTime points).filter fun lasting => lasting.1 = beatLength).foldl
        (fun total lasting => total.add lasting.2)
        ((t.durations.lookup beatLength).getD (.finite 0)) := by
  induction points generalizing t index with
  | nil => rfl
  | cons point rest ih =>
    obtain ⟨time, beat⟩ := point
    unfold Tempos.addAll
    rw [ih, lastings, Tempos.add, lookup_dictSet]
    by_cases heq : beat = beatLength
    · subst heq
      rw [if_pos rfl, List.filter_cons_of_pos (by simp), List.foldl_cons, Option.getD_some]
      cases rest <;> rfl
    · rw [if_neg heq, List.filter_cons_of_neg (by simpa using heq)]

theorem firstSeen_addAll (t : Tempos) (index : Nat) :
    (t.addAll mapEndTime index points).firstSeen =
      ((points.map Prod.snd).zipIdx index).foldl setDefault t.firstSeen := by
  induction points generalizing t index with
  | nil => rfl
  | cons point rest ih =>
    unfold Tempos.addAll
    rw [ih, List.map_cons, List.zipIdx_cons, List.foldl_cons]
    rfl

-- What max() compares of two beats.
theorem exceeds_iff (t : Tempos) (a b : Number) :
    t.exceeds a b ↔
      ((t.durations.lookup b).getD (.finite 0)).lt ((t.durations.lookup a).getD (.finite 0)) ∨
        (t.durations.lookup a).getD (.finite 0) = (t.durations.lookup b).getD (.finite 0) ∧
          (t.durations.lookup a).getD (.finite 0) ≠ .nan ∧
            (t.firstSeen.lookup a).getD 0 < (t.firstSeen.lookup b).getD 0 := by
  unfold Tempos.exceeds
  dsimp only
  split
  · rename_i hsame
    rw [hsame.1, Number.lt_irrefl, decide_eq_true_eq]
    rw [hsame.1] at hsame
    simp [hsame.2]
  · rename_i hdiffer
    refine ⟨Or.inl, ?_⟩
    rintro (hlt | ⟨hsame, hnan, -⟩)
    · exact hlt
    · exact absurd ⟨hsame, hnan⟩ hdiffer

theorem exceeds_irrefl (t : Tempos) (a : Number) : t.exceeds a a = false := by
  rw [Bool.eq_false_iff]
  intro h
  rcases (exceeds_iff t a a).mp h with hlt | ⟨-, -, hseen⟩
  · rw [Number.lt_irrefl] at hlt
    cases hlt
  · exact absurd hseen (lt_irrefl _)

theorem exceeds_trans (t : Tempos) (a b c : Number) (hab : t.exceeds a b)
    (hbc : t.exceeds b c) : t.exceeds a c := by
  rw [exceeds_iff] at *
  rcases hab with hab | ⟨hsame, hnan, hseen⟩
  · rcases hbc with hbc | ⟨hsame', -, -⟩
    · exact Or.inl (Number.lt_trans hbc hab)
    · exact Or.inl (hsame' ▸ hab)
  · rcases hbc with hbc | ⟨hsame', -, hseen'⟩
    · exact Or.inl (hsame ▸ hbc)
    · exact Or.inr ⟨hsame.trans hsame', hnan, hseen.trans hseen'⟩

-- The same of two beats that some points give, by what they come to.
theorem exceeds_addAll {a b : Number} (ha : a ∈ points.map Prod.snd)
    (hb : b ∈ points.map Prod.snd) :
    (Tempos.addAll mapEndTime { durations := [], firstSeen := [] } 0 points).exceeds a b ↔
      (activeFor mapEndTime points b).lt (activeFor mapEndTime points a) ∨
        activeFor mapEndTime points a = activeFor mapEndTime points b ∧
          activeFor mapEndTime points a ≠ .nan ∧
            (points.map Prod.snd).idxOf a < (points.map Prod.snd).idxOf b := by
  have hseen (beat : Number) (hbeat : beat ∈ points.map Prod.snd) :
      ((Tempos.addAll mapEndTime { durations := [], firstSeen := [] } 0
        points).firstSeen.lookup beat).getD 0 = (points.map Prod.snd).idxOf beat := by
    rw [firstSeen_addAll, lookup_foldl_setDefault, if_pos hbeat]
    simp
  rw [exceeds_iff, hseen a ha, hseen b hb, durations_addAll, durations_addAll]
  rfl

-- The beat that is found is the one that is in effect longest.
theorem dominant_addAll (hpoints : points ≠ []) (mapEndTime : Number) :
    ∃ beatLength,
      (Tempos.addAll mapEndTime { durations := [], firstSeen := [] } 0 points).dominant =
          some beatLength ∧
        Longest mapEndTime points beatLength := by
  generalize ht : Tempos.addAll mapEndTime { durations := [], firstSeen := [] } 0 points = t
  have hkeys (k : Number) : k ∈ t.durations.map Prod.fst ↔ k ∈ points.map Prod.snd := by
    rw [← ht, mem_durations_addAll]
    simp
  have hhead : (t.durations.map Prod.fst).head? = (points.map Prod.snd).head? := by
    rw [← ht, head?_addAll]
    rfl
  unfold Tempos.dominant
  cases hdurations : t.durations.map Prod.fst with
  | nil =>
    obtain ⟨point, rest, rfl⟩ := List.exists_cons_of_ne_nil hpoints
    rw [hdurations] at hhead
    cases hhead
  | cons first rest =>
    rw [hdurations] at hkeys hhead
    obtain ⟨hmem, hfirst, hmax⟩ :=
      foldl_exceeds (exceeds_irrefl t) (exceeds_trans t) first rest
    dsimp only at hmem hfirst hmax ⊢
    generalize rest.foldl _ first = best at hmem hfirst hmax ⊢
    have hbest := (hkeys best).mp hmem
    have hnot (other : Number) (hother : other ∈ points.map Prod.snd) :
        ¬t.exceeds other best := by
      rw [hmax other ((hkeys other).mpr hother)]
      exact Bool.false_ne_true
    have hother (other : Number) (hother : other ∈ points.map Prod.snd) := by
      have hbelow := hnot other hother
      rw [← ht, exceeds_addAll hother hbest, not_or] at hbelow
      exact hbelow
    refine ⟨best, rfl, hbest, fun other hmem => ?_, fun other hmem hsame hnan => ?_, ?_⟩
    · exact Bool.eq_false_iff.mpr (hother other hmem).1
    · by_contra hlate
      exact (hother other hmem).2 ⟨hsame, hsame ▸ hnan, not_le.mp hlate⟩
    · intro head hmem hnan
      rw [← hhead] at hmem
      cases hmem
      rcases hfirst with heq | hexceeds
      · exact heq
      · have hfirst := (hkeys first).mp List.mem_cons_self
        rw [← ht, exceeds_addAll hbest hfirst] at hexceeds
        rcases hexceeds with hlt | ⟨hsame, hbest, -⟩
        · rcases hnan with hnan | hnan
          · rw [hnan] at hlt
            cases hlt
          · rw [hnan] at hlt
            cases h : activeFor mapEndTime points first <;> rw [h] at hlt <;> cases hlt
        · exact absurd (hnan.elim hsame.trans id) hbest

theorem exists_dominantBeatLength (hsorted : (r.sorted points).Perm points) (hpoints : points ≠ [])
    (mapEndTime : Number) :
    ∃ beatLength, dominantBeatLength r points mapEndTime = some beatLength ∧
      Longest mapEndTime (r.sorted points) beatLength := by
  apply dominant_addAll
  intro hnil
  rw [hnil] at hsorted
  exact hpoints hsorted.nil_eq.symm

-- Only one beat is the one that is in effect longest.
theorem Longest.unique (h : Longest mapEndTime points beatLength) {other : Number}
    (h' : Longest mapEndTime points other) : beatLength = other := by
  obtain ⟨first, rest, hpoints⟩ := List.exists_cons_of_ne_nil (List.ne_nil_of_mem h.mem)
  have hhead : first ∈ (points.map Prod.snd).head? := by
    rw [hpoints]
    rfl
  by_cases hnan : activeFor mapEndTime points beatLength = .nan
  · have hfirst := h.known first hhead (Or.inr hnan)
    rw [hfirst] at hnan
    rw [hfirst, h'.known first hhead (Or.inl hnan)]
  · by_cases hnan' : activeFor mapEndTime points other = .nan
    · have hfirst := h'.known first hhead (Or.inr hnan')
      rw [hfirst] at hnan'
      rw [hfirst, h.known first hhead (Or.inl hnan')]
    · have hsame := Number.eq_of_not_lt hnan hnan' (h.longest other h'.mem)
        (h'.longest beatLength h.mem)
      exact (List.idxOf_inj h.mem).mp (le_antisymm (h.earliest other h'.mem hsame.symm hnan)
        (h'.earliest beatLength h.mem hsame hnan'))

theorem timingPointsOf_pos (r : Readers) (lines : List String) :
    ∀ point ∈ timingPointsOf r lines, (Number.finite 0).lt point.2 := by
  intro point hpoint
  obtain ⟨line, -, hline⟩ := List.mem_filterMap.mp hpoint
  unfold readTimingPoint at hline
  split at hline
  · obtain ⟨time, -, hline⟩ := Option.bind_eq_some_iff.mp hline
    obtain ⟨beat, -, hline⟩ := Option.bind_eq_some_iff.mp hline
    obtain ⟨hkept, hpoint⟩ := Option.ite_none_right_eq_some.mp hline
    cases hpoint
    exact (Bool.and_eq_true_iff.mp hkept).2
  · cases hline

-- The tempo of a beat: none is infinite but that of a beat too short.
theorem div_beatLength (h : (Number.finite 0).lt beatLength) :
    ∃ quotient, (Number.finite 60000).div beatLength = some quotient ∧
      ((∃ x, quotient.roundCents = .finite x ∧ 0 ≤ x ∧ x < 10 ^ 10) ↔
        ∃ q, quotient = .finite q ∧ q < 9999999999.995) := by
  cases beatLength with
  | nan => cases h
  | infinite negative =>
    refine ⟨.finite 0, rfl, ?_⟩
    rw [Number.roundCents_lt_iff le_rfl]
    constructor
    · intro _
      exact ⟨0, rfl, by norm_num⟩
    · intro _
      norm_num
  | finite beat =>
    have hbeat : 0 < beat := of_decide_eq_true h
    have hdiv : (Number.finite 60000).div (.finite beat) = some (.ofRat (60000 / beat)) := by
      unfold Number.div
      split
      · rename_i heq
        rw [Number.finite.inj heq] at hbeat
        exact absurd hbeat (lt_irrefl _)
      · rename_i p q _ hp hq
        rw [← Number.finite.inj hp, ← Number.finite.inj hq]
      all_goals simp_all
    refine ⟨_, hdiv, ?_⟩
    cases hquotient : Number.ofRat (60000 / beat) with
    | finite q =>
      obtain ⟨-, rfl⟩ := Number.ofRat_eq_finite.mp hquotient
      rw [Number.roundCents_lt_iff (nearest_nonneg (by positivity))]
      simp
    | _ => simp [Number.roundCents]

-- The map's tempo, where there is a point that gives one.
theorem parseBpm_cases (hsorted : ∀ points, (r.sorted points).Perm points) (lines : List String)
    (mapEndTime : Number) :
    (timingPointsOf r lines = [] ∧
        parseBpm r lines mapEndTime = invalid "no uninherited timing points") ∨
      timingPointsOf r lines ≠ [] ∧ ∃ beatLength quotient,
        Longest mapEndTime (r.sorted (timingPointsOf r lines)) beatLength ∧
          (Number.finite 60000).div beatLength = some quotient ∧
            parseBpm r lines mapEndTime = .ok quotient.roundCents ∧
              ((∃ x, quotient.roundCents = .finite x ∧ 0 ≤ x ∧ x < 10 ^ 10) ↔
                ∃ q, quotient = .finite q ∧ q < 9999999999.995) := by
  unfold parseBpm
  by_cases hpoints : timingPointsOf r lines = []
  · left
    rw [hpoints]
    exact ⟨rfl, rfl⟩
  · right
    obtain ⟨beatLength, hdominant, hlongest⟩ :=
      exists_dominantBeatLength (hsorted _) hpoints mapEndTime
    obtain ⟨point, hpoint, rfl⟩ :=
      List.mem_map.mp (((hsorted _).map Prod.snd).mem_iff.mp hlongest.mem)
    obtain ⟨quotient, hdiv, hiff⟩ := div_beatLength (timingPointsOf_pos r lines point hpoint)
    refine ⟨hpoints, point.2, quotient, hlongest, hdiv, ?_, hiff⟩
    dsimp only
    rw [if_neg (by simpa using hpoints), hdominant, Option.bind_some, hdiv]

end Beating

end BanchoPrism.Submissions
