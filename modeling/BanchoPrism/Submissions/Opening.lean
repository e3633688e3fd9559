import BanchoPrism.Submissions.Submitting

namespace BanchoPrism.Submissions

open Library

-- A name that stays below the directory it is joined to, by either separator.
structure SafeName (name : List Char) : Prop where
  nonempty : name ≠ []
  noNul : '\x00' ∉ name
  relative : ∀ c, name.head? = some c → isSlash c = false
  noDrive : ∀ c, name.head? = some c → c.isAlpha → name[1]? ≠ some ':'
  noEscape : ['.', '.'] ∉ name.splitOnP isSlash

-- The mode in the high half of the attributes begins with the type of a symbolic link.
def ZipInfo.Links (info : ZipInfo) : Prop := info.externalAttr / 2 ^ 28 % 2 ^ 4 = 0o12

-- The checks of read_osz that come before a member is read.
structure Admitted (b : Builtins) (limits : OszLimits) (osz : Osz) (infos : List ZipInfo) :
    Prop where
  size : osz.size ≤ limits.maxArchiveBytes
  listed : osz.infolist = .ok infos
  count : infos.length ≤ limits.maxMemberCount
  total : (infos.map ZipInfo.fileSize).sum ≤ limits.maxTotalUncompressedBytes
  valid : ∀ info ∈ infos, validateMember b limits info = .ok ()
  nonempty : infos.filter ZipInfo.isOsu ≠ []
  osuCount : (infos.filter ZipInfo.isOsu).length ≤ limits.maxOsuFileCount

-- The loop over the difficulties comes to no member that zipfile cannot read:
-- each is read, or one before it is refused for its size or its encoding.
def Readable (limits : OszLimits) : List ZipInfo → Prop
  | [] => True
  | info :: rest =>
      limits.maxOsuFileBytes < info.fileSize ∨
        ∃ raw, info.content = some raw ∧ (decodeUtf8Sig raw = none ∨ Readable limits rest)

-- Every difficulty is within the limit, and read as UTF-8.
def Decoded (limits : OszLimits) (infos : List ZipInfo) : Prop :=
  ∀ info ∈ infos, info.fileSize ≤ limits.maxOsuFileBytes ∧
    ∃ raw text, info.content = some raw ∧ decodeUtf8Sig raw = some text

-- An archive whose members read as they are told to.
def Osz.withContent (osz : Osz) (content : ZipInfo → Option (List UInt8)) : Osz :=
  { osz with
    infolist := osz.infolist.map fun infos =>
      infos.map fun info => { info with content := content info } }

-- Each member is written as its replacement, or under its name with its bytes.
def Rebuilt (replacements : List (String × OszOsuMember)) (infos : List ZipInfo)
    (entries : List Entry) : Prop :=
  List.Forall₂ (fun info entry =>
    match replacements.lookup info.filename with
    | some replacement => entry = { name := replacement.name, data := encodeUtf8 replacement.text }
    | none => entry.name = info.filename ∧ info.content = some entry.data) infos entries

-- What the reading and the rebuilding of an archive are to do.
structure OpensAsDeclared (b : Builtins) (limits : OszLimits) (osz : Osz)
    (replacements : List (String × OszOsuMember)) : Prop where
  documented : ∀ e, readOsz b limits osz = .error e → ∃ detail, e = .documented detail
  safe : ∀ members, readOsz b limits osz = .ok members → ∃ infos, osz.infolist = .ok infos ∧
    members.map OszOsuMember.name = (infos.filter ZipInfo.isOsu).map ZipInfo.filename ∧
    ∀ info ∈ infos, SafeName info.filename.toList ∧ ¬info.Links
  limited : ∀ infos, osz.infolist = .ok infos →
    (limits.maxMemberCount < infos.length ∨
      limits.maxTotalUncompressedBytes < (infos.map ZipInfo.fileSize).sum) →
    ∃ detail, ∀ content, readOsz b limits (osz.withContent content) = .error (.documented detail)
  rebuilt : ∀ members, readOsz b limits osz = .ok members → ∃ infos entries,
    osz.infolist = .ok infos ∧ repackOsz osz replacements = some entries ∧
      Rebuilt replacements infos entries

section Members

variable {b : Builtins} {limits : OszLimits} {osz : Osz} {infos : List ZipInfo} {info : ZipInfo}

theorem isSymlink_iff : info.isSymlink = true ↔ info.Links := by
  -- the four bits of the mask alone are left
  have hmask : (info.externalAttr >>> 16) &&& 0o170000 =
      (info.externalAttr / 2 ^ 28 % 2 ^ 4) <<< 12 := by
    have hbits : 0o170000 = (2 ^ 4 - 1) <<< 12 := by decide
    rw [← Nat.and_two_pow_sub_one_eq_mod, Nat.shiftLeft_and_distrib, hbits,
      ← Nat.shiftRight_eq_div_pow]
    apply Nat.eq_of_testBit_eq
    intro i
    simp only [Nat.testBit_and, Nat.testBit_shiftRight, Nat.testBit_shiftLeft]
    by_cases hi : 12 ≤ i
    · have hsame : 16 + i = 28 + (i - 12) := by omega
      simp [hi, hsame]
    · simp [hi]
  rw [ZipInfo.isSymlink, decide_eq_true_eq, hmask, ZipInfo.Links, symlinkType, Nat.shiftLeft_eq]
  omega

theorem safeName_of_validate (h : validateMember b limits info = .ok ()) :
    SafeName info.filename.toList ∧ ¬info.Links := by
  unfold validateMember at h
  simp only [refused] at h
  split at h
  · cases h
  rename_i hnonempty
  split at h
  · cases h
  rename_i hnul
  split at h
  · cases h
  rename_i habsolute
  split at h
  · cases h
  rename_i hdrive
  split at h
  · cases h
  rename_i hescape
  split at h
  · cases h
  rename_i hsymlink
  refine ⟨?_, fun hlinks => hsymlink (isSymlink_iff.mpr hlinks)⟩
  exact {
    nonempty := by simpa using hnonempty
    noNul := hnul
    relative := fun c hc => by
      simp only [isAbsolute, hc] at habsolute
      simp at habsolute
      exact habsolute.1
    noDrive := fun c hc halpha => by
      simpa only [hasDrive, hc, Option.map_some, Option.getD_some, halpha, Bool.true_and,
        decide_eq_true_eq] using hdrive
    noEscape := hescape }

theorem validate_documented {e : Raised} (h : validateMember b limits info = .error e) :
    ∃ detail, e = .documented detail := by
  unfold validateMember refused at h
  dsimp only at h
  split at h
  · exact ⟨_, (Except.error.inj h).symm⟩
  split at h
  · exact ⟨_, (Except.error.inj h).symm⟩
  split at h
  · exact ⟨_, (Except.error.inj h).symm⟩
  split at h
  · exact ⟨_, (Except.error.inj h).symm⟩
  split at h
  · exact ⟨_, (Except.error.inj h).symm⟩
  split at h
  · exact ⟨_, (Except.error.inj h).symm⟩
  split at h
  · exact ⟨_, (Except.error.inj h).symm⟩
  · cases h

theorem forM_validate :
    (infos.forM (validateMember b limits) = .ok () ∧
      ∀ info ∈ infos, validateMember b limits info = .ok ()) ∨
    ∃ detail, infos.forM (validateMember b limits) = .error (.documented detail) ∧
      ∃ info ∈ infos, validateMember b limits info ≠ .ok () := by
  induction infos with
  | nil => exact Or.inl ⟨rfl, fun info hinfo => absurd hinfo List.not_mem_nil⟩
  | cons info rest ih =>
    have hcons : (info :: rest).forM (validateMember b limits) =
        (validateMember b limits info >>= fun _ => rest.forM (validateMember b limits)) := rfl
    rw [hcons]
    cases hinfo : validateMember b limits info with
    | error e =>
      obtain ⟨detail, rfl⟩ := validate_documented hinfo
      exact Or.inr ⟨detail, rfl, info, List.mem_cons_self, by rw [hinfo]; exact fun h => by cases h⟩
    | ok _ =>
      rcases ih with ⟨hrest, hall⟩ | ⟨detail, hrest, other, hother, hbad⟩
      · refine Or.inl ⟨hrest, fun other hother => ?_⟩
        rcases List.mem_cons.mp hother with rfl | hmem
        · exact hinfo
        · exact hall other hmem
      · exact Or.inr ⟨detail, hrest, other, List.mem_cons_of_mem info hother, hbad⟩

-- What the checks of the central directory come to.
theorem readOsz_of_infos (hsize : ¬limits.maxArchiveBytes < osz.size)
    (hinfos : osz.infolist = .ok infos) :
    readOsz b limits osz =
      if limits.maxMemberCount < infos.length then
        refused s!"archive holds {infos.length} members, over the {limits.maxMemberCount} limit"
      else if limits.maxTotalUncompressedBytes < (infos.map ZipInfo.fileSize).sum then
        refused (s!"archive expands to {(infos.map ZipInfo.fileSize).sum} bytes, over the " ++
          s!"{limits.maxTotalUncompressedBytes} byte limit")
      else infos.forM (validateMember b limits) >>= fun _ =>
        if (infos.filter ZipInfo.isOsu).isEmpty then
          refused "archive holds no .osu difficulty files"
        else if limits.maxOsuFileCount < (infos.filter ZipInfo.isOsu).length then
          refused
            (s!"archive holds {(infos.filter ZipInfo.isOsu).length} difficulties, over the " ++
              s!"{limits.maxOsuFileCount} limit")
        else (infos.filter ZipInfo.isOsu).mapM (readMember b limits) := by
  unfold readOsz
  rw [if_neg hsize, hinfos]
  simp only [Except.mapError, bind, Except.bind, refused]

-- Without an error at a check the difficulties are read, and a check that
-- fails is documented.
theorem readOsz_cases :
    (∃ infos, Admitted b limits osz infos ∧
      readOsz b limits osz = (infos.filter ZipInfo.isOsu).mapM (readMember b limits)) ∨
    (∀ infos, ¬Admitted b limits osz infos) ∧
      ∃ detail, readOsz b limits osz = .error (.documented detail) := by
  by_cases hsize : limits.maxArchiveBytes < osz.size
  · refine Or.inr ⟨fun infos h => absurd h.size (not_le.mpr hsize), ?_⟩
    unfold readOsz
    rw [if_pos hsize]
    exact ⟨_, rfl⟩
  cases hinfos : osz.infolist with
  | error e =>
    refine Or.inr ⟨fun infos h => ?_, ?_⟩
    · have hlisted := h.listed
      rw [hinfos] at hlisted
      cases hlisted
    · unfold readOsz
      rw [if_neg hsize, hinfos]
      exact ⟨_, rfl⟩
  | ok infos =>
    have hsame {other : List ZipInfo} (h : Admitted b limits osz other) : other = infos :=
      Except.ok.inj (h.listed.symm.trans hinfos)
    rw [readOsz_of_infos hsize hinfos]
    by_cases hcount : limits.maxMemberCount < infos.length
    · rw [if_pos hcount]
      exact Or.inr ⟨fun other h => absurd (hsame h ▸ h.count) (not_le.mpr hcount), _, rfl⟩
    rw [if_neg hcount]
    by_cases htotal : limits.maxTotalUncompressedBytes < (infos.map ZipInfo.fileSize).sum
    · rw [if_pos htotal]
      exact Or.inr ⟨fun other h => absurd (hsame h ▸ h.total) (not_le.mpr htotal), _, rfl⟩
    rw [if_neg htotal]
    rcases @forM_validate b limits infos with ⟨hforM, hvalid⟩ | ⟨detail, hforM, info, hinfo, hbad⟩
    · rw [hforM]
      by_cases hempty : (infos.filter ZipInfo.isOsu).isEmpty
      · refine Or.inr ⟨fun other h => h.nonempty ?_, _, if_pos hempty⟩
        rw [hsame h]
        exact List.isEmpty_iff.mp hempty
      by_cases hosus : limits.maxOsuFileCount < (infos.filter ZipInfo.isOsu).length
      · refine Or.inr ⟨fun other h => absurd (hsame h ▸ h.osuCount) (not_le.mpr hosus), _,
          (if_neg hempty).trans (if_pos hosus)⟩
      · refine Or.inl ⟨infos, ?_, (if_neg hempty).trans (if_neg hosus)⟩
        exact {
          size := not_lt.mp hsize
          listed := hinfos
          count := not_lt.mp hcount
          total := not_lt.mp htotal
          valid := hvalid
          nonempty := fun h => hempty (List.isEmpty_iff.mpr h)
          osuCount := not_lt.mp hosus }
    · rw [hforM]
      exact Or.inr ⟨fun other h => hbad (h.valid info (hsame h ▸ hinfo)), detail, rfl⟩

theorem readOsz_of_admitted (h : Admitted b limits osz infos) :
    readOsz b limits osz = (infos.filter ZipInfo.isOsu).mapM (readMember b limits) := by
  rcases @readOsz_cases b limits osz with ⟨other, hother, hread⟩ | ⟨hnone, -⟩
  · rw [hread, Except.ok.inj (hother.listed.symm.trans h.listed)]
  · exact absurd h (hnone infos)

-- What becomes of one difficulty.
theorem readMember_cases (info : ZipInfo) :
    (∃ detail, readMember b limits info = .error (.documented detail) ∧
      (limits.maxOsuFileBytes < info.fileSize ∨
        ∃ raw, info.content = some raw ∧ decodeUtf8Sig raw = none)) ∨
    (readMember b limits info = .error .other ∧ info.fileSize ≤ limits.maxOsuFileBytes ∧
      info.content = none) ∨
    ∃ raw text, info.fileSize ≤ limits.maxOsuFileBytes ∧ info.content = some raw ∧
      decodeUtf8Sig raw = some text ∧
      readMember b limits info = .ok { name := info.filename, text := text } := by
  unfold readMember
  by_cases hsize : limits.maxOsuFileBytes < info.fileSize
  · simp only [if_pos hsize]
    exact Or.inl ⟨_, rfl, Or.inl hsize⟩
  simp only [if_neg hsize]
  cases hcontent : info.content with
  | none => exact Or.inr (Or.inl ⟨rfl, not_lt.mp hsize, rfl⟩)
  | some raw =>
    cases htext : decodeUtf8Sig raw with
    | none => exact Or.inl ⟨_, by simp only [htext]; rfl, Or.inr ⟨raw, rfl, htext⟩⟩
    | some text =>
      exact Or.inr (Or.inr ⟨raw, text, not_lt.mp hsize, rfl, htext, by simp only [htext]⟩)

-- The loop over the difficulties, from the place that it has come to.
theorem mapM_documented_iff (infos : List ZipInfo) :
    (∀ e, infos.mapM (readMember b limits) = .error e → ∃ detail, e = .documented detail) ↔
      Readable limits infos := by
  induction infos with
  | nil => exact ⟨fun _ => trivial, fun _ e h => by cases h⟩
  | cons info rest ih =>
    have hcons : (info :: rest).mapM (readMember b limits) =
        (readMember b limits info >>= fun member =>
          rest.mapM (readMember b limits) >>= fun members => .ok (member :: members)) := by
      rw [List.mapM_cons]
      rfl
    rw [hcons]
    rcases @readMember_cases b limits info with ⟨detail, hread, hwhy⟩ | ⟨hread, hsize, hcontent⟩ |
      ⟨raw, text, hsize, hcontent, htext, hread⟩
    · rw [hread]
      refine ⟨fun _ => ?_, fun _ e h => ⟨detail, (Except.error.inj h).symm⟩⟩
      rcases hwhy with hbig | ⟨raw, hraw, hnone⟩
      · exact Or.inl hbig
      · exact Or.inr ⟨raw, hraw, Or.inl hnone⟩
    · rw [hread]
      constructor
      · intro h
        obtain ⟨detail, hdetail⟩ := h .other rfl
        cases hdetail
      · rintro (hbig | ⟨raw, hraw, -⟩)
        · exact absurd hbig (not_lt.mpr hsize)
        · rw [hcontent] at hraw
          cases hraw
    · rw [hread]
      have hrest : Readable limits (info :: rest) ↔ Readable limits rest := by
        constructor
        · rintro (hbig | ⟨raw', hraw', hstop | hgo⟩)
          · exact absurd hbig (not_lt.mpr hsize)
          · rw [Option.some.inj (hraw'.symm.trans hcontent), htext] at hstop
            cases hstop
          · exact hgo
        · exact fun h => Or.inr ⟨raw, hcontent, Or.inr h⟩
      rw [hrest, ← ih]
      cases hleft : rest.mapM (readMember b limits) with
      | error e => exact Iff.rfl
      | ok members =>
        constructor
        · intro _ e h
          cases h
        · intro _ e h
          cases h

theorem decoded_of_mapM {members : List OszOsuMember}
    (h : infos.mapM (readMember b limits) = .ok members) :
    Decoded limits infos ∧ members.map OszOsuMember.name = infos.map ZipInfo.filename := by
  have hall := forall₂_of_mapM h
  refine ⟨?_, (map_eq_of_forall₂ hall fun info member hread => (readMember_name hread).symm).symm⟩
  clear h
  induction hall with
  | nil => exact fun info hinfo => absurd hinfo List.not_mem_nil
  | @cons info member rest members hread _ ih =>
    intro other hother
    rcases List.mem_cons.mp hother with rfl | hrest
    · rcases @readMember_cases b limits other with ⟨detail, herror, -⟩ | ⟨herror, -⟩ |
        ⟨raw, text, hsize, hcontent, htext, -⟩
      · rw [herror] at hread
        cases hread
      · rw [herror] at hread
        cases hread
      · exact ⟨hsize, raw, text, hcontent, htext⟩
    · exact ih other hrest

theorem mapM_of_decoded (h : Decoded limits infos) :
    ∃ members, infos.mapM (readMember b limits) = .ok members := by
  induction infos with
  | nil => exact ⟨[], rfl⟩
  | cons info rest ih =>
    obtain ⟨members, hmembers⟩ := ih fun other hother => h other (List.mem_cons_of_mem info hother)
    obtain ⟨hsize, raw, text, hcontent, htext⟩ := h info List.mem_cons_self
    refine ⟨{ name := info.filename, text := text } :: members, ?_⟩
    have hread : readMember b limits info = .ok { name := info.filename, text := text } := by
      simp only [readMember, if_neg (not_lt.mpr hsize), hcontent, htext]
    rw [List.mapM_cons, hread, hmembers]
    rfl

-- Too many members, or too large ones, are refused whatever reading them would give.
theorem readOsz_limited (hinfos : osz.infolist = .ok infos)
    (hlimit : limits.maxMemberCount < infos.length ∨
      limits.maxTotalUncompressedBytes < (infos.map ZipInfo.fileSize).sum) :
    ∃ detail, ∀ content,
      readOsz b limits (osz.withContent content) = .error (.documented detail) := by
  by_cases hsize : limits.maxArchiveBytes < osz.size
  · refine ⟨s!"archive is {osz.size} bytes, over the {limits.maxArchiveBytes} byte limit",
      fun content => ?_⟩
    have hsame : limits.maxArchiveBytes < (osz.withContent content).size := hsize
    unfold readOsz
    rw [if_pos hsame]
    rfl
  have hread (content : ZipInfo → Option (List UInt8)) :=
    @readOsz_of_infos b limits (osz.withContent content)
      (infos.map fun info => { info with content := content info }) hsize (by
        simp only [Osz.withContent, hinfos]
        rfl)
  have hsum (content : ZipInfo → Option (List UInt8)) :
      ((infos.map fun info => { info with content := content info }).map ZipInfo.fileSize).sum =
        (infos.map ZipInfo.fileSize).sum := by
    rw [List.map_map]
    rfl
  simp only [List.length_map, hsum] at hread
  by_cases hcount : limits.maxMemberCount < infos.length
  · exact ⟨_, fun content => (hread content).trans (if_pos hcount)⟩
  · exact ⟨_, fun content => (hread content).trans
      ((if_neg hcount).trans (if_pos (hlimit.resolve_left hcount)))⟩

end Members

section Rebuilding

variable {replacements : List (String × OszOsuMember)} {infos : List ZipInfo} {entries : List Entry}
  {osz : Osz}

theorem rebuilt_member {info : ZipInfo} {entry : Entry}
    (h : repackMember replacements info = some entry) :
    match replacements.lookup info.filename with
    | some replacement => entry = { name := replacement.name, data := encodeUtf8 replacement.text }
    | none => entry.name = info.filename ∧ info.content = some entry.data := by
  unfold repackMember at h
  cases hlookup : replacements.lookup info.filename with
  | some replacement =>
    simp only [hlookup, Option.some.injEq] at h
    exact h.symm
  | none =>
    simp only [hlookup, Option.map_eq_some_iff] at h
    obtain ⟨data, hdata, rfl⟩ := h
    exact ⟨rfl, hdata⟩

theorem Rebuilt.content (h : Rebuilt replacements infos entries) :
    ∀ info ∈ infos, replacements.lookup info.filename = none → info.content ≠ none := by
  unfold Rebuilt at h
  induction h with
  | nil => exact fun info hinfo => absurd hinfo List.not_mem_nil
  | @cons info entry rest entries hentry _ ih =>
    intro other hother hnone
    rcases List.mem_cons.mp hother with rfl | hrest
    · rw [hnone] at hentry
      rw [hentry.2]
      exact Option.some_ne_none _
    · exact ih other hrest hnone

theorem repack_of_content
    (h : ∀ info ∈ infos, replacements.lookup info.filename = none → info.content ≠ none) :
    ∃ entries, infos.mapM (repackMember replacements) = some entries := by
  induction infos with
  | nil => exact ⟨[], rfl⟩
  | cons info rest ih =>
    obtain ⟨entries, hentries⟩ := ih fun other hother => h other (List.mem_cons_of_mem info hother)
    have hmember : ∃ entry, repackMember replacements info = some entry := by
      cases hlookup : replacements.lookup info.filename with
      | some replacement => exact ⟨_, by rw [repackMember, hlookup]⟩
      | none =>
        obtain ⟨data, hdata⟩ := Option.ne_none_iff_exists'.mp (h info List.mem_cons_self hlookup)
        exact ⟨_, by rw [repackMember, hlookup, hdata]; rfl⟩
    obtain ⟨entry, hentry⟩ := hmember
    exact ⟨entry :: entries, by rw [List.mapM_cons, hentry, hentries]; rfl⟩

-- A directory's entry is not written, and a member that is not replaced has to be read.
theorem rebuilt_iff (hinfos : osz.infolist = .ok infos) :
    (∃ entries, repackOsz osz replacements = some entries ∧ Rebuilt replacements infos entries) ↔
      ∀ info ∈ infos, info.isDir = false ∧
        (replacements.lookup info.filename = none → info.content ≠ none) := by
  simp only [repackOsz, hinfos]
  constructor
  · rintro ⟨entries, hrepack, hrebuilt⟩ info hinfo
    have hlength := (forall₂_of_mapM_some hrepack).length_eq.trans
      (List.Forall₂.length_eq hrebuilt).symm
    have hdir := List.length_filter_eq_length_iff.mp hlength info hinfo
    exact ⟨by simpa using hdir, hrebuilt.content info hinfo⟩
  · intro h
    have hfiles : (infos.filter fun info => !info.isDir) = infos :=
      List.filter_eq_self.mpr fun info hinfo => by rw [(h info hinfo).1]; rfl
    rw [hfiles]
    obtain ⟨entries, hentries⟩ := repack_of_content fun info hinfo => (h info hinfo).2
    exact ⟨entries, hentries, (forall₂_of_mapM_some hentries).imp fun _ _ => rebuilt_member⟩

end Rebuilding

-- No difficulty that is come to raises when it is read, and an archive that is
-- accepted has no entry of a directory and no other member that raises.
structure Intact (b : Builtins) (limits : OszLimits) (osz : Osz)
    (replacements : List (String × OszOsuMember)) : Prop where
  readable : ∀ infos, Admitted b limits osz infos → Readable limits (infos.filter ZipInfo.isOsu)
  whole : ∀ infos, Admitted b limits osz infos → Decoded limits (infos.filter ZipInfo.isOsu) →
    ∀ info ∈ infos, info.isDir = false ∧
      (replacements.lookup info.filename = none → info.content ≠ none)

section Opening

variable {b : Builtins} {limits : OszLimits} {osz : Osz}
  {replacements : List (String × OszOsuMember)}

-- An accepted archive has passed every check.
theorem admitted_of_ok {members : List OszOsuMember} (h : readOsz b limits osz = .ok members) :
    ∃ infos, Admitted b limits osz infos ∧
      (infos.filter ZipInfo.isOsu).mapM (readMember b limits) = .ok members := by
  rcases @readOsz_cases b limits osz with ⟨infos, hadmitted, hread⟩ | ⟨-, detail, hread⟩
  · exact ⟨infos, hadmitted, hread.symm.trans h⟩
  · rw [hread] at h
    cases h

theorem documented_iff :
    (∀ e, readOsz b limits osz = .error e → ∃ detail, e = .documented detail) ↔
      ∀ infos, Admitted b limits osz infos → Readable limits (infos.filter ZipInfo.isOsu) := by
  constructor
  · intro h infos hadmitted
    rw [readOsz_of_admitted hadmitted] at h
    exact (mapM_documented_iff _).mp h
  · intro h
    rcases @readOsz_cases b limits osz with ⟨infos, hadmitted, hread⟩ | ⟨-, detail, hread⟩
    · rw [hread]
      exact (mapM_documented_iff _).mpr (h infos hadmitted)
    · rw [hread]
      exact fun e he => ⟨detail, (Except.error.inj he).symm⟩

theorem opensAsDeclared_iff (b : Builtins) (limits : OszLimits) (osz : Osz)
    (replacements : List (String × OszOsuMember)) :
    OpensAsDeclared b limits osz replacements ↔ Intact b limits osz replacements := by
  constructor
  · intro h
    refine ⟨documented_iff.mp h.documented, fun infos hadmitted hdecoded => ?_⟩
    obtain ⟨members, hmembers⟩ := @mapM_of_decoded b _ _ hdecoded
    obtain ⟨other, entries, hother, hrepack, hrebuilt⟩ :=
      h.rebuilt members ((readOsz_of_admitted hadmitted).trans hmembers)
    obtain rfl := Except.ok.inj (hother.symm.trans hadmitted.listed)
    exact (rebuilt_iff hother).mp ⟨entries, hrepack, hrebuilt⟩
  · intro h
    exact {
      documented := documented_iff.mpr h.readable
      safe := fun members hread => by
        obtain ⟨infos, hadmitted, hmembers⟩ := admitted_of_ok hread
        exact ⟨infos, hadmitted.listed, (decoded_of_mapM hmembers).2, fun info hinfo =>
          safeName_of_validate (hadmitted.valid info hinfo)⟩
      limited := fun infos hinfos hlimit => readOsz_limited hinfos hlimit
      rebuilt := fun members hread => by
        obtain ⟨infos, hadmitted, hmembers⟩ := admitted_of_ok hread
        obtain ⟨entries, hrepack, hrebuilt⟩ := (rebuilt_iff hadmitted.listed).mpr
          (h.whole infos hadmitted (decoded_of_mapM hmembers).1)
        exact ⟨infos, entries, hadmitted.listed, hrepack, hrebuilt⟩ }

-- One difficulty whose data zipfile finds damaged.
def damagedOsz : Osz where
  size := 900
  infolist := .ok [{ plainMember "a.osu" "Hard" with content := none }]

theorem not_opensAsDeclared : ¬OpensAsDeclared plainBuiltins plainHost.limits damagedOsz [] := by
  intro h
  have hread : readOsz plainBuiltins plainHost.limits damagedOsz = .error .other := by
    decide +kernel
  obtain ⟨detail, hdetail⟩ := h.documented .other hread
  cases hdetail

end Opening

end BanchoPrism.Submissions
