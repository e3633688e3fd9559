import BanchoPrism.Library.Mapping
import BanchoPrism.Submissions.OsuFile
import BanchoPrism.Submissions.Store

namespace BanchoPrism.Submissions

open Library

-- A member as the central directory of an archive lists it.
structure ZipInfo where
  filename : String
  fileSize : Nat
  compressSize : Nat
  externalAttr : Nat
  -- none where reading it raises
  content : Option (List UInt8)
  deriving DecidableEq

-- What is uploaded: its bytes as zipfile opens them, or why it does not.
structure Osz where
  size : Nat
  infolist : Except String (List ZipInfo)

structure OszLimits where
  maxArchiveBytes : Nat
  maxTotalUncompressedBytes : Nat
  maxMemberCount : Nat
  maxCompressionRatio : ℚ
  maxOsuFileBytes : Nat
  maxOsuFileCount : Nat

structure OszOsuMember where
  name : String
  text : String
  deriving DecidableEq

def ZipInfo.isDir (info : ZipInfo) : Bool := info.filename.toList.getLast? = some '/'

def isSlash (c : Char) : Bool := c = '/' || c = '\\'

-- PureWindowsPath of a name that begins with no slash: X: is its drive, for a letter X, and X:\
-- its anchor.
def hasDrive (name : List Char) : Bool :=
  (name.head?.map Char.isAlpha).getD false && name[1]? = some ':'

def isAbsolute (name : List Char) : Bool :=
  (name.head?.map isSlash).getD false || (hasDrive name && (name[2]?.map isSlash).getD false)

def symlinkType : Nat := 0o120000

def ZipInfo.isSymlink (info : ZipInfo) : Bool :=
  (info.externalAttr >>> 16) &&& 0o170000 = symlinkType

-- OszArchiveError(detail)
def refused {α : Type} (detail : String) : Except Raised α := .error (.documented detail)

def validateMember (b : Builtins) (limits : OszLimits) (info : ZipInfo) : Except Raised Unit :=
  let name := info.filename.toList
  let quoted := b.repr info.filename
  let ratio : ℚ := info.fileSize / info.compressSize
  if name.isEmpty then refused "archive holds a member with an empty name"
  else if '\x00' ∈ name then refused "archive member name contains a NUL byte"
  else if isAbsolute name then refused s!"archive member {quoted} is an absolute path"
  else if hasDrive name then refused s!"archive member {quoted} carries a drive letter"
  else if "..".toList ∈ name.splitOnP isSlash then
    refused s!"archive member {quoted} escapes the archive root"
  else if info.isSymlink then refused s!"archive member {quoted} is a symlink"
  else if 0 < info.compressSize ∧ limits.maxCompressionRatio < ratio then
    refused (s!"archive member {quoted} has a compression ratio of {b.fixed ratio}:1, " ++
      s!"over the {b.fixed limits.maxCompressionRatio}:1 limit")
  else .ok ()

def byteOrderMark : List UInt8 := [0xef, 0xbb, 0xbf]

-- raw.decode("utf-8-sig")
def decodeUtf8Sig (raw : List UInt8) : Option String :=
  String.fromUTF8? ⟨((byteOrderMark.isPrefixOf? raw).getD raw).toArray⟩

-- text.encode("utf-8")
def encodeUtf8 (text : String) : List UInt8 := text.toUTF8.data.toList

theorem decode_encode {text : String} (h : byteOrderMark.isPrefixOf? (encodeUtf8 text) = none) :
    decodeUtf8Sig (encodeUtf8 text) = some text := by
  rw [decodeUtf8Sig, h]
  have hbytes : (⟨(encodeUtf8 text).toArray⟩ : ByteArray) = text.toUTF8 := by simp [encodeUtf8]
  rw [Option.getD_none, hbytes]
  exact dif_pos text.isValidUTF8

def readMember (b : Builtins) (limits : OszLimits) (info : ZipInfo) :
    Except Raised OszOsuMember :=
  let quoted := b.repr info.filename
  if limits.maxOsuFileBytes < info.fileSize then
    refused (s!"difficulty {quoted} is {info.fileSize} bytes, over the " ++
      s!"{limits.maxOsuFileBytes} byte limit")
  else
    match info.content with
    | none => .error .other
    | some raw =>
        match decodeUtf8Sig raw with
        | none => refused s!"difficulty {quoted} is not valid UTF-8"
        | some text => .ok { name := info.filename, text := text }

def ZipInfo.isOsu (info : ZipInfo) : Bool := !info.isDir && isOsuName info.filename

-- The difficulties of an archive that is safe to open.
def readOsz (b : Builtins) (limits : OszLimits) (osz : Osz) :
    Except Raised (List OszOsuMember) := do
  if limits.maxArchiveBytes < osz.size then
    refused s!"archive is {osz.size} bytes, over the {limits.maxArchiveBytes} byte limit"
  let infos ← osz.infolist.mapError fun e => .documented ("not a readable zip archive: " ++ e)
  let total := (infos.map ZipInfo.fileSize).sum
  if limits.maxMemberCount < infos.length then
    refused s!"archive holds {infos.length} members, over the {limits.maxMemberCount} limit"
  if limits.maxTotalUncompressedBytes < total then
    refused (s!"archive expands to {total} bytes, over the " ++
      s!"{limits.maxTotalUncompressedBytes} byte limit")
  infos.forM (validateMember b limits)
  let osuInfos := infos.filter ZipInfo.isOsu
  if osuInfos.isEmpty then refused "archive holds no .osu difficulty files"
  if limits.maxOsuFileCount < osuInfos.length then
    refused (s!"archive holds {osuInfos.length} difficulties, over the " ++
      s!"{limits.maxOsuFileCount} limit")
  osuInfos.mapM (readMember b limits)

theorem readMember_name {b : Builtins} {limits : OszLimits} {info : ZipInfo} {member : OszOsuMember}
    (h : readMember b limits info = .ok member) : member.name = info.filename := by
  simp only [readMember] at h
  split at h
  · cases h
  · split at h
    · cases h
    · split at h
      · cases h
      · rw [← Except.ok.inj h]

-- The difficulties are the .osu members, in their order.
theorem readOsz_eq_ok {b : Builtins} {limits : OszLimits} {osz : Osz} {members : List OszOsuMember}
    (h : readOsz b limits osz = .ok members) :
    ∃ infos, osz.infolist = .ok infos ∧
      List.Forall₂ (fun info member => readMember b limits info = .ok member)
        (infos.filter ZipInfo.isOsu) members := by
  unfold readOsz at h
  split at h
  · cases h
  · cases hinfos : osz.infolist with
    | error e =>
      rw [hinfos] at h
      cases h
    | ok infos =>
      refine ⟨infos, rfl, forall₂_of_mapM ?_⟩
      rw [hinfos] at h
      simp only [refused, Except.mapError, bind, Except.bind] at h
      split at h
      · cases h
      · split at h
        · cases h
        · split at h
          · cases h
          · split at h
            · cases h
            · split at h
              · cases h
              · exact h

-- An archive that nothing speaks against is read.
theorem readOsz_of_ok {b : Builtins} {limits : OszLimits} {osz : Osz} {infos : List ZipInfo}
    {members : List OszOsuMember} (hinfos : osz.infolist = .ok infos)
    (hsize : osz.size ≤ limits.maxArchiveBytes) (hcount : infos.length ≤ limits.maxMemberCount)
    (htotal : (infos.map ZipInfo.fileSize).sum ≤ limits.maxTotalUncompressedBytes)
    (hvalid : ∀ info ∈ infos, validateMember b limits info = .ok ())
    (hnonempty : infos.filter ZipInfo.isOsu ≠ [])
    (hosus : (infos.filter ZipInfo.isOsu).length ≤ limits.maxOsuFileCount)
    (hread : (infos.filter ZipInfo.isOsu).mapM (readMember b limits) = .ok members) :
    readOsz b limits osz = .ok members := by
  have hforM : infos.forM (validateMember b limits) = .ok () := by
    clear hinfos hcount htotal hnonempty hosus hread
    induction infos with
    | nil => rfl
    | cons info rest ih =>
      have hrest := ih fun other hother => hvalid other (List.mem_cons_of_mem info hother)
      change (validateMember b limits info >>= fun _ => rest.forM (validateMember b limits)) = _
      rw [hvalid info List.mem_cons_self]
      exact hrest
  have hempty : (infos.filter ZipInfo.isOsu).isEmpty = false := by
    rwa [List.isEmpty_eq_false_iff]
  unfold readOsz
  rw [if_neg (not_lt.mpr hsize), hinfos]
  simp only [Except.mapError, bind, Except.bind, hforM, hempty, hread, if_neg (not_lt.mpr hcount),
    if_neg (not_lt.mpr htotal), if_neg (not_lt.mpr hosus), Bool.false_eq_true, if_false]

theorem mem_osu {infos : List ZipInfo} {info : ZipInfo} :
    info ∈ infos.filter ZipInfo.isOsu ↔ info ∈ infos ∧ info.isDir = false ∧ isOsuName info.filename := by
  simp only [List.mem_filter, ZipInfo.isOsu, Bool.and_eq_true, Bool.not_eq_true']

-- What a member is written as: its replacement, or as it is.
def repackMember (replacements : List (String × OszOsuMember)) (info : ZipInfo) : Option Entry :=
  match replacements.lookup info.filename with
  | some replacement => some { name := replacement.name, data := encodeUtf8 replacement.text }
  | none => info.content.map fun data => { name := info.filename, data := data }

-- None where something is raised.
def repackOsz (osz : Osz) (replacements : List (String × OszOsuMember)) : Option (List Entry) :=
  match osz.infolist with
  | .error _ => none
  | .ok infos => (infos.filter fun info => !info.isDir).mapM (repackMember replacements)

-- An archive whose members can be read is written anew.
theorem repackOsz_of_content {osz : Osz} {infos : List ZipInfo} (hinfos : osz.infolist = .ok infos)
    (hcontent : ∀ info ∈ infos, info.content.isSome) (replacements : List (String × OszOsuMember)) :
    ∃ entries, repackOsz osz replacements = some entries := by
  have hmapM {left : List ZipInfo} (hleft : ∀ info ∈ left, info.content.isSome) :
      ∃ entries, left.mapM (repackMember replacements) = some entries := by
    induction left with
    | nil => exact ⟨[], rfl⟩
    | cons info rest ih =>
      obtain ⟨entries, hentries⟩ := ih fun other hother => hleft other (List.mem_cons_of_mem info hother)
      obtain ⟨data, hdata⟩ := Option.isSome_iff_exists.mp (hleft info List.mem_cons_self)
      have hmember : ∃ entry, repackMember replacements info = some entry := by
        unfold repackMember
        split
        · exact ⟨_, rfl⟩
        · exact ⟨_, by rw [hdata]; rfl⟩
      obtain ⟨entry, hentry⟩ := hmember
      exact ⟨entry :: entries, by rw [List.mapM_cons, hentry, hentries]; rfl⟩
  simp only [repackOsz, hinfos]
  exact hmapM fun info hinfo => hcontent info (List.mem_of_mem_filter hinfo)

section Repacking

variable {infos : List ZipInfo} {replacements : List (String × OszOsuMember)} {entries : List Entry}

-- What is written for the name of a difficulty.
def replaced (replacements : List (String × OszOsuMember)) (name : String) : Entry :=
  match replacements.lookup name with
  | some replacement => { name := replacement.name, data := encodeUtf8 replacement.text }
  | none => { name := name, data := [] }

-- Of the archive that is written, the .osu members are the replacements, in the order of what
-- they replace.
theorem osu_of_forall₂ (hkeys : ∀ name, (replacements.lookup name).isSome ↔
      name ∈ (infos.filter ZipInfo.isOsu).map ZipInfo.filename)
    (hnames : ∀ name replacement, replacements.lookup name = some replacement →
      isOsuName replacement.name) {left : List ZipInfo}
    (hleft : ∀ info ∈ left, info ∈ infos ∧ info.isDir = false)
    (h : List.Forall₂ (fun info entry => repackMember replacements info = some entry) left entries) :
    (entries.filter fun entry => isOsuName entry.name) =
      (left.filter ZipInfo.isOsu).map fun info => replaced replacements info.filename := by
  induction h with
  | nil => rfl
  | @cons info entry left entries hentry _ ih =>
    obtain ⟨hinfo, hdir⟩ := hleft info List.mem_cons_self
    have hrest := ih fun other hother => hleft other (List.mem_cons_of_mem info hother)
    have hosu : info.isOsu = isOsuName info.filename := by rw [ZipInfo.isOsu, hdir]; rfl
    cases hlookup : replacements.lookup info.filename with
    | some replacement =>
      have hin := (hkeys info.filename).mp (by rw [hlookup]; rfl)
      obtain ⟨other, hother, hsame⟩ := List.mem_map.mp hin
      have hname : isOsuName info.filename := hsame ▸ (mem_osu.mp hother).2.2
      simp only [repackMember, hlookup, Option.some.injEq] at hentry
      subst hentry
      have hnew : isOsuName replacement.name := hnames _ _ hlookup
      rw [List.filter_cons, if_pos hnew, hrest, List.filter_cons_of_pos (hosu.trans hname),
        List.map_cons, replaced, hlookup]
    | none =>
      have hname : isOsuName info.filename = false := by
        rw [Bool.eq_false_iff]
        intro hname
        have hin := List.mem_map_of_mem (f := ZipInfo.filename) (mem_osu.mpr ⟨hinfo, hdir, hname⟩)
        rw [← hkeys, hlookup] at hin
        cases hin
      simp only [repackMember, hlookup, Option.map_eq_some_iff] at hentry
      obtain ⟨data, -, rfl⟩ := hentry
      rw [List.filter_cons, if_neg (by simp [hname]), hrest,
        List.filter_cons_of_neg (by simp [hosu, hname])]

theorem osu_of_repack (hkeys : ∀ name, (replacements.lookup name).isSome ↔
      name ∈ (infos.filter ZipInfo.isOsu).map ZipInfo.filename)
    (hnames : ∀ name replacement, replacements.lookup name = some replacement →
      isOsuName replacement.name)
    (h : (infos.filter fun info => !info.isDir).mapM (repackMember replacements) = some entries) :
    (entries.filter fun entry => isOsuName entry.name) =
      (infos.filter ZipInfo.isOsu).map fun info => replaced replacements info.filename := by
  have hleft : ∀ info ∈ infos.filter fun info => !info.isDir, info ∈ infos ∧ info.isDir = false := by
    simp
  rw [osu_of_forall₂ hkeys hnames hleft (forall₂_of_mapM_some h), List.filter_filter]
  congr 2
  funext info
  simp only [ZipInfo.isOsu]
  cases info.isDir <;> simp

end Repacking

end BanchoPrism.Submissions
