import BanchoPrism.Library.Keyed
import Mathlib.Data.List.TakeWhile

namespace BanchoPrism.Library

-- A value that Python's json module writes and reads, with floats of F.
inductive Json (F : Type)
  | null
  | bool (b : Bool)
  | int (n : Int)
  | float (x : F)
  | str (text : String)
  | list (items : List (Json F))
  -- in the order in which the keys were set
  | dict (entries : List (String × Json F))

namespace Json

-- What a float that is no number of JSON is written as.
inductive Constant
  | NaN
  | Infinity
  | negInfinity
  deriving DecidableEq

def Constant.text : Constant → List Char
  | .NaN => ['N', 'a', 'N']
  | .Infinity => ['I', 'n', 'f', 'i', 'n', 'i', 't', 'y']
  | .negInfinity => ['-', 'I', 'n', 'f', 'i', 'n', 'i', 't', 'y']

-- What Python has for its floats: which of them are finite, float.__repr__ and float.
structure FloatText (F : Type) where
  constant : F → Option Constant
  ofConstant : Constant → F
  repr : F → List Char
  float : List Char → F

section Strings

def writeHex (n : Nat) : List Char :=
  [Nat.digitChar (n / 4096 % 16), Nat.digitChar (n / 256 % 16), Nat.digitChar (n / 16 % 16),
    Nat.digitChar (n % 16)]

-- ensure_ascii: what is no ASCII is written by its code units.
def escape (c : Char) : List Char :=
  if c = '"' then ['\\', '"']
  else if c = '\\' then ['\\', '\\']
  else if c = '\n' then ['\\', 'n']
  else if c = '\r' then ['\\', 'r']
  else if c = '\t' then ['\\', 't']
  else if c.toNat = 0x0c then ['\\', 'f']
  else if c.toNat = 0x08 then ['\\', 'b']
  else if 0x20 ≤ c.toNat ∧ c.toNat ≤ 0x7e then [c]
  else if c.toNat < 0x10000 then '\\' :: 'u' :: writeHex c.toNat
  else
    '\\' :: 'u' :: writeHex (0xd800 + (c.toNat - 0x10000) / 0x400) ++
      '\\' :: 'u' :: writeHex (0xdc00 + (c.toNat - 0x10000) % 0x400)

def quote (text : String) : List Char := '"' :: (text.toList.flatMap escape ++ ['"'])

def hexValue (c : Char) : Option Nat :=
  if c.isDigit then some (c.toNat - 48)
  else if 'a' ≤ c ∧ c ≤ 'f' then some (c.toNat - 87)
  else if 'A' ≤ c ∧ c ≤ 'F' then some (c.toNat - 55)
  else none

def readHex : List Char → Option (Nat × List Char)
  | a :: b :: c :: d :: rest => do
      let a ← hexValue a
      let b ← hexValue b
      let c ← hexValue c
      let d ← hexValue d
      some (((a * 16 + b) * 16 + c) * 16 + d, rest)
  | _ => none

-- chr. Half of a surrogate pair is no character here.
def chr (n : Nat) : Option Char := if n.isValidChar then some (Char.ofNat n) else none

def isHigh (n : Nat) : Bool := 0xd800 ≤ n && n ≤ 0xdbff

def isLow (n : Nat) : Bool := 0xdc00 ≤ n && n ≤ 0xdfff

-- The character of a surrogate pair.
def joined (high low : Nat) : Option Char :=
  chr (0x10000 + (high - 0xd800) * 0x400 + (low - 0xdc00))

def readLow : List Char → Option (Nat × List Char)
  | '\\' :: 'u' :: rest => (readHex rest).filter fun low => isLow low.1
  | _ => none

def readUnicode (text : List Char) : Option (Char × List Char) :=
  (readHex text).bind fun read =>
    if isHigh read.1 then
      (readLow read.2).bind fun low => (joined read.1 low.1).map fun c => (c, low.2)
    else (chr read.1).map fun c => (c, read.2)

def BACKSLASH : List (Char × Char) :=
  [('"', '"'), ('\\', '\\'), ('/', '/'), ('b', '\x08'), ('f', '\x0c'), ('n', '\n'), ('r', '\r'),
    ('t', '\t')]

def readEscape : List Char → Option (Char × List Char)
  | [] => none
  | c :: rest => if c = 'u' then readUnicode rest else (BACKSLASH.lookup c).map fun c => (c, rest)

-- One character of a string. A control character has to be escaped.
def readChar : List Char → Option (Char × List Char)
  | [] => none
  | c :: rest =>
      if c = '\\' then readEscape rest else if c.toNat < 0x20 then none else some (c, rest)

def readString : Nat → List Char → Option (List Char × List Char)
  | 0, _ => none
  | _ + 1, [] => none
  | n + 1, c :: rest =>
      if c = '"' then some ([], rest)
      else do
        let (first, rest) ← readChar (c :: rest)
        let (text, rest) ← readString n rest
        some (first :: text, rest)

theorem hexValue_digitChar : ∀ d < 16, hexValue (Nat.digitChar d) = some d := by decide

theorem readHex_writeHex {n : Nat} (h : n < 65536) (rest : List Char) :
    readHex (writeHex n ++ rest) = some (n, rest) := by
  simp only [writeHex, List.cons_append, List.nil_append, readHex,
    hexValue_digitChar _ (Nat.mod_lt _ (by decide : 0 < 16)), Option.bind_eq_bind, Option.bind_some]
  congr 2
  omega

theorem chr_toNat (c : Char) : chr c.toNat = some c := by
  have hvalid : c.toNat.isValidChar := c.valid
  rw [chr, if_pos hvalid, Char.ofNat_toNat]

theorem readUnicode_writeHex {c : Char} (h : c.toNat < 0x10000) (rest : List Char) :
    readUnicode (writeHex c.toNat ++ rest) = some (c, rest) := by
  have hvalid : c.toNat < 0xd800 ∨ 0xdfff < c.toNat ∧ c.toNat < 0x110000 := c.valid
  have hhigh : ¬isHigh c.toNat = true := by
    simp only [isHigh, Bool.and_eq_true, decide_eq_true_eq]
    omega
  simp only [readUnicode, readHex_writeHex h, Option.bind_some, if_neg hhigh, chr_toNat,
    Option.map_some]

theorem readLow_writeHex {low : Nat} (h : isLow low) (rest : List Char) :
    readLow ('\\' :: 'u' :: (writeHex low ++ rest)) = some (low, rest) := by
  have hlow : 0xdc00 ≤ low ∧ low ≤ 0xdfff := by
    simpa only [isLow, Bool.and_eq_true, decide_eq_true_eq] using h
  rw [readLow, readHex_writeHex (by omega)]
  exact Option.filter_some_pos (p := fun low : Nat × List Char => isLow low.1) h

theorem readUnicode_halves {high low : Nat} (hhigh : isHigh high) (hlow : isLow low)
    (rest : List Char) :
    readUnicode (writeHex high ++ ('\\' :: 'u' :: (writeHex low ++ rest))) =
      (joined high low).map fun c => (c, rest) := by
  have hrange : 0xd800 ≤ high ∧ high ≤ 0xdbff := by
    simpa only [isHigh, Bool.and_eq_true, decide_eq_true_eq] using hhigh
  have hhex : high < 65536 := by omega
  rw [readUnicode, readHex_writeHex hhex, Option.bind_some, if_pos hhigh, readLow_writeHex hlow,
    Option.bind_some]

-- A character beyond the first plane goes by its two halves.
theorem readUnicode_pair {c : Char} (h : ¬c.toNat < 0x10000) (rest : List Char) :
    readUnicode (writeHex (0xd800 + (c.toNat - 0x10000) / 0x400) ++ ('\\' :: 'u' ::
        (writeHex (0xdc00 + (c.toNat - 0x10000) % 0x400) ++ rest))) = some (c, rest) := by
  have hvalid : c.toNat < 0xd800 ∨ 0xdfff < c.toNat ∧ c.toNat < 0x110000 := c.valid
  have hhigh : isHigh (0xd800 + (c.toNat - 0x10000) / 0x400) := by
    simp only [isHigh, Bool.and_eq_true, decide_eq_true_eq]
    omega
  have hlow : isLow (0xdc00 + (c.toNat - 0x10000) % 0x400) := by
    simp only [isLow, Bool.and_eq_true, decide_eq_true_eq]
    omega
  have hback : 0x10000 + (0xd800 + (c.toNat - 0x10000) / 0x400 - 0xd800) * 0x400 +
      (0xdc00 + (c.toNat - 0x10000) % 0x400 - 0xdc00) = c.toNat := by omega
  rw [readUnicode_halves hhigh hlow, joined, hback, chr_toNat, Option.map_some]

theorem readChar_escape (c : Char) (rest : List Char) :
    readChar (escape c ++ rest) = some (c, rest) := by
  by_cases h1 : c = '"'
  · subst h1; rfl
  by_cases h2 : c = '\\'
  · subst h2; rfl
  by_cases h3 : c = '\n'
  · subst h3; rfl
  by_cases h4 : c = '\r'
  · subst h4; rfl
  by_cases h5 : c = '\t'
  · subst h5; rfl
  by_cases h6 : c.toNat = 0x0c
  · have hc : c = '\x0c' := Char.toNat_inj.mp h6
    subst hc; rfl
  by_cases h7 : c.toNat = 0x08
  · have hc : c = '\x08' := Char.toNat_inj.mp h7
    subst hc; rfl
  rw [escape, if_neg h1, if_neg h2, if_neg h3, if_neg h4, if_neg h5, if_neg h6, if_neg h7]
  by_cases h8 : 0x20 ≤ c.toNat ∧ c.toNat ≤ 0x7e
  · rw [if_pos h8, List.cons_append, List.nil_append, readChar, if_neg h2, if_neg (by omega)]
  by_cases h9 : c.toNat < 0x10000
  · rw [if_neg h8, if_pos h9, List.cons_append, List.cons_append, readChar, if_pos rfl, readEscape,
      if_pos rfl, readUnicode_writeHex h9]
  · rw [if_neg h8, if_neg h9, List.append_assoc, List.cons_append, List.cons_append, readChar,
      if_pos rfl, readEscape, if_pos rfl, List.cons_append, List.cons_append, readUnicode_pair h9]

theorem escape_head (c : Char) : ∃ first others, escape c = first :: others ∧ first ≠ '"' := by
  have hread := readChar_escape c []
  cases htext : escape c with
  | nil =>
    rw [htext] at hread
    cases hread
  | cons first others =>
    refine ⟨first, others, rfl, ?_⟩
    rintro rfl
    -- what starts with a quote is read as a quote, and that is escaped
    rw [htext, List.cons_append, readChar, if_neg (by decide), if_neg (by decide)] at hread
    have hc : '"' = c := (Prod.mk.inj (Option.some.inj hread)).1
    rw [← hc] at htext
    have hhead := (List.cons.inj htext).1
    exact absurd hhead (by decide)

theorem readString_escape {text : List Char} {n : Nat} (h : text.length < n) (rest : List Char) :
    readString n (text.flatMap escape ++ '"' :: rest) = some (text, rest) := by
  induction text generalizing n with
  | nil =>
    obtain ⟨n, rfl⟩ := Nat.exists_eq_add_one_of_ne_zero (Nat.ne_of_gt h)
    rfl
  | cons c text ih =>
    obtain ⟨n, rfl⟩ := Nat.exists_eq_add_one_of_ne_zero (Nat.ne_of_gt (Nat.zero_lt_of_lt h))
    obtain ⟨first, others, hfirst, hne⟩ := escape_head c
    have hread := readChar_escape c (text.flatMap escape ++ '"' :: rest)
    rw [hfirst, List.cons_append] at hread
    rw [List.flatMap_cons, List.append_assoc, hfirst, List.cons_append, readString, if_neg hne]
    simp only [hread, Option.bind_eq_bind, Option.bind_some, ih (Nat.lt_of_succ_lt_succ h)]

theorem length_le_flatMap_escape (text : List Char) :
    text.length ≤ (text.flatMap escape).length := by
  induction text with
  | nil => exact Nat.le_refl 0
  | cons c text ih =>
    obtain ⟨first, others, hfirst, -⟩ := escape_head c
    rw [List.flatMap_cons, hfirst, List.length_append, List.length_cons, List.length_cons]
    omega

end Strings

section Numbers

-- int.__repr__
def writeInt (n : Int) : List Char :=
  if n < 0 then '-' :: Nat.toDigits 10 n.natAbs else Nat.toDigits 10 n.natAbs

-- int, of the digits that a number begins with.
def intOf : List Char → Int
  | '-' :: digits => -(Nat.ofDigitChars 10 digits 0 : Nat)
  | digits => (Nat.ofDigitChars 10 digits 0 : Nat)

-- What is left after 0|[1-9][0-9]*
def digitsEnd : List Char → Option (List Char)
  | [] => none
  | c :: rest =>
      if c = '0' then some rest
      else if c.isDigit then some (rest.dropWhile Char.isDigit)
      else none

-- What is left after -?(?:0|[1-9][0-9]*)
def integerEnd : List Char → Option (List Char)
  | [] => none
  | c :: rest => if c = '-' then digitsEnd rest else digitsEnd (c :: rest)

-- What is left after [0-9]+
def someDigitsEnd : List Char → Option (List Char)
  | [] => none
  | c :: rest => if c.isDigit then some (rest.dropWhile Char.isDigit) else none

-- What is left after [-+]?[0-9]+
def signedEnd : List Char → Option (List Char)
  | [] => none
  | c :: rest => if c = '-' ∨ c = '+' then someDigitsEnd rest else someDigitsEnd (c :: rest)

-- What is left after (\.[0-9]+)?
def fractionEnd : List Char → List Char
  | [] => []
  | c :: rest => if c = '.' then (someDigitsEnd rest).getD (c :: rest) else c :: rest

-- What is left after ([eE][-+]?[0-9]+)?
def exponentEnd : List Char → List Char
  | [] => []
  | c :: rest => if c = 'e' ∨ c = 'E' then (signedEnd rest).getD (c :: rest) else c :: rest

variable {F : Type}

-- The number that a text begins with, and what follows it.
def readNumber (floats : FloatText F) (text : List Char) : Option (Json F × List Char) :=
  (integerEnd text).map fun afterInteger =>
    let rest := exponentEnd (fractionEnd afterInteger)
    let number := text.take (text.length - rest.length)
    if rest.length = afterInteger.length then (.int (intOf number), rest)
    else (.float (floats.float number), rest)

-- What follows a number goes on with none of its characters.
def Ends : List Char → Prop
  | [] => True
  | c :: _ => c.isDigit = false ∧ ¬(c = '-' ∨ c = '+') ∧ c ≠ '.' ∧ ¬(c = 'e' ∨ c = 'E')

-- A float as JSON has it: a number with a fraction or an exponent.
def IsFloat (text : List Char) : Prop :=
  ∃ afterInteger, integerEnd text = some afterInteger ∧ afterInteger ≠ [] ∧
    exponentEnd (fractionEnd afterInteger) = []

-- repr(x) of a finite float is a number with a point or an exponent that float() reads as x.
def FloatText.ReadsBack (floats : FloatText F) : Prop :=
  ∀ x, floats.constant x = none → IsFloat (floats.repr x) ∧ floats.float (floats.repr x) = x

variable {text rest : List Char}

theorem dropWhile_append (h : Ends rest) (text : List Char) :
    (text ++ rest).dropWhile Char.isDigit = text.dropWhile Char.isDigit ++ rest := by
  induction text with
  | nil =>
    cases rest with
    | nil => rfl
    | cons c rest => simp [h.1]
  | cons c text ih =>
    rw [List.cons_append, List.dropWhile_cons, List.dropWhile_cons, ih]
    split <;> rfl

theorem digitsEnd_append (hrest : Ends rest) {left : List Char} (h : digitsEnd text = some left) :
    digitsEnd (text ++ rest) = some (left ++ rest) := by
  cases text with
  | nil => cases h
  | cons c text =>
    rw [digitsEnd] at h
    rw [List.cons_append, digitsEnd]
    split_ifs at h ⊢
    · exact congrArg (fun left => some (left ++ rest)) (Option.some.inj h)
    · rw [dropWhile_append hrest, Option.some.inj h]

theorem integerEnd_append (hrest : Ends rest) {left : List Char}
    (h : integerEnd text = some left) : integerEnd (text ++ rest) = some (left ++ rest) := by
  cases text with
  | nil => cases h
  | cons c text =>
    rw [integerEnd] at h
    rw [List.cons_append, integerEnd]
    split_ifs at h ⊢
    · exact digitsEnd_append hrest h
    · exact digitsEnd_append hrest h

theorem someDigitsEnd_append (hrest : Ends rest) (text : List Char) :
    someDigitsEnd (text ++ rest) = (someDigitsEnd text).map (· ++ rest) := by
  cases text with
  | nil =>
    cases rest with
    | nil => rfl
    | cons c rest => simp [someDigitsEnd, hrest.1]
  | cons c text =>
    rw [List.cons_append, someDigitsEnd, someDigitsEnd, dropWhile_append hrest]
    split <;> rfl

theorem signedEnd_append (hrest : Ends rest) (text : List Char) :
    signedEnd (text ++ rest) = (signedEnd text).map (· ++ rest) := by
  cases text with
  | nil =>
    cases rest with
    | nil => rfl
    | cons c rest => simp [signedEnd, someDigitsEnd, hrest.1, hrest.2.1]
  | cons c text =>
    rw [List.cons_append, signedEnd, signedEnd, someDigitsEnd_append hrest, ← List.cons_append,
      someDigitsEnd_append hrest]
    split <;> rfl

theorem fractionEnd_append (hrest : Ends rest) (text : List Char) :
    fractionEnd (text ++ rest) = fractionEnd text ++ rest := by
  cases text with
  | nil =>
    cases rest with
    | nil => rfl
    | cons c rest => simp [fractionEnd, hrest.2.2.1]
  | cons c text =>
    rw [List.cons_append, fractionEnd, fractionEnd, someDigitsEnd_append hrest]
    cases someDigitsEnd text <;> split <;> rfl

theorem exponentEnd_append (hrest : Ends rest) (text : List Char) :
    exponentEnd (text ++ rest) = exponentEnd text ++ rest := by
  cases text with
  | nil =>
    cases rest with
    | nil => rfl
    | cons c rest => simp [exponentEnd, hrest.2.2.2]
  | cons c text =>
    rw [List.cons_append, exponentEnd, exponentEnd, signedEnd_append hrest]
    cases signedEnd text <;> split <;> rfl

-- A number is read to its end, whatever follows it.
theorem readNumber_append (floats : FloatText F) (hrest : Ends rest) {afterInteger : List Char}
    (h : integerEnd text = some afterInteger) (hend : exponentEnd (fractionEnd afterInteger) = []) :
    readNumber floats (text ++ rest) =
      some (if afterInteger = [] then (.int (intOf text), rest)
        else (.float (floats.float text), rest)) := by
  have hleft : exponentEnd (fractionEnd (afterInteger ++ rest)) = rest := by
    rw [fractionEnd_append hrest, exponentEnd_append hrest, hend, List.nil_append]
  have htake : (text ++ rest).take ((text ++ rest).length - rest.length) = text := by
    rw [List.length_append, Nat.add_sub_cancel, List.take_left]
  rw [readNumber, integerEnd_append hrest h, Option.map_some]
  simp only [hleft, htake]
  rw [List.length_append]
  by_cases hafter : afterInteger = []
  · rw [if_pos hafter, if_pos (by simp [hafter])]
  · have hlength := List.length_pos_of_ne_nil hafter
    rw [if_neg hafter, if_neg (by omega)]

theorem toDigits_eq_cons (n : Nat) :
    ∃ c digits, Nat.toDigits 10 n = c :: digits ∧ (c = '0' → digits = []) := by
  induction n using Nat.strongRecOn with
  | ind n ih =>
    rw [Nat.toDigits_eq_if (by decide)]
    split
    · exact ⟨_, [], rfl, fun _ => rfl⟩
    · rename_i hn
      obtain ⟨c, digits, hdigits, hzero⟩ := ih (n / 10) (by omega)
      refine ⟨c, digits ++ [Nat.digitChar (n % 10)], by rw [hdigits]; rfl, fun hc => ?_⟩
      -- A first digit of 0 is the only one, and the number is less than ten.
      have hvalue := Nat.ofDigitChars_ten_toDigits (n := n / 10)
      rw [hdigits, hzero hc, hc] at hvalue
      have hnone : n / 10 = 0 := hvalue.symm
      omega

theorem isDigit_of_mem_toDigits {n : Nat} {c : Char} (h : c ∈ Nat.toDigits 10 n) :
    c.isDigit = true := Nat.isDigit_of_mem_toDigits (by decide) (by decide) h

theorem digitsEnd_toDigits (n : Nat) : digitsEnd (Nat.toDigits 10 n) = some [] := by
  obtain ⟨c, digits, hdigits, hzero⟩ := toDigits_eq_cons n
  have hmem : ∀ d ∈ c :: digits, d.isDigit = true := fun d hd =>
    isDigit_of_mem_toDigits (hdigits ▸ hd)
  rw [hdigits, digitsEnd]
  split
  · rename_i hc
    rw [hzero hc]
  · rw [if_pos (hmem c List.mem_cons_self), Option.some.injEq, List.dropWhile_eq_nil_iff]
    exact fun d hd => hmem d (List.mem_cons_of_mem c hd)

theorem toDigits_ne_minus {n : Nat} {digits : List Char} : Nat.toDigits 10 n ≠ '-' :: digits :=
  fun h => absurd (isDigit_of_mem_toDigits (h ▸ List.mem_cons_self)) (by decide)

theorem integerEnd_writeInt (n : Int) : integerEnd (writeInt n) = some [] := by
  rw [writeInt]
  split
  · rw [integerEnd, if_pos rfl, digitsEnd_toDigits]
  · obtain ⟨c, digits, hdigits, -⟩ := toDigits_eq_cons n.natAbs
    have hc : c ≠ '-' := fun hc => toDigits_ne_minus (hc ▸ hdigits)
    rw [hdigits, integerEnd, if_neg hc, ← hdigits, digitsEnd_toDigits]

theorem intOf_writeInt (n : Int) : intOf (writeInt n) = n := by
  rw [writeInt]
  split
  · rw [intOf, Nat.ofDigitChars_ten_toDigits]
    omega
  · rw [intOf, Nat.ofDigitChars_ten_toDigits]
    · omega
    · exact fun digits => toDigits_ne_minus

theorem readNumber_writeInt (floats : FloatText F) (hrest : Ends rest) (n : Int) :
    readNumber floats (writeInt n ++ rest) = some (.int n, rest) := by
  rw [readNumber_append floats hrest (integerEnd_writeInt n) rfl, if_pos rfl, intOf_writeInt]

theorem readNumber_repr {floats : FloatText F} (h : floats.ReadsBack) (hrest : Ends rest) {x : F}
    (hx : floats.constant x = none) :
    readNumber floats (floats.repr x ++ rest) = some (.float x, rest) := by
  obtain ⟨⟨left, hinteger, hne, hend⟩, hfloat⟩ := h x hx
  rw [readNumber_append floats hrest hinteger hend, if_neg hne, hfloat]

end Numbers

section Values

variable {F : Type}

mutual

-- json.dumps, with the separators "," and ":"
def dumps (floats : FloatText F) : Json F → List Char
  | .null => ['n', 'u', 'l', 'l']
  | .bool true => ['t', 'r', 'u', 'e']
  | .bool false => ['f', 'a', 'l', 's', 'e']
  | .int n => writeInt n
  | .float x =>
      match floats.constant x with
      | none => floats.repr x
      | some constant => constant.text
  | .str text => quote text
  | .list [] => ['[', ']']
  | .list (v :: rest) => '[' :: (dumps floats v ++ dumpsItems floats rest)
  | .dict [] => ['{', '}']
  | .dict ((key, v) :: rest) =>
      '{' :: (quote key ++ ':' :: (dumps floats v ++ dumpsEntries floats rest))

def dumpsItems (floats : FloatText F) : List (Json F) → List Char
  | [] => [']']
  | v :: rest => ',' :: (dumps floats v ++ dumpsItems floats rest)

def dumpsEntries (floats : FloatText F) : List (String × Json F) → List Char
  | [] => ['}']
  | (key, v) :: rest => ',' :: (quote key ++ ':' :: (dumps floats v ++ dumpsEntries floats rest))

end

def isWhitespace (c : Char) : Bool := c = ' ' || c = '\t' || c = '\n' || c = '\r'

def skip (text : List Char) : List Char := text.dropWhile isWhitespace

-- A value that is a word.
def readWord (floats : FloatText F) (text : List Char) : Option (Json F × List Char) :=
  match text with
  | 'n' :: 'u' :: 'l' :: 'l' :: rest => some (.null, rest)
  | 't' :: 'r' :: 'u' :: 'e' :: rest => some (.bool true, rest)
  | 'f' :: 'a' :: 'l' :: 's' :: 'e' :: rest => some (.bool false, rest)
  | 'N' :: 'a' :: 'N' :: rest => some (.float (floats.ofConstant .NaN), rest)
  | 'I' :: 'n' :: 'f' :: 'i' :: 'n' :: 'i' :: 't' :: 'y' :: rest =>
      some (.float (floats.ofConstant .Infinity), rest)
  | '-' :: 'I' :: 'n' :: 'f' :: 'i' :: 'n' :: 'i' :: 't' :: 'y' :: rest =>
      some (.float (floats.ofConstant .negInfinity), rest)
  | _ => none

def readKey (text : List Char) : Option (String × List Char) :=
  match text with
  | [] => none
  | c :: rest =>
      if c = '"' then
        (readString (rest.length + 1) rest).map fun (key, rest) => (String.ofList key, rest)
      else none

-- dict(pairs): the last of the values that a key has.
def dictOf (pairs : List (String × Json F)) : List (String × Json F) :=
  pairs.foldl (fun entries pair => upsertBy Prod.fst entries pair fun _ => pair) []

mutual

def scanOnce (floats : FloatText F) : Nat → List Char → Option (Json F × List Char)
  | 0, _ => none
  | _ + 1, [] => none
  | n + 1, c :: rest =>
      if c = '"' then (readKey (c :: rest)).map fun (text, rest) => (.str text, rest)
      else if c = '{' then
        match skip rest with
        | '}' :: rest => some (.dict [], rest)
        | rest => (scanEntries floats n rest).map fun (pairs, rest) => (.dict (dictOf pairs), rest)
      else if c = '[' then
        match skip rest with
        | ']' :: rest => some (.list [], rest)
        | rest => (scanItems floats n rest).map fun (items, rest) => (.list items, rest)
      else (readNumber floats (c :: rest)).or (readWord floats (c :: rest))

-- A value, and what of the list is left.
def scanItems (floats : FloatText F) : Nat → List Char → Option (List (Json F) × List Char)
  | 0, _ => none
  | n + 1, text => do
      let (v, rest) ← scanOnce floats n text
      match skip rest with
      | ']' :: rest => some ([v], rest)
      | ',' :: rest => do
          let (items, rest) ← scanItems floats n (skip rest)
          some (v :: items, rest)
      | _ => none

-- A key with its value, and what of the dictionary is left.
def scanEntries (floats : FloatText F) :
    Nat → List Char → Option (List (String × Json F) × List Char)
  | 0, _ => none
  | n + 1, text => do
      let (key, rest) ← readKey text
      match skip rest with
      | ':' :: rest => do
          let (v, rest) ← scanOnce floats n (skip rest)
          match skip rest with
          | '}' :: rest => some ([(key, v)], rest)
          | ',' :: rest => do
              let (pairs, rest) ← scanEntries floats n (skip rest)
              some ((key, v) :: pairs, rest)
          | _ => none
      | _ => none

end

-- json.loads: none for a JSONDecodeError.
def loads (floats : FloatText F) (text : List Char) : Option (Json F) :=
  match scanOnce floats (text.length + 1) (skip text) with
  | some (v, rest) => if skip rest = [] then some v else none
  | none => none

-- A value whose floats are all finite and whose dictionaries have each key once.
inductive Proper (floats : FloatText F) : Json F → Prop
  | null : Proper floats .null
  | bool (b : Bool) : Proper floats (.bool b)
  | int (n : Int) : Proper floats (.int n)
  | float {x : F} (hx : floats.constant x = none) : Proper floats (.float x)
  | str (text : String) : Proper floats (.str text)
  | list {items : List (Json F)} (hitems : ∀ v ∈ items, Proper floats v) :
      Proper floats (.list items)
  | dict {entries : List (String × Json F)} (hkeys : (entries.map Prod.fst).Nodup)
      (hentries : ∀ entry ∈ entries, Proper floats entry.2) : Proper floats (.dict entries)

-- A value is read back from its text, whatever follows the text.
structure Scans (floats : FloatText F) (v : Json F) : Prop where
  head : ∃ c others, dumps floats v = c :: others ∧ isWhitespace c = false ∧ c ≠ ']'
  scan : ∀ n rest, Ends rest → (dumps floats v).length ≤ n →
    scanOnce floats n (dumps floats v ++ rest) = some (v, rest)

variable {floats : FloatText F} {v : Json F} {rest : List Char} {n : Nat}

theorem skip_cons {c : Char} (h : isWhitespace c = false) : skip (c :: rest) = c :: rest :=
  List.dropWhile_cons_of_neg (by rw [h]; decide)

theorem Scans.skip_eq (h : Scans floats v) (rest : List Char) :
    skip (dumps floats v ++ rest) = dumps floats v ++ rest := by
  obtain ⟨c, others, hdumps, hc, -⟩ := h.head
  rw [hdumps, List.cons_append, skip_cons hc]

theorem readKey_quote (key : String) (rest : List Char) :
    readKey (quote key ++ rest) = some (key, rest) := by
  have hlength := length_le_flatMap_escape key.toList
  rw [quote, List.cons_append, List.append_assoc, readKey, if_pos rfl, List.cons_append,
    List.nil_append, readString_escape (by rw [List.length_append]; omega), Option.map_some]
  simp only [String.ofList_toList]

theorem ends_comma : Ends (',' :: rest) := ⟨by decide, by decide, by decide, by decide⟩

theorem ends_bracket : Ends (']' :: rest) := ⟨by decide, by decide, by decide, by decide⟩

theorem ends_brace : Ends ('}' :: rest) := ⟨by decide, by decide, by decide, by decide⟩

theorem scanItems_dumps {items : List (Json F)} (hv : Scans floats v)
    (hitems : ∀ w ∈ items, Scans floats w)
    (hn : (dumps floats v).length + (dumpsItems floats items).length ≤ n) :
    scanItems floats n (dumps floats v ++ (dumpsItems floats items ++ rest)) =
      some (v :: items, rest) := by
  induction items generalizing v n with
  | nil =>
    rw [dumpsItems, List.length_singleton] at hn
    obtain ⟨n, rfl⟩ := Nat.exists_eq_add_one_of_ne_zero (by omega : n ≠ 0)
    rw [scanItems, dumpsItems, List.cons_append, hv.scan n _ ends_bracket (by omega)]
    rfl
  | cons w items ih =>
    rw [dumpsItems, List.length_cons, List.length_append] at hn
    obtain ⟨n, rfl⟩ := Nat.exists_eq_add_one_of_ne_zero (by omega : n ≠ 0)
    have hw := hitems w List.mem_cons_self
    have hrest := ih hw (fun w hw => hitems w (List.mem_cons_of_mem _ hw)) (n := n) (by omega)
    rw [scanItems, dumpsItems, List.cons_append, hv.scan n _ ends_comma (by omega)]
    simp only [Option.bind_eq_bind, Option.bind_some,
      skip_cons (by decide : isWhitespace ',' = false), List.append_assoc, hw.skip_eq, hrest]

theorem scanEntries_dumps {key : String} {entries : List (String × Json F)} (hv : Scans floats v)
    (hentries : ∀ entry ∈ entries, Scans floats entry.2)
    (hn : (dumps floats v).length + (dumpsEntries floats entries).length ≤ n) :
    scanEntries floats n
        (quote key ++ (':' :: (dumps floats v ++ (dumpsEntries floats entries ++ rest)))) =
      some ((key, v) :: entries, rest) := by
  induction entries generalizing key v n with
  | nil =>
    rw [dumpsEntries, List.length_singleton] at hn
    obtain ⟨n, rfl⟩ := Nat.exists_eq_add_one_of_ne_zero (by omega : n ≠ 0)
    rw [scanEntries, readKey_quote, dumpsEntries, List.cons_append]
    simp only [Option.bind_eq_bind, Option.bind_some,
      skip_cons (by decide : isWhitespace ':' = false), hv.skip_eq,
      hv.scan n _ ends_brace (by omega), skip_cons (by decide : isWhitespace '}' = false),
      List.nil_append]
  | cons entry entries ih =>
    obtain ⟨key', w⟩ := entry
    rw [dumpsEntries, List.length_cons, List.length_append, List.length_cons,
      List.length_append] at hn
    obtain ⟨n, rfl⟩ := Nat.exists_eq_add_one_of_ne_zero (by omega : n ≠ 0)
    have hw : Scans floats w := hentries (key', w) List.mem_cons_self
    have hrest : scanEntries floats n (quote key' ++ _) = _ :=
      ih hw (fun entry h => hentries entry (List.mem_cons_of_mem _ h)) (by omega)
    have hquote : ∀ tail, skip (quote key' ++ tail) = quote key' ++ tail := fun tail => by
      rw [quote, List.cons_append, skip_cons (by decide)]
    rw [scanEntries, readKey_quote, dumpsEntries, List.cons_append]
    simp only [Option.bind_eq_bind, Option.bind_some,
      skip_cons (by decide : isWhitespace ':' = false), hv.skip_eq,
      hv.scan n _ ends_comma (by omega), skip_cons (by decide : isWhitespace ',' = false),
      List.append_assoc, List.cons_append, hquote, hrest]

-- A dictionary whose keys are apart is built as it is.
theorem dictOf_eq {pairs : List (String × Json F)} (h : (pairs.map Prod.fst).Nodup) :
    dictOf pairs = pairs := by
  suffices hfold : ∀ entries : List (String × Json F), ((entries ++ pairs).map Prod.fst).Nodup →
      pairs.foldl (fun entries pair => upsertBy Prod.fst entries pair fun _ => pair) entries =
        entries ++ pairs from hfold [] h
  clear h
  induction pairs with
  | nil => exact fun entries _ => (List.append_nil entries).symm
  | cons pair pairs ih =>
    intro entries hnodup
    have hfresh : (entries.any fun other => decide (other.1 = pair.1)) = false := by
      rw [List.map_append, List.map_cons] at hnodup
      rw [List.any_eq_false]
      intro other hother heq
      refine (List.nodup_append.mp hnodup).2.2 other.1 (List.mem_map_of_mem hother) pair.1
        List.mem_cons_self (of_decide_eq_true heq)
    rw [List.foldl_cons, upsertBy, if_neg (by rw [hfresh]; decide),
      ih (entries ++ [pair]) (by rwa [List.append_assoc]), List.append_assoc]
    rfl

theorem integerEnd_head {c : Char} {others left : List Char}
    (h : integerEnd (c :: others) = some left) : c = '-' ∨ c.isDigit = true := by
  by_cases hc : c = '-'
  · exact Or.inl hc
  · rw [integerEnd, if_neg hc, digitsEnd] at h
    split_ifs at h with hzero hdigit
    · exact Or.inr (hzero ▸ by decide)
    · exact Or.inr hdigit

theorem scans_of_cons {c : Char} {others : List Char} (hdumps : dumps floats v = c :: others)
    (hc : isWhitespace c = false) (hbracket : c ≠ ']')
    (hscan : ∀ n rest, Ends rest → others.length ≤ n →
      scanOnce floats (n + 1) (c :: (others ++ rest)) = some (v, rest)) : Scans floats v := by
  refine ⟨⟨c, others, hdumps, hc, hbracket⟩, fun n rest hrest hn => ?_⟩
  rw [hdumps, List.length_cons] at hn
  obtain ⟨n, rfl⟩ := Nat.exists_eq_add_one_of_ne_zero (by omega : n ≠ 0)
  rw [hdumps, List.cons_append, hscan n rest hrest (Nat.le_of_succ_le_succ hn)]

theorem scans_of_number {number left : List Char} (hdumps : dumps floats v = number)
    (h : integerEnd number = some left)
    (hread : ∀ rest, Ends rest → readNumber floats (number ++ rest) = some (v, rest)) :
    Scans floats v := by
  cases number with
  | nil => cases h
  | cons c others =>
    have hhead := integerEnd_head h
    have hne : ∀ d : Char, d ≠ '-' → d.isDigit = false → c ≠ d := by
      rintro d hminus hdigit rfl
      rcases hhead with hc | hc
      · exact hminus hc
      · rw [hdigit] at hc
        cases hc
    have hspace : isWhitespace c = false := by
      simp [isWhitespace, hne ' ' (by decide) (by decide), hne '\t' (by decide) (by decide),
        hne '\n' (by decide) (by decide), hne '\r' (by decide) (by decide)]
    refine scans_of_cons hdumps hspace (hne ']' (by decide) (by decide)) fun n rest hrest _ => ?_
    have hnumber := hread rest hrest
    rw [List.cons_append] at hnumber
    rw [scanOnce, if_neg (hne '"' (by decide) (by decide)),
      if_neg (hne '{' (by decide) (by decide)), if_neg (hne '[' (by decide) (by decide)), hnumber,
      Option.some_or]

theorem scans_str (text : String) : Scans floats (.str text) := by
  refine scans_of_cons rfl (by decide) (by decide) fun n rest _ _ => ?_
  have hkey := readKey_quote text rest
  rw [quote, List.cons_append] at hkey
  rw [scanOnce, if_pos rfl, hkey]
  rfl

theorem scans_list {items : List (Json F)} (hitems : ∀ v ∈ items, Scans floats v) :
    Scans floats (.list items) := by
  cases items with
  | nil => exact scans_of_cons rfl (by decide) (by decide) fun n rest _ _ => rfl
  | cons v items =>
    refine scans_of_cons rfl (by decide) (by decide) fun n rest _ hn => ?_
    rw [List.length_append] at hn
    have hv := hitems v List.mem_cons_self
    have hscan : scanItems floats n (dumps floats v ++ (_ ++ rest)) = _ :=
      scanItems_dumps hv (fun w hw => hitems w (List.mem_cons_of_mem v hw)) hn
    obtain ⟨c, others, hdumps, -, hbracket⟩ := hv.head
    rw [List.append_assoc, scanOnce, if_neg (by decide), if_neg (by decide), if_pos rfl, hv.skip_eq]
    rw [hdumps, List.cons_append] at hscan ⊢
    split
    · rename_i heq
      exact absurd (List.cons.inj heq).1 hbracket
    · rw [hscan]
      rfl

theorem scans_dict {entries : List (String × Json F)} (hkeys : (entries.map Prod.fst).Nodup)
    (hentries : ∀ entry ∈ entries, Scans floats entry.2) : Scans floats (.dict entries) := by
  cases entries with
  | nil => exact scans_of_cons rfl (by decide) (by decide) fun n rest _ _ => rfl
  | cons entry entries =>
    obtain ⟨key, v⟩ := entry
    refine scans_of_cons rfl (by decide) (by decide) fun n rest _ hn => ?_
    rw [List.length_append, List.length_cons, List.length_append] at hn
    have hv : Scans floats v := hentries (key, v) List.mem_cons_self
    have hscan : scanEntries floats n (quote key ++ (':' :: (_ ++ (_ ++ rest)))) = _ :=
      scanEntries_dumps hv (fun entry h => hentries entry (List.mem_cons_of_mem _ h)) (by omega)
    have hquote : ∀ tail, quote key ++ tail = '"' :: (key.toList.flatMap escape ++ ['"'] ++ tail) :=
      fun tail => by rw [quote, List.cons_append]
    rw [List.append_assoc, List.cons_append, List.append_assoc, scanOnce, if_neg (by decide),
      if_pos rfl]
    rw [hquote] at hscan ⊢
    rw [skip_cons (by decide)]
    split
    · rename_i heq
      exact absurd (List.cons.inj heq).1 (by decide)
    · rw [hscan, Option.map_some]
      simp only [dictOf_eq hkeys]

-- What is written is read back.
theorem Proper.scans (h : floats.ReadsBack) (hv : Proper floats v) : Scans floats v := by
  induction hv with
  | null => exact scans_of_cons rfl (by decide) (by decide) fun n rest _ _ => rfl
  | bool b =>
    cases b with
    | false => exact scans_of_cons rfl (by decide) (by decide) fun n rest _ _ => rfl
    | true => exact scans_of_cons rfl (by decide) (by decide) fun n rest _ _ => rfl
  | int n =>
    exact scans_of_number rfl (integerEnd_writeInt n) fun rest hrest =>
      readNumber_writeInt floats hrest n
  | float hx =>
    obtain ⟨left, hinteger, -⟩ := (h _ hx).1
    exact scans_of_number (by rw [dumps, hx]) hinteger fun rest hrest => readNumber_repr h hrest hx
  | str text => exact scans_str text
  | list _ ih => exact scans_list ih
  | dict hkeys _ ih => exact scans_dict hkeys ih

theorem loads_dumps (h : floats.ReadsBack) (hv : Proper floats v) :
    loads floats (dumps floats v) = some v := by
  have hscans := hv.scans h
  have hskip := hscans.skip_eq []
  have hscan := hscans.scan ((dumps floats v).length + 1) [] trivial (Nat.le_succ _)
  rw [List.append_nil] at hskip hscan
  rw [loads, hskip, hscan]
  rfl

end Values

end Json

end BanchoPrism.Library
