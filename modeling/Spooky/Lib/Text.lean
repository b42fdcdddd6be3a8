/-
Text as Rust's `str` holds it, and the `str`, `char` and `u8` methods of the standard library that the code calls.

A string is either its UTF-8 bytes or its characters. Searching for an ASCII character, stripping an ASCII prefix or
splitting at an ASCII character gives the same result on the bytes as on the characters, since no byte of a
multi-byte character is ASCII, so these operations are stated once for lists of any type; `trim` needs the
characters, as it removes Unicode whitespace.
-/
import Mathlib.Tactic

namespace Text

/-- the UTF-8 bytes of a list of characters -/
def encode (cs : List Char) : List UInt8 := cs.flatMap String.utf8EncodeChar

/-- `str::as_bytes` -/
def utf8 (s : String) : List UInt8 := encode s.toList

/-- a continuation byte `10xxxxxx` -/
def isContinuation (b : UInt8) : Bool := 0x80 ≤ b && b ≤ 0xBF

/-- `str::from_utf8`: the characters, or none for bytes that are no well-formed UTF-8 (an overlong form, a
surrogate or a code point past U+10FFFF included) -/
def decodeUtf8 : List UInt8 → Option (List Char)
  | [] => some []
  | b :: rest =>
    if b < 0x80 then (decodeUtf8 rest).map (Char.ofNat b.toNat :: ·)
    else if 0xC2 ≤ b && b ≤ 0xDF then
      match rest with
      | c :: rest =>
        if isContinuation c then (decodeUtf8 rest).map (Char.ofNat ((b.toNat - 0xC0) * 64 + (c.toNat - 0x80)) :: ·)
        else none
      | [] => none
    else if 0xE0 ≤ b && b ≤ 0xEF then
      match rest with
      | c1 :: c2 :: rest =>
        let lo : UInt8 := if b = 0xE0 then 0xA0 else 0x80
        let hi : UInt8 := if b = 0xED then 0x9F else 0xBF
        if lo ≤ c1 && c1 ≤ hi && isContinuation c2 then
          (decodeUtf8 rest).map
            (Char.ofNat (((b.toNat - 0xE0) * 64 + (c1.toNat - 0x80)) * 64 + (c2.toNat - 0x80)) :: ·)
        else none
      | _ => none
    else if 0xF0 ≤ b && b ≤ 0xF4 then
      match rest with
      | c1 :: c2 :: c3 :: rest =>
        let lo : UInt8 := if b = 0xF0 then 0x90 else 0x80
        let hi : UInt8 := if b = 0xF4 then 0x8F else 0xBF
        if lo ≤ c1 && c1 ≤ hi && isContinuation c2 && isContinuation c3 then
          (decodeUtf8 rest).map (Char.ofNat
            ((((b.toNat - 0xF0) * 64 + (c1.toNat - 0x80)) * 64 + (c2.toNat - 0x80)) * 64 + (c3.toNat - 0x80)) :: ·)
        else none
      | _ => none
    else none

/-- `to_string` of an integer, as bytes: its decimal digits -/
def decimalBytes (n : ℕ) : List UInt8 := (Nat.toDigits 10 n).map Char.toUInt8

/-- `char::is_whitespace`: the characters of Unicode's `White_Space` property -/
def isWhitespace (c : Char) : Bool :=
  let n := c.toNat
  (9 ≤ n && n ≤ 13) || n == 0x20 || n == 0x85 || n == 0xA0 || n == 0x1680 || (0x2000 ≤ n && n ≤ 0x200A) ||
    n == 0x2028 || n == 0x2029 || n == 0x202F || n == 0x205F || n == 0x3000

/-- `str::trim` -/
def trimChars (cs : List Char) : List Char := ((cs.dropWhile isWhitespace).reverse.dropWhile isWhitespace).reverse

/-- `str::trim`, as bytes -/
def trim (s : String) : List UInt8 := encode (trimChars s.toList)

/-- `char::is_ascii_whitespace` -/
def isAsciiWhitespace (c : Char) : Bool := c = ' ' || c = '\t' || c = '\n' || c.toNat = 0x0C || c = '\r'

/-- `char::is_ascii_alphanumeric` -/
def isAsciiAlphanumeric (c : Char) : Bool := c.isAlphanum

/-- `char::is_ascii_hexdigit` -/
def isAsciiHexdigit (c : Char) : Bool := c.isDigit || ('a' ≤ c && c ≤ 'f') || ('A' ≤ c && c ≤ 'F')

/-- `eq_ignore_ascii_case` on characters (`Char.toLower` changes ASCII letters only) -/
def charsEqIgnoreAsciiCase (a b : List Char) : Bool := a.map Char.toLower == b.map Char.toLower

def isAsciiUppercase (b : UInt8) : Bool := 65 ≤ b && b ≤ 90

def isAsciiLowercase (b : UInt8) : Bool := 97 ≤ b && b ≤ 122

def isAsciiDigit (b : UInt8) : Bool := 48 ≤ b && b ≤ 57

def toAsciiLowercase (b : UInt8) : UInt8 := if isAsciiUppercase b then b + 32 else b

def toAsciiUppercase (b : UInt8) : UInt8 := if isAsciiLowercase b then b - 32 else b

/-- `eq_ignore_ascii_case` -/
def eqIgnoreAsciiCase (a b : List UInt8) : Bool := a.map toAsciiLowercase == b.map toAsciiLowercase

section Search

variable {α : Type} [BEq α]

/-- `find` of an ASCII character: the index of its first occurrence -/
def find (b : α) (s : List α) : Option ℕ := s.idxOf? b

/-- `rsplit_once` at an ASCII character: what stands before and after its last occurrence -/
def rsplitOnce (b : α) (s : List α) : Option (List α × List α) :=
  (s.reverse.idxOf? b).map fun i => (s.take (s.length - 1 - i), s.drop (s.length - i))

/-- `trim_end_matches` of one ASCII character -/
def trimEndMatches (b : α) (s : List α) : List α := (s.reverse.dropWhile (· == b)).reverse

/-- `strip_prefix` -/
def stripPrefix (p s : List α) : Option (List α) := s.dropPrefix? p

/-- `replace` of one character by a string -/
def replace (c : α) (r s : List α) : List α := s.flatMap fun x => if x == c then r else [x]

/-- `contains` of a pattern string -/
def containsSlice (p s : List α) : Bool := s.tails.any p.isPrefixOf

/-- `split_once` at an ASCII character: what stands before and after its first occurrence -/
def splitOnce (b : α) : List α → Option (List α × List α)
  | [] => none
  | x :: xs => if x == b then some ([], xs) else (splitOnce b xs).map fun p => (x :: p.1, p.2)

variable [LawfulBEq α] {b : α} {s : List α}

/-- `find` splits the string at the first occurrence -/
theorem find_eq_some {i : ℕ} (h : find b s = some i) : s = s.take i ++ b :: s.drop (i + 1) := by
  obtain ⟨hi, hb, -⟩ := List.idxOf?_eq_some_iff.1 h
  calc s = s.take i ++ s.drop i := (List.take_append_drop i s).symm
    _ = s.take i ++ b :: s.drop (i + 1) := by rw [List.drop_eq_getElem_cons hi, hb]

/-- `rsplit_once` splits the string at an occurrence -/
theorem rsplitOnce_eq_some {x y : List α} (h : rsplitOnce b s = some (x, y)) : s = x ++ b :: y := by
  obtain ⟨i, hi, hxy⟩ := Option.map_eq_some_iff.1 h
  obtain ⟨hlt, hb, -⟩ := List.idxOf?_eq_some_iff.1 hi
  obtain ⟨rfl, rfl⟩ := Prod.mk.inj hxy
  rw [List.length_reverse] at hlt
  -- the occurrence `i` from the end is at `length - 1 - i` from the start
  have hget : s[s.length - 1 - i] = b := by rw [← hb, List.getElem_reverse]
  calc s = s.take (s.length - 1 - i) ++ s.drop (s.length - 1 - i) := (List.take_append_drop _ s).symm
    _ = s.take (s.length - 1 - i) ++ b :: s.drop (s.length - i) := by
      rw [List.drop_eq_getElem_cons (by omega), hget, show s.length - 1 - i + 1 = s.length - i by omega]

theorem rsplitOnce_isSome_iff : (rsplitOnce b s).isSome ↔ b ∈ s := by
  rw [rsplitOnce, Option.isSome_map, Option.isSome_iff_ne_none, Ne, List.idxOf?_eq_none_iff, not_not,
    List.mem_reverse]

theorem splitOnce_eq_none : splitOnce b s = none ↔ b ∉ s := by
  induction s with
  | nil => simp [splitOnce]
  | cons c s ih =>
    unfold splitOnce
    by_cases hc : c = b
    · simp [hc]
    · simp only [hc, beq_iff_eq, if_false, Option.map_eq_none_iff, ih, List.mem_cons, not_or]
      exact ⟨fun h => ⟨Ne.symm hc, h⟩, fun h => h.2⟩

theorem splitOnce_isSome_iff : (splitOnce b s).isSome ↔ b ∈ s := by
  rw [Option.isSome_iff_ne_none, Ne, splitOnce_eq_none, not_not]

/-- `split_once` at the first occurrence of the separator -/
theorem splitOnce_append_cons {x : List α} (hx : b ∉ x) (y : List α) : splitOnce b (x ++ b :: y) = some (x, y) := by
  induction x with
  | nil => simp [splitOnce]
  | cons c x ih =>
    rw [List.mem_cons, not_or] at hx
    have hc : (c == b) = false := beq_false_of_ne (Ne.symm hx.1)
    simp only [List.cons_append, splitOnce, hc, Bool.false_eq_true, if_false, ih hx.2, Option.map_some]

/-- `split` at a separator after a run without one: the run is the first piece -/
theorem splitOn_append_cons {x : List α} (hx : b ∉ x) (y : List α) : (x ++ b :: y).splitOn b = x :: y.splitOn b :=
  List.splitOnP_append_cons_of_forall_mem (fun c hc => beq_false_of_ne fun h : c = b => hx (h ▸ hc)) b (beq_self_eq_true b) y

/-- splitting commutes with a map that sends exactly the separator to its image -/
theorem splitOnce_map {β : Type} [BEq β] [LawfulBEq β] {f : α → β} (hf : ∀ x, f x = f b ↔ x = b) (s : List α) :
    splitOnce (f b) (s.map f) = (splitOnce b s).map fun p => (p.1.map f, p.2.map f) := by
  induction s with
  | nil => rfl
  | cons c s ih =>
    rw [List.map_cons]
    unfold splitOnce
    by_cases hc : c = b
    · simp [hc]
    · have hfc : ¬f c = f b := fun h => hc ((hf c).1 h)
      simp only [hc, hfc, beq_iff_eq, if_false, ih, Option.map_map]
      rfl

end Search

/-- every byte of a decimal text is an ASCII digit -/
theorem isAsciiDigit_of_mem_decimalBytes {n : ℕ} {b : UInt8} (h : b ∈ decimalBytes n) : isAsciiDigit b = true := by
  obtain ⟨c, hc, rfl⟩ := List.mem_map.1 h
  have hd := Nat.isDigit_of_mem_toDigits (by decide) (by decide) hc
  simp only [Char.isDigit, Bool.and_eq_true, decide_eq_true_eq] at hd
  have h1 : 48 ≤ c.toNat := hd.1
  have h2 : c.toNat ≤ 57 := hd.2
  -- a digit is below 256, so its byte has the same code
  have hb : c.toUInt8.toNat = c.toNat := by
    rw [Char.toUInt8, UInt32.toNat_toUInt8]
    exact Nat.mod_eq_of_lt (by simp only [Char.toNat] at h2; omega)
  simp only [isAsciiDigit, Bool.and_eq_true, decide_eq_true_eq, UInt8.le_iff_toNat_le, hb, UInt8.reduceToNat]
  omega

theorem digitChar_toUInt8 {d : ℕ} (h : d < 10) : (Nat.digitChar d).toUInt8 = 48 + d.toUInt8 := by
  interval_cases d <;> rfl

/-- the last digit of a decimal text comes off its end -/
theorem decimalBytes_eq (n : ℕ) :
    decimalBytes n = (if n < 10 then [] else decimalBytes (n / 10)) ++ [48 + (n % 10).toUInt8] := by
  unfold decimalBytes
  rw [Nat.toDigits_eq_if (by omega)]
  split
  · rename_i h
    simp [digitChar_toUInt8 h, Nat.mod_eq_of_lt h]
  · simp [digitChar_toUInt8 (Nat.mod_lt n (by omega))]

theorem dropWhile_of_head {α : Type} {p : α → Bool} {l : List α} (h : ∀ a, l.head? = some a → p a = false) :
    l.dropWhile p = l := by
  cases l with
  | nil => rfl
  | cons a rest => simp [h a rfl]

/-- `trim` leaves a string that neither starts nor ends with whitespace -/
theorem trimChars_eq_self {cs : List Char} (hhead : ∀ c, cs.head? = some c → isWhitespace c = false)
    (hlast : ∀ c, cs.getLast? = some c → isWhitespace c = false) : trimChars cs = cs := by
  have hrev : ∀ c, cs.reverse.head? = some c → isWhitespace c = false := by
    intro c hc
    rw [List.head?_reverse] at hc
    exact hlast c hc
  rw [trimChars, dropWhile_of_head hhead, dropWhile_of_head hrev, List.reverse_reverse]

/-- leading whitespace does not survive `trim` -/
theorem trimChars_cons_of_isWhitespace {c : Char} (hc : isWhitespace c = true) (cs : List Char) :
    trimChars (c :: cs) = trimChars cs := by
  rw [trimChars, trimChars, List.dropWhile_cons_of_pos hc]

/-- trailing whitespace does not survive `trim` -/
theorem trimChars_append_of_isWhitespace {c : Char} (hc : isWhitespace c = true) (cs : List Char) :
    trimChars (cs ++ [c]) = trimChars cs := by
  unfold trimChars
  rw [List.dropWhile_append]
  cases hd : (cs.dropWhile isWhitespace).isEmpty with
  | true =>
    rw [List.isEmpty_iff.1 hd]
    simp [hc]
  | false =>
    rw [if_neg (by simp), List.reverse_append, List.reverse_singleton, List.singleton_append,
      List.dropWhile_cons_of_pos hc]

/-- `trim` keeps a leading character that is no whitespace -/
theorem head?_trimChars {c : Char} (hc : isWhitespace c = false) (cs : List Char) :
    (trimChars (c :: cs)).head? = some c := by
  unfold trimChars
  rw [List.dropWhile_cons_of_neg (by simp [hc]), List.reverse_cons, List.dropWhile_append]
  -- the end is trimmed back to `c` at most
  have hlast : [c].dropWhile isWhitespace = [c] := by simp [hc]
  split
  · rw [hlast]
    rfl
  · rw [List.reverse_append, List.reverse_singleton, List.singleton_append]
    rfl

theorem isWhitespace_of_isDigit {c : Char} (h : c.isDigit = true) : isWhitespace c = false := by
  simp only [Char.isDigit, Bool.and_eq_true, decide_eq_true_eq] at h
  have h1 : 48 ≤ c.toNat := h.1
  have h2 : c.toNat ≤ 57 := h.2
  unfold isWhitespace
  simp only [Bool.or_eq_false_iff, Bool.and_eq_false_imp, decide_eq_true_eq, decide_eq_false_iff_not,
    beq_eq_false_iff_ne, ne_eq]
  omega

/-! ## ASCII case of characters -/

theorem toNat_toLower (c : Char) :
    c.toLower.toNat = if 65 ≤ c.toNat ∧ c.toNat ≤ 90 then c.toNat + 32 else c.toNat := by
  unfold Char.toLower
  split
  · rename_i h
    have hup : 65 ≤ c.toNat ∧ c.toNat ≤ 90 := h
    rw [if_pos hup]
    simp only [Char.toNat]
    simp [UInt32.toNat_add]
    omega
  · rename_i h
    have hup : ¬(65 ≤ c.toNat ∧ c.toNat ≤ 90) := h
    rw [if_neg hup]

@[simp]
theorem toLower_toLower (c : Char) : c.toLower.toLower = c.toLower := by
  apply Char.toNat_inj.1
  rw [toNat_toLower, toNat_toLower]
  split_ifs <;> omega

/-- lower-casing leaves a character that is no ASCII letter, and makes it from no other character -/
theorem toLower_eq_iff {c b : Char} (hup : ¬(65 ≤ b.toNat ∧ b.toNat ≤ 90)) (hlow : ¬(97 ≤ b.toNat ∧ b.toNat ≤ 122)) :
    c.toLower = b ↔ c = b := by
  rw [← Char.toNat_inj, ← Char.toNat_inj, toNat_toLower]
  split_ifs <;> omega

/-- no ASCII letter is whitespace, so lower-casing keeps whether a character is -/
@[simp]
theorem isWhitespace_toLower (c : Char) : isWhitespace c.toLower = isWhitespace c := by
  -- a letter's code and its lower case's code are both outside every whitespace range
  have hletter : ∀ n, 65 ≤ n → n ≤ 122 → ((9 ≤ n && n ≤ 13) || n == 0x20 || n == 0x85 || n == 0xA0 || n == 0x1680 ||
      (0x2000 ≤ n && n ≤ 0x200A) || n == 0x2028 || n == 0x2029 || n == 0x202F || n == 0x205F || n == 0x3000) = false := by
    intro n h1 h2
    simp only [Bool.or_eq_false_iff, Bool.and_eq_false_imp, decide_eq_true_eq, decide_eq_false_iff_not,
      beq_eq_false_iff_ne, ne_eq]
    omega
  unfold isWhitespace
  rw [toNat_toLower]
  split_ifs with h
  · rw [hletter _ (by omega) (by omega), hletter _ (by omega) (by omega)]
  · rfl

theorem trimChars_map_toLower (cs : List Char) : trimChars (cs.map Char.toLower) = (trimChars cs).map Char.toLower := by
  have hp : isWhitespace ∘ Char.toLower = isWhitespace := funext isWhitespace_toLower
  rw [trimChars, trimChars, List.dropWhile_map, hp, ← List.map_reverse, List.dropWhile_map, hp, ← List.map_reverse]

/-- splitting at a character that is no ASCII letter commutes with lower-casing -/
theorem splitOnce_map_toLower {b : Char} (hup : ¬(65 ≤ b.toNat ∧ b.toNat ≤ 90))
    (hlow : ¬(97 ≤ b.toNat ∧ b.toNat ≤ 122)) (s : List Char) :
    splitOnce b (s.map Char.toLower) = (splitOnce b s).map fun p => (p.1.map Char.toLower, p.2.map Char.toLower) := by
  have hb : b.toLower = b := (toLower_eq_iff hup hlow).2 rfl
  have key := splitOnce_map (b := b) (f := Char.toLower) (fun x => by rw [hb]; exact toLower_eq_iff hup hlow) s
  rwa [hb] at key

theorem map_toLower_toLower (cs : List Char) : (cs.map Char.toLower).map Char.toLower = cs.map Char.toLower := by
  simp [Function.comp_def]

/-- `eq_ignore_ascii_case` sees its arguments only through their lower case -/
theorem charsEqIgnoreAsciiCase_congr {a b b' : List Char} (h : b.map Char.toLower = b'.map Char.toLower) :
    charsEqIgnoreAsciiCase a b = charsEqIgnoreAsciiCase a b' := by
  rw [charsEqIgnoreAsciiCase, charsEqIgnoreAsciiCase, h]

/-- against a lower-case word, `eq_ignore_ascii_case` compares the lower case -/
theorem charsEqIgnoreAsciiCase_lower {a b : List Char} (hb : b.map Char.toLower = b) :
    charsEqIgnoreAsciiCase a b = decide (a.map Char.toLower = b) := by
  rw [charsEqIgnoreAsciiCase, hb]
  exact Bool.eq_iff_iff.2 (by rw [beq_iff_eq, decide_eq_true_iff])

/-- lower-casing leaves a byte that is no ASCII letter, and makes it from no other byte -/
theorem toAsciiLowercase_eq_iff {c : UInt8} (hup : isAsciiUppercase c = false) (hlow : isAsciiLowercase c = false)
    (b : UInt8) : toAsciiLowercase b = c ↔ b = c := by
  unfold toAsciiLowercase
  split
  · rename_i h
    simp only [isAsciiUppercase, isAsciiLowercase, Bool.and_eq_true, decide_eq_true_eq, UInt8.le_iff_toNat_le,
      Bool.and_eq_false_imp] at h hup hlow
    constructor
    · -- an upper-case letter goes to a lower-case one, which `c` is not
      intro hb
      have hn := congrArg UInt8.toNat hb
      simp only [UInt8.toNat_add] at hn
      simp at h hn hlow
      omega
    · rintro rfl
      simp at h hup
      omega
  · rfl

end Text
