import Purroute.Base64
import Purroute.Utf8
import Mathlib.Data.List.Infix
import Mathlib.Data.List.TakeWhile

set_option autoImplicit false

namespace Purroute

-- What comes from outside the repository: Unicode case folding and the
-- STANDARD base64 engine.
structure Platform where
  lower : Char → Str
  lowerAscii : ∀ c, c.toNat < 0x80 → lower c = [c.toLower]
  lowerOther : ∀ c, 0x80 ≤ c.toNat → c.toNat ≠ 0x212A → ∃ d ∈ lower c, 0x80 ≤ d.toNat
  encode : Bytes → Str
  decode : Str → Option Bytes
  decodeEncode : ∀ bytes, decode (encode bytes) = some bytes
  encodeAlphabet : ∀ bytes, ∀ c ∈ encode bytes, c.isAlphanum ∨ c ∈ ['+', '/', '=']

-- The engine itself, with case folding for ASCII only.
def standard : Platform where
  lower := fun c => if c.toNat < 0x80 then [c.toLower] else [c]
  lowerAscii := fun c ascii => if_pos ascii
  lowerOther := by
    intro c high _
    rw [if_neg (by omega)]
    exact ⟨c, List.mem_cons_self, high⟩
  encode := Base64.encode
  decode := Base64.decode
  decodeEncode := Base64.decode_encode
  encodeAlphabet := Base64.encode_alphabet

theorem lower_space (c : Char) (folded : c.toLower = ' ') : c = ' ' := by
  unfold Char.toLower at folded
  split at folded
  · rename_i upper
    have low : 65 ≤ c.val.toNat := UInt32.le_iff_toNat_le.mp upper.1
    have high : c.val.toNat ≤ 90 := UInt32.le_iff_toNat_le.mp upper.2
    have value : (c.val.toNat + 32) % 4294967296 = 32 := by simpa using congrArg (fun d : Char => d.val.toNat) folded
    omega
  · exact folded

def toLowercase (platform : Platform) (text : Str) : Str := text.flatMap platform.lower

def startsWith (text pattern : Str) : Bool := pattern.isPrefixOf text
def contains (text pattern : Str) : Bool := decide (pattern <:+: text)
def stripPrefix (text pattern : Str) : Option Str :=
  if startsWith text pattern then some (text.drop pattern.length) else none

-- `&text[n..]`: the offset counts bytes, and one inside a character panics.
def sliceFrom : Nat → Str → Option Str
  | 0, text => some text
  | _ + 1, [] => none
  | n + 1, c :: rest => if c.utf8Size ≤ n + 1 then sliceFrom (n + 1 - c.utf8Size) rest else none

def isWhitespace (c : Char) : Bool :=
  let n := c.toNat
  (0x09 ≤ n && n ≤ 0x0D) || n == 0x20 || n == 0x85 || n == 0xA0 || n == 0x1680 || (0x2000 ≤ n && n ≤ 0x200A) ||
    n == 0x2028 || n == 0x2029 || n == 0x202F || n == 0x205F || n == 0x3000

def trim (text : Str) : Str := ((text.dropWhile isWhitespace).reverse.dropWhile isWhitespace).reverse

def stripCarriageReturn : Str → Str
  | '\r' :: line => line.reverse
  | line => line.reverse

-- `str::lines`, with the line read so far in reverse.
def linesFrom (current : Str) : Str → List Str
  | [] => if current = [] then [] else [current.reverse]
  | c :: rest => if c = '\n' then stripCarriageReturn current :: linesFrom [] rest else linesFrom (c :: current) rest

def lines (text : Str) : List Str := linesFrom [] text

def wordsFrom (current : Str) : Str → List Str
  | [] => if current = [] then [] else [current.reverse]
  | c :: rest =>
      if isWhitespace c then if current = [] then wordsFrom [] rest else current.reverse :: wordsFrom [] rest
      else wordsFrom (c :: current) rest

def splitWhitespace (text : Str) : List Str := wordsFrom [] text

def rsplitOnce (separator : Char) : Str → Option (Str × Str)
  | [] => none
  | c :: rest =>
      match rsplitOnce separator rest with
      | some (left, right) => some (c :: left, right)
      | none => if c = separator then some ([], rest) else none

def toDecimal (n : Nat) : Str := Nat.toDigits 10 n
def toHex (n : Nat) : Str := Nat.toDigits 16 n

-- `str::parse::<u16>`: an optional plus sign, then at least one digit.
def parseU16 (text : Str) : Option UInt16 :=
  let digits := (stripPrefix text ['+']).getD text
  if digits ≠ [] ∧ digits.all Char.isDigit ∧ Nat.ofDigitChars 10 digits 0 < 65536 then
    some (UInt16.ofNat (Nat.ofDigitChars 10 digits 0))
  else none

def toBeBytes (n : UInt16) : Bytes := [UInt8.ofNat (n.toNat / 256), UInt8.ofNat (n.toNat % 256)]
def fromBeBytes (high low : UInt8) : UInt16 := UInt16.ofNat (high.toNat * 256 + low.toNat)

theorem rsplit_once_none (separator : Char) (text : Str) : rsplitOnce separator text = none ↔ separator ∉ text := by
  induction text with
  | nil => simp [rsplitOnce]
  | cons c rest ih =>
      cases later : rsplitOnce separator rest with
      | some pair =>
          have present : separator ∈ rest := by
            by_contra absent
            rw [ih.mpr absent] at later
            cases later
          simp [rsplitOnce, later, present]
      | none =>
          have absent := ih.mp later
          by_cases same : c = separator
          · simp [rsplitOnce, later, same]
          · simp [rsplitOnce, later, same, absent, Ne.symm same]

theorem rsplit_once_append (separator : Char) (left right : Str) (absent : separator ∉ right) :
    rsplitOnce separator (left ++ separator :: right) = some (left, right) := by
  induction left with
  | nil => simp [rsplitOnce, (rsplit_once_none separator right).mpr absent]
  | cons c left ih => simp [rsplitOnce, ih]

theorem rsplit_once_some (separator : Char) (text left right : Str) (split : rsplitOnce separator text = some (left, right)) :
    text = left ++ separator :: right ∧ separator ∉ right := by
  induction text generalizing left with
  | nil => cases split
  | cons c rest ih =>
      cases later : rsplitOnce separator rest with
      | some pair =>
          simp only [rsplitOnce, later, Option.some.injEq, Prod.mk.injEq] at split
          obtain ⟨rfl, rfl⟩ := split
          obtain ⟨same, absent⟩ := ih pair.1 later
          exact ⟨by rw [same, List.cons_append], absent⟩
      | none =>
          by_cases here : c = separator
          · simp only [rsplitOnce, later, here, if_true, Option.some.injEq, Prod.mk.injEq] at split
            obtain ⟨rfl, rfl⟩ := split
            exact ⟨by rw [here, List.nil_append], (rsplit_once_none separator rest).mp later⟩
          · simp [rsplitOnce, later, here] at split

theorem lines_from_append (current before after : Str) :
    linesFrom current (before ++ '\n' :: after) = linesFrom current (before ++ ['\n']) ++ lines after := by
  induction before generalizing current with
  | nil => simp [linesFrom, lines]
  | cons c before ih =>
      by_cases newline : c = '\n'
      · simp only [List.cons_append, linesFrom, if_pos newline, ih]
      · simp only [List.cons_append, linesFrom, if_neg newline, ih]

theorem lines_append (before after : Str) : lines (before ++ '\n' :: after) = lines (before ++ ['\n']) ++ lines after :=
  lines_from_append [] before after

theorem lines_from_stop (current text : Str) : linesFrom current (text ++ ['\n']) ≠ [] := by
  induction text generalizing current with
  | nil => simp [linesFrom]
  | cons c text ih =>
      by_cases newline : c = '\n'
      · simp [linesFrom, newline]
      · simpa only [List.cons_append, linesFrom, if_neg newline] using ih (c :: current)

theorem lines_from_solid (current line rest : Str) (solid : '\n' ∉ line) :
    linesFrom current (line ++ '\r' :: '\n' :: rest) = (current.reverse ++ line) :: lines rest := by
  induction line generalizing current with
  | nil => simp [linesFrom, stripCarriageReturn, lines]
  | cons c line ih =>
      rw [List.mem_cons, not_or] at solid
      have other : c ≠ '\n' := fun same => solid.1 same.symm
      simp only [List.cons_append, linesFrom, if_neg other]
      rw [ih (c :: current) solid.2]
      simp

theorem lines_cons (line rest : Str) (solid : '\n' ∉ line) : lines (line ++ '\r' :: '\n' :: rest) = line :: lines rest :=
  lines_from_solid [] line rest solid

theorem lowercase_append (platform : Platform) (left right : Str) :
    toLowercase platform (left ++ right) = toLowercase platform left ++ toLowercase platform right := by
  simp [toLowercase]

theorem ascii_all (text : Str) (checked : (text.all fun c => decide (c.toNat < 0x80)) = true) : ∀ c ∈ text, c.toNat < 0x80 :=
  fun c member => of_decide_eq_true (List.all_eq_true.mp checked c member)

theorem lowercase_ascii (platform : Platform) (text : Str) (ascii : ∀ c ∈ text, c.toNat < 0x80) :
    toLowercase platform text = text.map Char.toLower := by
  induction text with
  | nil => rfl
  | cons c text ih =>
      have tail := ih fun d member => ascii d (List.mem_cons_of_mem _ member)
      rw [← List.singleton_append, lowercase_append, tail, List.map_append]
      simp [toLowercase, platform.lowerAscii c (ascii c List.mem_cons_self)]

theorem starts_with_length (text pattern : Str) (starts : startsWith text pattern = true) : pattern.length ≤ text.length := by
  have head := List.isPrefixOf_iff_prefix.mp starts
  exact head.length_le

theorem lines_single (c : Char) (line : Str) (first : (lines [c]).head? = some line) : line.length ≤ 1 := by
  unfold lines linesFrom at first
  by_cases newline : c = '\n'
  · rw [if_pos newline] at first
    cases first
    exact Nat.zero_le 1
  · rw [if_neg newline] at first
    cases first
    exact Nat.le_refl 1

theorem starts_with_append (text rest : Str) : startsWith (text ++ rest) text = true := by
  simp [startsWith, List.isPrefixOf_iff_prefix]

theorem decimal_digits (n : Nat) : (toDecimal n).all Char.isDigit = true := by
  rw [List.all_eq_true]
  intro c member
  exact Nat.isDigit_of_mem_toDigits (by decide) (by decide) member

theorem decimal_absent (c : Char) (n : Nat) (other : c.isDigit = false) : c ∉ toDecimal n := by
  intro member
  have digit := List.all_eq_true.mp (decimal_digits n) c member
  rw [other] at digit
  cases digit

theorem parse_u16_decimal (port : UInt16) : parseU16 (toDecimal port.toNat) = some port := by
  have value : Nat.ofDigitChars 10 (toDecimal port.toNat) 0 = port.toNat := Nat.ofDigitChars_ten_toDigits
  have unsigned : stripPrefix (toDecimal port.toNat) ['+'] = none := by
    have absent := decimal_absent '+' port.toNat (by decide)
    cases digits : toDecimal port.toNat with
    | nil => simp [stripPrefix, startsWith]
    | cons c rest =>
        rw [digits] at absent
        have other : '+' ≠ c := fun same => absent (same ▸ List.mem_cons_self)
        simp [stripPrefix, startsWith, other]
  simp only [parseU16, unsigned, Option.getD_none, value, decimal_digits]
  rw [if_pos ⟨Nat.toDigits_ne_nil, trivial, port.toNat_lt⟩]
  simp

theorem decimal_injective (m n : Nat) (same : toDecimal m = toDecimal n) : m = n := by
  have values := congrArg (fun digits => Nat.ofDigitChars 10 digits 0) same
  simpa only [toDecimal, Nat.ofDigitChars_ten_toDigits] using values

theorem cut_unique {A : Type} (separator : A) (left right left' right' : List A) (absent : separator ∉ left)
    (absent' : separator ∉ left')
    (same : left ++ separator :: right = left' ++ separator :: right') : left = left' ∧ right = right' := by
  induction left generalizing left' with
  | nil =>
      cases left' with
      | nil => exact ⟨rfl, (List.cons.inj same).2⟩
      | cons c left' => exact absurd (List.cons.inj same).1 fun first => absent' (first ▸ List.mem_cons_self)
  | cons c left ih =>
      cases left' with
      | nil => exact absurd (List.cons.inj same).1 fun first => absent (first ▸ List.mem_cons_self)
      | cons d left' =>
          obtain ⟨rfl, tail⟩ := List.cons.inj same
          rw [List.mem_cons, not_or] at absent absent'
          obtain ⟨rfl, rest⟩ := ih left' absent.2 absent'.2 tail
          exact ⟨rfl, rest⟩

theorem take_while_free (separator : Char) (text : Str) : text.takeWhile (· ≠ separator) = text ↔ separator ∉ text := by
  rw [List.takeWhile_eq_self_iff]
  constructor
  · intro solid present
    simpa using solid separator present
  · intro absent c member
    have different : c ≠ separator := fun same => absent (same ▸ member)
    simpa using different

theorem take_while_append_cut (separator : Char) (before after : Str) :
    (before ++ separator :: after).takeWhile (· ≠ separator) = before.takeWhile (· ≠ separator) := by
  induction before with
  | nil => simp
  | cons c before ih =>
      by_cases cut : c = separator
      · simp [cut]
      · rw [List.cons_append, List.takeWhile_cons_of_pos (by simpa using cut),
          List.takeWhile_cons_of_pos (by simpa using cut), ih]

theorem split_on_head (separator : Char) (text : Str) :
    ∃ rest, text.splitOn separator = text.takeWhile (· ≠ separator) :: rest := by
  by_cases present : separator ∈ text
  · obtain ⟨before, after, rfl, absent⟩ := List.eq_append_cons_of_mem present
    refine ⟨after.splitOn separator, ?_⟩
    rw [List.splitOn_append_cons_self_of_not_mem absent, take_while_append_cut, (take_while_free separator before).mpr absent]
  · refine ⟨[], ?_⟩
    rw [List.splitOn_eq_singleton present, (take_while_free separator text).mpr present]

theorem split_part_mem (separator : Char) (text part : Str) (member : part ∈ text.splitOn separator) :
    ∀ c ∈ part, c ∈ text ∧ c ≠ separator := by
  induction text generalizing part with
  | nil =>
      rw [List.splitOn_nil, List.mem_singleton] at member
      simp [member]
  | cons d text ih =>
      obtain ⟨first, rest, split⟩ := List.exists_cons_of_ne_nil (List.splitOn_ne_nil separator text)
      rw [List.splitOn_cons_eq_if_modifyHead, split] at member
      rw [split] at ih
      have kept : ∀ part ∈ first :: rest, ∀ c ∈ part, c ∈ d :: text ∧ c ≠ separator := by
        intro part inside c present
        obtain ⟨earlier, different⟩ := ih part inside c present
        exact ⟨List.mem_cons_of_mem d earlier, different⟩
      by_cases same : (d == separator) = true
      · rw [if_pos same, List.mem_cons] at member
        rcases member with rfl | later
        · simp
        · exact kept part later
      · rw [if_neg same, List.modifyHead_cons, List.mem_cons] at member
        rcases member with rfl | later
        · rw [List.forall_mem_cons]
          exact ⟨⟨List.mem_cons_self, fun equal => same (by simp [equal])⟩, kept first List.mem_cons_self⟩
        · exact kept part (List.mem_cons_of_mem first later)

theorem split_part_free (separator : Char) (text part : Str) (member : part ∈ text.splitOn separator) : separator ∉ part :=
  fun present => (split_part_mem separator text part member separator present).2 rfl

def Solid (text : Str) : Prop := ∀ c ∈ text, isWhitespace c = false

theorem solid_all (text : Str) (checked : (text.all fun c => !isWhitespace c) = true) : Solid text := by
  intro c member
  simpa using List.all_eq_true.mp checked c member

theorem words_from_solid (current word rest : Str) (c : Char) (solid : Solid word) (space : isWhitespace c = true)
    (filled : current.reverse ++ word ≠ []) :
    wordsFrom current (word ++ c :: rest) = (current.reverse ++ word) :: wordsFrom [] rest := by
  induction word generalizing current with
  | nil =>
      rw [List.append_nil] at filled ⊢
      have started : current ≠ [] := fun empty => filled (by rw [empty, List.reverse_nil])
      rw [List.nil_append, wordsFrom, if_pos space, if_neg started]
  | cons d word ih =>
      rw [Solid, List.forall_mem_cons] at solid
      have dark : ¬ isWhitespace d = true := by simp [solid.1]
      rw [List.cons_append, wordsFrom, if_neg dark, ih (d :: current) solid.2 (by simp)]
      simp

theorem words_cons (word rest : Str) (c : Char) (solid : Solid word) (space : isWhitespace c = true) (filled : word ≠ []) :
    splitWhitespace (word ++ c :: rest) = word :: splitWhitespace rest :=
  words_from_solid [] word rest c solid space filled

theorem words_from_mem (current text word : Str) (solid : Solid current)
    (member : word ∈ wordsFrom current text) : Solid word := by
  induction text generalizing current with
  | nil =>
      rw [wordsFrom] at member
      by_cases empty : current = []
      · rw [if_pos empty] at member
        cases member
      · rw [if_neg empty, List.mem_singleton] at member
        exact fun c inside => solid c (List.mem_reverse.mp (member ▸ inside))
  | cons c text ih =>
      have empty : Solid [] := fun d inside => absurd inside List.not_mem_nil
      rw [wordsFrom] at member
      by_cases space : isWhitespace c = true
      · rw [if_pos space] at member
        by_cases none : current = []
        · rw [if_pos none] at member
          exact ih [] empty member
        · rw [if_neg none, List.mem_cons] at member
          rcases member with rfl | later
          · exact fun d inside => solid d (List.mem_reverse.mp inside)
          · exact ih [] empty later
      · rw [if_neg space] at member
        apply ih (c :: current) _ member
        rw [Solid, List.forall_mem_cons]
        exact ⟨by simpa using space, solid⟩

theorem word_solid (text word : Str) (member : word ∈ splitWhitespace text) : Solid word :=
  words_from_mem [] text word (fun _ inside => absurd inside List.not_mem_nil) member

theorem digit_dark (c : Char) (digit : c.isDigit = true) : isWhitespace c = false := by
  have range : 48 ≤ c.toNat ∧ c.toNat ≤ 57 := Char.isDigit_iff_toNat.mp digit
  rw [← Bool.not_eq_true]
  simp only [isWhitespace, Bool.or_eq_true, Bool.and_eq_true, decide_eq_true_eq, beq_iff_eq]
  omega

theorem solid_lines (text : Str) (solid : Solid text) : '\n' ∉ text := fun member => by
  have dark := solid '\n' member
  exact absurd dark (by decide)

example : lines "GET / HTTP/1.1\r\nHost: a\r\n\r\n" = ["GET / HTTP/1.1".toList, "Host: a".toList, []] := by decide
example : contains "HTTP/1.1 200 Connection Established" "200 Connection Established" = true := by decide
example : parseU16 "+8080" = some 8080 := by decide

end Purroute
