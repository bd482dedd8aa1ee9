import OpenApiClient.Json.Reader
import Mathlib.Tactic.Common

/-! Reading printed numbers and strings.
An integer of 64 bits is read back exactly: its digits fill the significand one by one and none is
left over. A minus sign before a zero makes a binary64 number, the negative zero. Of a quoted string
each character is escaped on its own, and each escape is read in one step. -/
namespace OpenApiClient

/-- The kinds of numbers that a numeral without fraction and exponent gives within 64 bits. -/
inductive Number.Integral : Number → Prop where
  | natural {n} : n < UInt64.size → Integral (.natural n)
  | negative {n} : 0 < n → n ≤ Nat.pow 2 63 → Integral (.negative n)
  | negativeZero : Integral (.double 0x8000000000000000)

namespace Json

def Ends (rest : List Symbol) : Prop :=
  ∀ symbol ∈ rest.head?, isDigit symbol = false ∧ symbol ≠ .char '.' ∧ symbol ≠ .char 'e' ∧
    symbol ≠ .char 'E'

def digitOf (c : Char) : ℕ := c.toNat - 48

variable {rest : List Symbol}

theorem takeDigits_append {digits : List Char} (all : ∀ c ∈ digits, c.isDigit = true)
    (ends : Ends rest) : takeDigits (digits.map .char ++ rest) = (digits.map digitOf, rest) := by
  have taken : ∀ symbol ∈ digits.map Symbol.char, isDigit symbol = true := by
    simpa [isDigit] using all
  have after : rest.takeWhile isDigit = [] ∧ rest.dropWhile isDigit = rest := by
    cases rest with
    | nil => exact ⟨rfl, rfl⟩
    | cons symbol rest =>
      have stops := (ends symbol rfl).1
      simp [stops]
  unfold takeDigits
  rw [List.takeWhile_append_of_pos taken, List.dropWhile_append_of_pos taken, after.1, after.2,
    List.append_nil, List.map_map]
  rfl

def digitsOf (n : ℕ) : List ℕ := (Nat.toDigits 10 n).map digitOf

theorem isDigit_toDigits {n : ℕ} {c : Char} (h : c ∈ Nat.toDigits 10 n) : c.isDigit = true :=
  Nat.isDigit_of_mem_toDigits (by decide) (by decide) h

theorem digitsOf_ne_nil (n : ℕ) : digitsOf n ≠ [] := by
  simp [digitsOf]

theorem head_digitsOf (n : ℕ) (h : (digitsOf n).head? = some 0) : n = 0 := by
  induction n using Nat.base_induction 10 (by decide) with
  | single n small =>
    rw [digitsOf, Nat.toDigits_of_lt_base small] at h
    simpa [digitOf, Nat.toNat_digitChar_of_lt_ten small] using h
  | digit n d small pos ih =>
    have split : digitsOf (10 * n + d) = digitsOf n ++ digitsOf d := by
      rw [digitsOf, ← Nat.toDigits_append_toDigits (by decide) pos small, List.map_append]
      rfl
    obtain ⟨first, more, cons⟩ := List.exists_cons_of_ne_nil (digitsOf_ne_nil n)
    rw [split, cons] at h
    have := ih (by rw [cons]; exact h)
    omega

theorem foldl_digitsOf (n : ℕ) : (digitsOf n).foldl (fun m d => m * 10 + d) 0 = n := by
  have h := Nat.ofDigitChars_ten_toDigits (n := n)
  rw [Nat.ofDigitChars_eq_foldl] at h
  rw [digitsOf, List.foldl_map]
  simpa [digitOf, Nat.mul_comm] using h

theorem fill_of_lt (m : ℕ) (digits : List ℕ)
    (fits : digits.foldl (fun m d => m * 10 + d) m < UInt64.size) :
    fill m digits = (digits.foldl (fun m d => m * 10 + d) m, digits.length) := by
  have le_foldl (digits : List ℕ) (m : ℕ) : m ≤ digits.foldl (fun m d => m * 10 + d) m := by
    induction digits generalizing m with
    | nil => exact Nat.le_refl m
    | cons d digits ih => exact Nat.le_trans (by omega) (ih (m * 10 + d))
  induction digits generalizing m with
  | nil => rfl
  | cons d digits ih =>
    have next : m * 10 + d < UInt64.size := Nat.lt_of_le_of_lt (le_foldl digits _) fits
    rw [fill, if_pos next, ih _ fits]
    rfl

theorem readWhole_digits (n : ℕ) (ends : Ends rest) :
    readWhole ((Nat.toDigits 10 n).map .char ++ rest) = .ok (digitsOf n, rest) := by
  have taken : takeDigits ((Nat.toDigits 10 n).map .char ++ rest) = (digitsOf n, rest) :=
    takeDigits_append (fun c => isDigit_toDigits) ends
  unfold readWhole
  rw [taken]
  cases digits : digitsOf n with
  | nil => exact absurd digits (digitsOf_ne_nil n)
  | cons d more =>
    cases d with
    | succ d => cases more <;> rfl
    | zero =>
      have zero := head_digitsOf n (by rw [digits]; rfl)
      subst zero
      cases digits
      rfl

theorem readNumeral_digits (negative : Bool) (n : ℕ) (ends : Ends rest) :
    readNumeral negative ((Nat.toDigits 10 n).map .char ++ rest) =
      .ok (⟨negative, digitsOf n, none, none⟩, rest) := by
  unfold readNumeral
  rw [readWhole_digits n ends]
  cases rest with
  | nil => rfl
  | cons symbol rest =>
    obtain ⟨_, point, lower, upper⟩ := ends symbol rfl
    simp only [bind, Except.bind, pure, Except.pure]
    split
    · rename_i eq
      exact absurd (List.cons.inj eq).1 point
    · split
      · rename_i eq
        exact absurd (List.cons.inj eq).1 lower
      · rename_i eq
        exact absurd (List.cons.inj eq).1 upper
      · rfl

/-- The significand of a number within 64 bits is the number, with nothing left over. -/
theorem significand_digits (negative : Bool) {n : ℕ} (h : n < UInt64.size) :
    Numeral.significand ⟨negative, digitsOf n, none, none⟩ = (n, 0) := by
  have filled := fill_of_lt 0 (digitsOf n) (by rw [foldl_digitsOf]; exact h)
  rw [foldl_digitsOf] at filled
  simp [Numeral.significand, filled, fill]

theorem readNumber_natural {n : ℕ} (h : n < UInt64.size) (ends : Ends rest) :
    readNumber false ((Nat.toDigits 10 n).map .char ++ rest) = .ok (.natural n, rest) := by
  have value : Numeral.value? ⟨false, digitsOf n, none, none⟩ = some (.natural n) := by
    unfold Numeral.value?
    rw [significand_digits false h]
    exact if_pos ⟨rfl, Bool.false_ne_true⟩
  unfold readNumber
  rw [readNumeral_digits false n ends]
  simp only [bind, Except.bind, value]
  rfl

theorem readNumber_negative {n : ℕ} (pos : 0 < n) (h : n ≤ Nat.pow 2 63) (ends : Ends rest) :
    readNumber true ((Nat.toDigits 10 n).map .char ++ rest) = .ok (.negative n, rest) := by
  have value : Numeral.value? ⟨true, digitsOf n, none, none⟩ = some (.negative n) := by
    have small : n < UInt64.size := Nat.lt_of_le_of_lt h (by decide)
    unfold Numeral.value?
    rw [significand_digits true small]
    exact (if_neg fun unsigned => unsigned.2 rfl).trans (if_pos ⟨rfl, pos, h⟩)
  unfold readNumber
  rw [readNumeral_digits true n ends]
  simp only [bind, Except.bind, value]
  rfl

theorem readNumber_negativeZero (ends : Ends rest) :
    readNumber true (['0', '.', '0'].map .char ++ rest) =
      .ok (.double 0x8000000000000000, rest) := by
  have value : Numeral.value? ⟨true, [0], some [0], none⟩ = some (.double 0x8000000000000000) := by
    decide +kernel
  have whole : readWhole (['0', '.', '0'].map .char ++ rest) =
      .ok ([0], ['.', '0'].map .char ++ rest) := rfl
  have fraction : readFraction (['0'].map .char ++ rest) = .ok ([0], rest) := by
    unfold readFraction
    rw [takeDigits_append (fun c mem => by cases List.mem_singleton.mp mem; decide) ends]
    rfl
  have numeral : readNumeral true (['0', '.', '0'].map .char ++ rest) =
      .ok (⟨true, [0], some [0], none⟩, rest) := by
    unfold readNumeral
    rw [whole]
    simp only [List.map_cons, List.map_nil, List.cons_append, List.nil_append] at fraction ⊢
    simp only [fraction, bind, Except.bind, pure, Except.pure]
    cases rest with
    | nil => rfl
    | cons symbol rest =>
      obtain ⟨_, _, lower, upper⟩ := ends symbol rfl
      split
      · rename_i eq
        exact absurd (List.cons.inj eq).1 lower
      · rename_i eq
        exact absurd (List.cons.inj eq).1 upper
      · rfl
  unfold readNumber
  rw [numeral]
  simp only [bind, Except.bind, value]
  rfl

theorem readNumber_text {n : Number} (h : n.Integral) :
    (∃ m < UInt64.size, n = .natural m ∧ n.text.toList = Nat.toDigits 10 m) ∨
      ∃ text, n.text.toList = '-' :: text ∧ ∀ rest, Ends rest →
        readNumber true (text.map .char ++ rest) = .ok (n, rest) := by
  cases h with
  | natural h => exact .inl ⟨_, h, rfl, Nat.toList_repr⟩
  | @negative n pos h =>
    have text : (Number.negative n).text.toList = '-' :: Nat.toDigits 10 n := by
      rw [Number.text, String.toList_append]
      exact congrArg _ Nat.toList_repr
    exact .inr ⟨_, text, fun rest => readNumber_negative pos h⟩
  | negativeZero =>
    exact .inr ⟨['0', '.', '0'], by decide +kernel, fun rest => readNumber_negativeZero⟩

end Json

namespace Json

theorem hexValue_hexDigit : ∀ n < 16, hexValue? (hexDigit n) = some n := by
  decide

theorem readEscape_control {c : Char} (control : c.toNat < 0x20) (rest : List Symbol) :
    readEscape (['u', '0', '0', hexDigit (c.toNat / 16), hexDigit (c.toNat % 16)].map .char ++ rest) =
      .ok (c, 5) := by
  have high := hexValue_hexDigit (c.toNat / 16) (by omega)
  have low := hexValue_hexDigit (c.toNat % 16) (by omega)
  have zero : hexValue? '0' = some 0 := by decide
  have code : 0 * 4096 + 0 * 256 + c.toNat / 16 * 16 + c.toNat % 16 = c.toNat := by omega
  have lone : ¬ (0xDC00 ≤ c.toNat ∧ c.toNat ≤ 0xDFFF) := by omega
  have paired : ¬ (0xD800 ≤ c.toNat ∧ c.toNat ≤ 0xDBFF) := by omega
  simp only [List.map_cons, List.map_nil, List.cons_append, List.nil_append, readEscape, readHex,
    symbolHex?, zero, high, low, code, bind, Except.bind, if_neg lone, if_neg paired,
    Char.ofNat_toNat]
  rfl

theorem readChars_escapeChar (c : Char) (s : List Symbol) :
    readChars true ((escapeChar c).map .char ++ s) =
      (readChars true s).map fun (chars, rest) => (c :: chars, rest) := by
  have short {e : Char} (h : readEscape (.char e :: s) = .ok (c, 1)) :
      readChars true (.char '\\' :: .char e :: s) =
        (readChars true s).map fun (chars, rest) => (c :: chars, rest) := by
    rw [readChars, if_neg (by decide), if_pos rfl, h]
    rfl
  unfold escapeChar
  split_ifs with quote backslash line carriage tab back form control
  · subst quote
    exact short rfl
  · subst backslash
    exact short rfl
  · subst line
    exact short rfl
  · subst carriage
    exact short rfl
  · subst tab
    exact short rfl
  · subst back
    exact short rfl
  · subst form
    exact short rfl
  · rw [List.map_cons, List.cons_append, readChars, if_neg (by decide), if_pos rfl,
      readEscape_control control]
    rfl
  · rw [List.map_cons, List.map_nil, List.cons_append, List.nil_append, readChars, if_neg quote,
      if_neg backslash, if_neg control]
    rfl

theorem readString_quoted (text : String) (rest : List Symbol) :
    readString ((text.toList.flatMap escapeChar ++ ['"']).map .char ++ rest) = .ok (text, rest) := by
  have chars (cs : List Char) :
      readChars true ((cs.flatMap escapeChar ++ ['"']).map .char ++ rest) = .ok (cs, rest) := by
    induction cs with
    | nil =>
      rw [List.flatMap_nil, List.nil_append, List.map_cons, List.map_nil, List.cons_append,
        List.nil_append, readChars, if_pos rfl, if_pos rfl]
    | cons c cs ih =>
      rw [List.flatMap_cons, List.append_assoc, List.map_append, List.append_assoc,
        readChars_escapeChar, ih]
      rfl
  unfold readString
  rw [chars]
  change Except.ok (String.ofList text.toList, rest) = _
  rw [String.ofList_toList]

end Json

end OpenApiClient
