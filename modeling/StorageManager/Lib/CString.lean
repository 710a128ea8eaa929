import Mathlib.Data.Int.Order.Basic
import Mathlib.Data.List.Basic
import Mathlib.Tactic.Common
import Mathlib.Algebra.Ring.Int.Defs
import Mathlib.Algebra.Ring.Nat

/-!
# C strings, bounded buffers and decimal text

A C string is the list of its characters up to the terminator.  Three things about it decide
what a program does with long or odd input, and this file fixes them once.

* `fit size s` — what is left of `s` after `snprintf` into a buffer of `size` bytes, or after
  `strncpy (.., size - 1)` into a zeroed one: the first `size - 1` characters.
* `fitOver junk size s` — the same `strncpy` into memory that was *not* zeroed.  When the text
  fills the copied part there is no terminator and the string runs on into `junk`, whatever
  the memory behind it holds.
* `CharArray n` — an array that is not zeroed before `strncpy`, with the byte that the copy leaves
  alone; `read_strncpy_eq_fit_iff` says when the copy ends in it.
* `append_cons_inj`, `append_separator` — what a text with separators in it determines.
* `decimal`, `zeroPad`, `scanInt` — `%d`, `%0wd` and the `%d` of `scanf`, with the round trip
  `scanInt_decimal` and the injectivity of padded numbers.
-/

namespace CString

/-- The characters of a string of C before its terminator. -/
abbrev CStr := List Char

-- declared here so that tests for membership share it
instance : LawfulBEq CStr := inferInstanceAs (LawfulBEq (List Char))

/-! ## Bounded copies -/

/-- The first `size - 1` characters: a terminated copy in a buffer of `size` bytes. -/
def fit (size : ℕ) (s : CStr) : CStr := s.take (size - 1)

lemma length_fit_lt {size : ℕ} (h : 0 < size) (s : CStr) : (fit size s).length < size := by
  rw [fit, List.length_take]
  omega

lemma fit_of_lt {size : ℕ} {s : CStr} (h : s.length < size) : fit size s = s :=
  List.take_of_length_le (by omega)

/-- The copy of `s` under `strncpy (.., size - 1)` into memory with arbitrary contents. -/
def fitOver (junk : CStr) (size : ℕ) (s : CStr) : CStr :=
  if s.length < size - 1 then s else s.take (size - 1) ++ junk

lemma fitOver_of_lt {junk : CStr} {size : ℕ} {s : CStr} (h : s.length < size - 1) :
    fitOver junk size s = s := if_pos h

/-- The two copies agree whatever the memory held only if there is room to spare. -/
lemma fitOver_eq_fit_iff {size : ℕ} {s : CStr} :
    (∀ junk, fitOver junk size s = fit size s) ↔ s.length < size - 1 := by
  constructor
  · intro h
    by_contra hlong
    have hrun := h ['x']
    rw [fitOver, if_neg hlong, fit] at hrun
    simpa using congrArg List.length hrun
  · intro h junk
    rw [fitOver_of_lt h, fit_of_lt (by omega)]

/-- Only the empty text leaves nothing, if there is room for a character. -/
lemma fitOver_eq_nil_iff {size : ℕ} {s : CStr} (hsize : 1 < size) :
    (∀ junk, fitOver junk size s = []) ↔ s = [] := by
  constructor
  · intro h
    have hempty := h []
    by_cases hlen : s.length < size - 1
    · rwa [fitOver_of_lt hlen] at hempty
    · rw [fitOver, if_neg hlen, List.append_nil, List.take_eq_nil_iff] at hempty
      exact hempty.resolve_left (by omega)
  · rintro rfl junk
    exact fitOver_of_lt (Nat.sub_pos_of_lt hsize)

/-- A character array of `n + 1` bytes: the text in the first `n` of them, which is where `strncpy`
with `n` writes, and the last byte, which is `none` when it is a terminator. -/
@[ext]
structure CharArray (n : ℕ) where
  text : CStr
  length_le : text.length ≤ n
  last : Option Char
  deriving DecidableEq

namespace CharArray

variable {n : ℕ}

/-- After `memset (.., 0, ..)`. -/
def zero : CharArray n := ⟨[], Nat.zero_le n, none⟩

/-- `strncpy (a, s, n)`. -/
def strncpy (a : CharArray n) (s : CStr) : CharArray n :=
  ⟨s.take n, List.length_take_le n s, a.last⟩

/-- The string that starts at the array, when `next` is the one that starts behind it. -/
def read (a : CharArray n) (next : CStr) : CStr :=
  if a.text.length < n then a.text
  else a.text ++ (a.last.map (· :: next)).getD []

/-- A copy of `s` to the array will be terminated. -/
def Ends (a : CharArray n) (s : CStr) : Prop := s.length < n ∨ a.last = none

instance (a : CharArray n) (s : CStr) : Decidable (a.Ends s) := inferInstanceAs (Decidable (_ ∨ _))

lemma read_strncpy (a : CharArray n) (s next : CStr) :
    (a.strncpy s).read next = fitOver ((a.last.map (· :: next)).getD []) (n + 1) s := by
  have hlen : (a.strncpy s).text.length = min n s.length := List.length_take
  by_cases h : s.length < n
  · rw [read, if_pos (by omega), fitOver_of_lt h]
    exact List.take_of_length_le (Nat.le_of_lt h)
  · rw [read, if_neg (by omega), fitOver, Nat.add_sub_cancel, if_neg h]
    rfl

@[simp] lemma read_strncpy_zero (s next : CStr) :
    ((zero : CharArray n).strncpy s).read next = fit (n + 1) s := by
  rw [read_strncpy, fitOver, fit, Nat.add_sub_cancel]
  split_ifs with h
  · exact (List.take_of_length_le (Nat.le_of_lt h)).symm
  · exact List.append_nil _

/-- The copy is read as in cleared memory exactly if it ends in the array: otherwise it is longer
than the array. -/
lemma read_strncpy_eq_fit_iff {a : CharArray n} {s next : CStr} :
    (a.strncpy s).read next = fit (n + 1) s ↔ a.Ends s := by
  rw [read_strncpy, fitOver, fit, Nat.add_sub_cancel, Ends]
  by_cases h : s.length < n
  · simp [h, List.take_of_length_le (Nat.le_of_lt h)]
  · rw [if_neg h, or_iff_right h]
    cases a.last <;> simp

end CharArray

/-! ## Separators -/

/-- A text up to a character that is not in it is determined by the whole. -/
lemma append_cons_inj {c : Char} {x y s t : CStr} (hx : c ∉ x) (hy : c ∉ y)
    (h : x ++ c :: s = y ++ c :: t) : x = y ∧ s = t := by
  induction x generalizing y with
  | nil =>
      cases y with
      | nil => exact ⟨rfl, (List.cons.inj h).2⟩
      | cons b y => exact absurd (List.cons.inj h).1 fun heq => hy (heq ▸ List.mem_cons_self)
  | cons a x ih =>
      cases y with
      | nil => exact absurd (List.cons.inj h).1 fun heq => hx (heq ▸ List.mem_cons_self)
      | cons b y =>
          obtain ⟨rfl, hrest⟩ := List.cons.inj h
          obtain ⟨rfl, rfl⟩ := ih (fun hc => hx (List.mem_cons_of_mem _ hc))
            (fun hc => hy (List.mem_cons_of_mem _ hc)) hrest
          exact ⟨rfl, rfl⟩

/-- Two texts with a separator of two characters in them: they are split at the same place, or the
first part of one goes on with the separator in the first part of the other. -/
lemma append_separator {a b : Char} (hab : a ≠ b) {x y s t : CStr}
    (h : x ++ a :: b :: s = y ++ a :: b :: t) :
    (x = y ∧ s = t) ∨ x ++ [a, b] <+: y ∨ y ++ [a, b] <+: x := by
  have hlong : ∀ {x rest s t : CStr}, a :: b :: s = rest ++ a :: b :: t →
      (rest = [] ∧ s = t) ∨ x ++ [a, b] <+: x ++ rest := by
    intro x rest s t h
    rcases rest with _ | ⟨c, _ | ⟨c', rest⟩⟩
    · simp only [List.nil_append, List.cons.injEq, true_and] at h
      exact Or.inl ⟨rfl, h⟩
    · simp only [List.cons_append, List.nil_append, List.cons.injEq] at h
      exact absurd h.2.1.symm hab
    · simp only [List.cons_append, List.cons.injEq] at h
      obtain ⟨rfl, rfl, -⟩ := h
      exact Or.inr (List.prefix_append_right_inj x |>.mpr (by simp))
  rcases List.append_eq_append_iff.mp h with ⟨rest, rfl, hrest⟩ | ⟨rest, rfl, hrest⟩
  · rcases hlong (x := x) hrest with ⟨rfl, rfl⟩ | hpre
    · exact Or.inl ⟨(List.append_nil x).symm, rfl⟩
    · exact Or.inr (Or.inl hpre)
  · rcases hlong (x := y) hrest with ⟨rfl, rfl⟩ | hpre
    · exact Or.inl ⟨List.append_nil y, rfl⟩
    · exact Or.inr (Or.inr hpre)

/-! ## Decimal text -/

/-- `%d` of a natural number. -/
def decimal (n : ℕ) : CStr := Nat.toDigits 10 n

/-- `%d`. -/
def intText : ℤ → CStr
  | .ofNat n => decimal n
  | .negSucc n => '-' :: decimal (n + 1)

/-- `%0wd` of a natural number. -/
def zeroPad (w n : ℕ) : CStr := List.replicate (w - (decimal n).length) '0' ++ decimal n

lemma isDigit_of_mem_decimal {n : ℕ} {c : Char} (h : c ∈ decimal n) : c.isDigit = true :=
  Nat.isDigit_of_mem_toDigits (by omega) (by omega) h

lemma newline_notMem_decimal (n : ℕ) : '\n' ∉ decimal n := fun h =>
  absurd (isDigit_of_mem_decimal h) (by decide)

lemma decimal_ne_nil (n : ℕ) : decimal n ≠ [] := Nat.toDigits_ne_nil

lemma ofDigitChars_zeroPad (w n : ℕ) : Nat.ofDigitChars 10 (zeroPad w n) 0 = n := by
  rw [zeroPad, Nat.ofDigitChars_append, Nat.ofDigitChars_replicate_zero, Nat.mul_zero]
  exact Nat.ofDigitChars_ten_toDigits

/-- A padded number determines the number, whatever the width. -/
lemma zeroPad_injective (w : ℕ) : Function.Injective (zeroPad w) := by
  intro m n h
  rw [← ofDigitChars_zeroPad w m, ← ofDigitChars_zeroPad w n, h]

/-- A number with at most `w` digits is padded to exactly `w` characters. -/
lemma length_zeroPad {w n : ℕ} (hw : 0 < w) (h : n < 10 ^ w) : (zeroPad w n).length = w := by
  have hle : (decimal n).length ≤ w := (Nat.length_toDigits_le_iff (by omega) hw).mpr h
  simp only [zeroPad, List.length_append, List.length_replicate]
  omega

lemma isDigit_of_mem_zeroPad {w n : ℕ} {c : Char} (h : c ∈ zeroPad w n) : c.isDigit = true := by
  rcases List.mem_append.mp h with h | h
  · rw [(List.mem_replicate.mp h).2]; rfl
  · exact isDigit_of_mem_decimal h

/-! ## Scanning a number -/

/-- `isspace` in the C locale. -/
def isSpace (c : Char) : Bool :=
  c == ' ' || c == '\t' || c == '\n' || c == '\x0b' || c == '\x0c' || c == '\r'

/-- What `scanf` stores through an `int *`: the value saturates at 64 bits and is then cut to
its low 32, as two's complement. -/
def asInt (v : ℤ) : ℤ := (max (-2 ^ 63) (min (2 ^ 63 - 1) v)).bmod (2 ^ 32)

lemma asInt_of_small {n : ℕ} (h : n < 2 ^ 31) : asInt n = n := by
  have hclamp : max (-2 ^ 63) (min (2 ^ 63 - 1) (n : ℤ)) = n := by omega
  rw [asInt, hclamp]
  exact Int.bmod_eq_of_le (by omega) (by omega)

/-- The leading digits of `s` as a number, if there are any. -/
def scanDigits (s : CStr) : Option ℕ :=
  let ds := s.takeWhile Char.isDigit
  if ds = [] then none else some (Nat.ofDigitChars 10 ds 0)

/-- `fscanf (.., "%d", ..)`: blanks, an optional sign, digits. -/
def scanInt (s : CStr) : Option ℤ :=
  match s.dropWhile isSpace with
  | '-' :: r => (scanDigits r).map fun n : ℕ => asInt (-(n : ℤ))
  | '+' :: r => (scanDigits r).map fun n : ℕ => asInt (n : ℤ)
  | r => (scanDigits r).map fun n : ℕ => asInt (n : ℤ)

lemma takeWhile_digits (ds : CStr) (hds : ∀ c ∈ ds, c.isDigit = true) (c : Char) (rest : CStr)
    (hc : c.isDigit = false) : (ds ++ c :: rest).takeWhile Char.isDigit = ds := by
  induction ds with
  | nil => simp [hc]
  | cons d ds ih =>
      rw [List.cons_append, List.takeWhile_cons, if_pos (hds d (by simp)),
        ih fun c hc => hds c (by simp [hc])]

lemma not_isSpace_of_isDigit {c : Char} (h : c.isDigit = true) : isSpace c = false := by
  simp only [Char.isDigit, Bool.and_eq_true, decide_eq_true_eq] at h
  simp only [isSpace, Bool.or_eq_false_iff, beq_eq_false_iff_ne, ne_eq]
  refine ⟨⟨⟨⟨⟨?_, ?_⟩, ?_⟩, ?_⟩, ?_⟩, ?_⟩ <;>
    · rintro rfl
      exact absurd h.1 (by decide)

/-- **Round trip.**  A number written by `%d` and followed by anything that is not a digit is
read back by the `%d` of `scanf`. -/
theorem scanInt_decimal {n : ℕ} (hn : n < 2 ^ 31) {c : Char} (hc : c.isDigit = false)
    (rest : CStr) : scanInt (decimal n ++ c :: rest) = some (n : ℤ) := by
  have hscan : scanDigits (decimal n ++ c :: rest) = some n := by
    simp only [scanDigits]
    rw [takeWhile_digits (decimal n) (fun d hd => isDigit_of_mem_decimal hd) c rest hc,
      if_neg (decimal_ne_nil n), decimal, Nat.ofDigitChars_ten_toDigits]
  obtain ⟨d, ds, hd⟩ := List.exists_cons_of_ne_nil (decimal_ne_nil n)
  have hdig : d.isDigit = true := isDigit_of_mem_decimal (n := n) (by simp [hd])
  have hdrop : (decimal n ++ c :: rest).dropWhile isSpace = decimal n ++ c :: rest := by
    rw [hd, List.cons_append, List.dropWhile_cons, not_isSpace_of_isDigit hdig]
    rfl
  rw [scanInt, hdrop]
  split
  · next r heq =>
      rw [hd, List.cons_append, List.cons.injEq] at heq
      rw [heq.1] at hdig
      exact absurd hdig (by decide)
  · next r heq =>
      rw [hd, List.cons_append, List.cons.injEq] at heq
      rw [heq.1] at hdig
      exact absurd hdig (by decide)
  · rw [hscan, Option.map_some, asInt_of_small hn]

end CString
