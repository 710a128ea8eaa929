import StorageManager.Lib.CString
import Mathlib.Data.List.DropRight
import Mathlib.Data.List.Infix
import Mathlib.Data.List.TakeWhile

/-!
# Lines, words and numbers of a text

The pieces of `fgets`, `strtok` and `sscanf` that read the output of another program.

* `fgetsAll size s` — `s` as successive calls of `fgets` with a buffer of `size` bytes return it.
* `tokens sep s` — `strtok` with one separator: the non-empty stretches between separators;
  `tokens_take_lines` for a text in lines that breaks off somewhere.
* `strstr s w` — the text from the first occurrence of `w` on.
* `scanWord width s`, `scanUnsigned s` — `%<width>s` and `%llu`, each with what is left.
* `fields s` — the fields of `awk`.
* `scanFormat format s` — the text before a conversion, where a blank stands for any white space.

The lemmas say how the conversions run over a text in columns, and over such a text when it breaks
off somewhere (`scanWord_take`, `scanUnsigned_take`): a conversion fails before its column has
begun, and otherwise leaves the columns after it, cut at the same place.
-/

namespace CString

/-! ## Lines -/

/-- The rest of the input `s` in lines, when `cur` is what `fgets` has read of the current one. -/
def fgetsFrom (size : ℕ) (cur : CStr) : CStr → List CStr
  | [] => if cur = [] then [] else [cur]
  | c :: s =>
      if c = '\n' ∨ cur.length + 2 = size then (cur ++ [c]) :: fgetsFrom size [] s
      else fgetsFrom size (cur ++ [c]) s

/-- What a loop of `fgets` reads of a file, piece by piece. -/
def fgetsAll (size : ℕ) (s : CStr) : List CStr := fgetsFrom size [] s

lemma flatten_fgetsFrom (size : ℕ) (cur s : CStr) : (fgetsFrom size cur s).flatten = cur ++ s := by
  induction s generalizing cur with
  | nil =>
      by_cases hcur : cur = []
      · simp [fgetsFrom, hcur]
      · simp [fgetsFrom, hcur]
  | cons c s ih =>
      unfold fgetsFrom
      split_ifs
      · rw [List.flatten_cons, ih, List.nil_append, List.append_assoc, List.singleton_append]
      · rw [ih, List.append_assoc, List.singleton_append]

/-- The lines together are the input. -/
lemma flatten_fgetsAll (size : ℕ) (s : CStr) : (fgetsAll size s).flatten = s :=
  flatten_fgetsFrom size [] s

lemma ne_nil_of_mem_fgetsFrom {size : ℕ} {cur s l : CStr} (h : l ∈ fgetsFrom size cur s) :
    l ≠ [] := by
  induction s generalizing cur with
  | nil =>
      unfold fgetsFrom at h
      split_ifs at h with hcur
      · exact absurd h List.not_mem_nil
      · rwa [List.mem_singleton.mp h]
  | cons c s ih =>
      unfold fgetsFrom at h
      split_ifs at h
      · rcases List.mem_cons.mp h with rfl | h
        · simp
        · exact ih h
      · exact ih h

/-- `fgets` returns something each time. -/
lemma ne_nil_of_mem_fgetsAll {size : ℕ} {s l : CStr} (h : l ∈ fgetsAll size s) : l ≠ [] :=
  ne_nil_of_mem_fgetsFrom h

/-- A line that fits the buffer is returned whole. -/
lemma fgetsFrom_line {size : ℕ} {cur l : CStr} (hl : '\n' ∉ l)
    (hshort : cur.length + l.length + 1 < size) (s : CStr) :
    fgetsFrom size cur (l ++ '\n' :: s) = (cur ++ l ++ ['\n']) :: fgetsFrom size [] s := by
  induction l generalizing cur with
  | nil => rw [List.nil_append, fgetsFrom, if_pos (Or.inl rfl), List.append_nil]
  | cons c l ih =>
      rw [List.mem_cons, not_or] at hl
      rw [List.length_cons] at hshort
      have hgo : ¬ (c = '\n' ∨ cur.length + 2 = size) := by
        rintro (rfl | hfull)
        · exact hl.1 rfl
        · omega
      rw [List.cons_append, fgetsFrom, if_neg hgo, ih hl.2, List.append_assoc cur [c] l,
        List.singleton_append]
      rw [List.length_append, List.length_singleton]
      omega

/-- A line that fills the buffer is returned without its end. -/
lemma fgetsFrom_full {size : ℕ} {cur l : CStr} (hl : '\n' ∉ l) (hne : l ≠ [])
    (hfull : cur.length + l.length + 1 = size) (s : CStr) :
    fgetsFrom size cur (l ++ s) = (cur ++ l) :: fgetsFrom size [] s := by
  induction l generalizing cur with
  | nil => exact absurd rfl hne
  | cons c l ih =>
      rw [List.mem_cons, not_or] at hl
      rw [List.length_cons] at hfull
      rw [List.cons_append, fgetsFrom]
      cases l with
      | nil => exact if_pos (Or.inr hfull)
      | cons d l =>
          have hgo : ¬ (c = '\n' ∨ cur.length + 2 = size) := by
            rintro (rfl | hend)
            · exact hl.1 rfl
            · rw [List.length_cons] at hfull
              omega
          rw [if_neg hgo, ih hl.2 (List.cons_ne_nil d l), List.append_assoc cur [c],
            List.singleton_append]
          rw [List.length_append, List.length_singleton]
          omega

lemma fgetsAll_lines {size : ℕ} {lines : List CStr}
    (h : ∀ l ∈ lines, '\n' ∉ l ∧ l.length + 1 < size) :
    fgetsAll size (lines.flatMap fun l => l ++ ['\n']) = lines.map fun l => l ++ ['\n'] := by
  induction lines with
  | nil => rfl
  | cons l lines ih =>
      obtain ⟨⟨hl, hshort⟩, hlines⟩ := List.forall_mem_cons.mp h
      rw [List.flatMap_cons, List.append_assoc, List.singleton_append, List.map_cons, ← ih hlines]
      exact fgetsFrom_line hl (by rw [List.length_nil]; omega) _

/-- What comes after the end of a line is read as if nothing had been before. -/
lemma fgetsFrom_newline (size : ℕ) (cur a b : CStr) :
    fgetsFrom size cur (a ++ '\n' :: b) =
      fgetsFrom size cur (a ++ ['\n']) ++ fgetsFrom size [] b := by
  induction a generalizing cur with
  | nil =>
      rw [List.nil_append, List.nil_append, fgetsFrom, fgetsFrom, if_pos (Or.inl rfl),
        if_pos (Or.inl rfl)]
      rfl
  | cons c a ih =>
      rw [List.cons_append, List.cons_append, fgetsFrom, fgetsFrom]
      split_ifs
      · rw [ih, List.cons_append]
      · exact ih _

/-- The lines of a text are read one by one, each in as many pieces as it takes. -/
lemma fgetsAll_append_lines (size : ℕ) (lines : List CStr) (b : CStr) :
    fgetsAll size ((lines.flatMap fun l => l ++ ['\n']) ++ b) =
      (lines.flatMap fun l => fgetsAll size (l ++ ['\n'])) ++ fgetsAll size b := by
  induction lines with
  | nil => rfl
  | cons l lines ih =>
      rw [List.flatMap_cons, List.flatMap_cons, List.append_assoc, List.append_assoc,
        List.append_assoc, List.singleton_append, ← ih]
      exact fgetsFrom_newline size [] l _

lemma length_fgetsFrom_line {size : ℕ} {cur l : CStr} (hcur : cur.length + 2 ≤ size)
    (hl : '\n' ∉ l) :
    (fgetsFrom size cur (l ++ ['\n'])).length =
      (cur.length + (l.length + 1) + (size - 2)) / (size - 1) := by
  induction l generalizing cur with
  | nil =>
      have hone : (cur.length + ([] : CStr).length + 1 + (size - 2)) / (size - 1) = 1 :=
        Nat.div_eq_of_lt_le (by simp; omega) (by simp; omega)
      rw [List.nil_append, fgetsFrom, if_pos (Or.inl rfl), ← Nat.add_assoc, hone]
      rfl
  | cons c l ih =>
      rw [List.mem_cons, not_or] at hl
      rw [List.cons_append, fgetsFrom]
      split_ifs with hend
      · have hfull : cur.length + 2 = size := hend.resolve_left (Ne.symm hl.1)
        rw [List.length_cons, ih (by simp; omega) hl.2, ← Nat.add_div_right _ (by omega)]
        congr 1
        simp only [List.length_nil, List.length_cons]
        omega
      · rw [ih (by simp; omega) hl.2]
        congr 1
        simp only [List.length_append, List.length_cons, List.length_nil]
        omega

/-- A line of any length takes as many pieces as are needed for it and its end. -/
lemma length_fgetsAll_line {size : ℕ} {l : CStr} (hsize : 2 ≤ size) (hl : '\n' ∉ l) :
    (fgetsAll size (l ++ ['\n'])).length = (l.length + 1 + (size - 2)) / (size - 1) := by
  rw [fgetsAll, length_fgetsFrom_line (by simpa using hsize) hl, List.length_nil, Nat.zero_add]

lemma count_newline_lines {lines : List CStr} (h : ∀ l ∈ lines, '\n' ∉ l) :
    (lines.flatMap fun l => l ++ ['\n']).count '\n' = lines.length := by
  induction lines with
  | nil => rfl
  | cons l lines ih =>
      obtain ⟨hl, hlines⟩ := List.forall_mem_cons.mp h
      rw [List.flatMap_cons, List.count_append, List.count_append, ih hlines,
        List.count_eq_zero_of_not_mem hl, List.length_cons, Nat.add_comm]
      rfl

/-- A beginning of some lines that has all their ends in it is all of them. -/
lemma eq_lines_of_count {lines : List CStr} {p : CStr} (h : ∀ l ∈ lines, '\n' ∉ l)
    (hp : p <+: lines.flatMap fun l => l ++ ['\n']) (hcount : lines.length ≤ p.count '\n') :
    p = lines.flatMap fun l => l ++ ['\n'] := by
  rcases List.eq_nil_or_concat lines with rfl | ⟨init, l, rfl⟩
  · exact List.prefix_nil.mp hp
  · have hlines := count_newline_lines h
    rw [List.concat_eq_append] at hp hlines hcount ⊢
    rw [List.flatMap_append, List.flatMap_singleton, ← List.append_assoc] at hp hlines ⊢
    rcases List.prefix_concat_iff.mp hp with heq | hshort
    · exact heq
    · -- without the last end there are too few
      have hle := hcount.trans (hshort.sublist.count_le '\n')
      rw [← hlines, List.count_append] at hle
      exact absurd hle (Nat.not_succ_le_self _)

/-- The tokens of `s`, when `cur` is the part of the current one that is already read. -/
def tokensFrom (sep : Char) (cur : CStr) : CStr → List CStr
  | [] => if cur = [] then [] else [cur]
  | c :: s =>
      if c = sep then
        if cur = [] then tokensFrom sep [] s else cur :: tokensFrom sep [] s
      else tokensFrom sep (cur ++ [c]) s

/-- `strtok (s, sep)`, called until it returns `NULL`. -/
def tokens (sep : Char) (s : CStr) : List CStr := tokensFrom sep [] s

section Tokens

variable {sep : Char}

lemma tokensFrom_append {l : CStr} (hl : ∀ c ∈ l, c ≠ sep) (cur s : CStr) :
    tokensFrom sep cur (l ++ s) = tokensFrom sep (cur ++ l) s := by
  induction l generalizing cur with
  | nil => rw [List.nil_append, List.append_nil]
  | cons c l ih =>
      rw [List.cons_append, tokensFrom, if_neg (hl c List.mem_cons_self),
        ih (fun d hd => hl d (List.mem_cons_of_mem _ hd)), List.append_assoc,
        List.singleton_append]

/-- A text without the separator is one token. -/
lemma tokens_of_notMem {l : CStr} (hl : ∀ c ∈ l, c ≠ sep) :
    tokens sep l = if l = [] then [] else [l] := by
  have h := tokensFrom_append hl [] []
  rwa [List.append_nil, List.nil_append] at h

/-- A line and its end are one token. -/
lemma tokens_line {l : CStr} (hl : ∀ c ∈ l, c ≠ sep) (hne : l ≠ []) (s : CStr) :
    tokens sep (l ++ sep :: s) = l :: tokens sep s := by
  rw [tokens, tokensFrom_append hl, List.nil_append, tokensFrom, if_pos rfl, if_neg hne]
  rfl

/-- Lines of a text of which only `k` characters are left, each with its end. -/
def cutLines : ℕ → List CStr → List CStr
  | _, [] => []
  | k, l :: lines => l.take k :: cutLines (k - (l.length + 1)) lines

lemma cutLines_zero (lines : List CStr) : (cutLines 0 lines).filter (· ≠ []) = [] := by
  induction lines with
  | nil => rfl
  | cons l lines ih =>
      rw [cutLines, List.take_zero, List.filter_cons_of_neg (by simp), Nat.zero_sub, ih]

lemma cutLines_of_le {lines : List CStr} {k : ℕ}
    (h : (lines.flatMap fun l => l ++ [sep]).length ≤ k) : cutLines k lines = lines := by
  induction lines generalizing k with
  | nil => rfl
  | cons l lines ih =>
      rw [List.flatMap_cons, List.length_append, List.length_append, List.length_singleton] at h
      rw [cutLines, List.take_of_length_le (by omega), ih (by omega)]

lemma cutLines_append (k : ℕ) (l m : List CStr) :
    cutLines k (l ++ m) =
      cutLines k l ++ cutLines (k - (l.flatMap fun x => x ++ [sep]).length) m := by
  induction l generalizing k with
  | nil => rfl
  | cons x l ih =>
      rw [List.cons_append, cutLines, cutLines, ih, List.cons_append, List.flatMap_cons,
        List.length_append, List.length_append, List.length_singleton, Nat.sub_sub]

lemma prefix_of_mem_cutLines {k : ℕ} {lines : List CStr} {l : CStr} (h : l ∈ cutLines k lines) :
    ∃ m ∈ lines, l <+: m := by
  induction lines generalizing k with
  | nil => exact absurd h List.not_mem_nil
  | cons m lines ih =>
      rcases List.mem_cons.mp h with rfl | h
      · exact ⟨m, List.mem_cons_self, List.take_prefix k m⟩
      · obtain ⟨m', hm', hl⟩ := ih h
        exact ⟨m', List.mem_cons_of_mem _ hm', hl⟩

/-- The tokens of a text that breaks off are the lines cut at the same place. -/
lemma tokens_take_lines {lines : List CStr} (h : ∀ l ∈ lines, sep ∉ l) (k : ℕ) :
    tokens sep ((lines.flatMap fun l => l ++ [sep]).take k) =
      (cutLines k lines).filter (· ≠ []) := by
  induction lines generalizing k with
  | nil => simp [cutLines, tokens, tokensFrom]
  | cons l lines ih =>
      obtain ⟨hl, hlines⟩ := List.forall_mem_cons.mp h
      have hsep : ∀ c ∈ l, c ≠ sep := fun c hc heq => hl (by rwa [← heq])
      rw [List.flatMap_cons, List.append_assoc, List.singleton_append, cutLines]
      rcases Nat.lt_or_ge l.length k with hlong | hshort
      · obtain ⟨j, hj⟩ : ∃ j, k - l.length = j + 1 := ⟨k - l.length - 1, by omega⟩
        rw [List.take_append, List.take_of_length_le hlong.le, hj, List.take_succ_cons,
          show k - (l.length + 1) = j by omega]
        by_cases hempty : l = []
        · rw [hempty, List.filter_cons_of_neg (by simp), ← ih hlines]
          simp [tokens, tokensFrom]
        · rw [tokens_line hsep hempty, ih hlines, List.filter_cons_of_pos (by simpa using hempty)]
      · rw [List.take_append_of_le_length hshort, show k - (l.length + 1) = 0 by omega,
          tokens_of_notMem fun c hc => hsep c (List.mem_of_mem_take hc)]
        by_cases hempty : l.take k = []
        · rw [if_pos hempty, List.filter_cons_of_neg (by rw [hempty]; decide), cutLines_zero]
        · rw [if_neg hempty, List.filter_cons_of_pos (by simpa using hempty), cutLines_zero]

/-- The tokens of a text in lines are the lines that are not empty. -/
lemma tokens_lines {lines : List CStr} (h : ∀ l ∈ lines, sep ∉ l) :
    tokens sep (lines.flatMap fun l => l ++ [sep]) = lines.filter (· ≠ []) := by
  have hall := tokens_take_lines h (lines.flatMap fun l => l ++ [sep]).length
  rwa [List.take_length, cutLines_of_le le_rfl] at hall

end Tokens

/-! ## Searching -/

/-- `strstr (s, w)`: the rest of `s` from the first occurrence of `w` on. -/
def strstr (s w : CStr) : Option CStr := s.tails.find? fun t => w <+: t

section Search

variable {s t w : CStr} {c : Char}

lemma prefix_of_strstr (h : strstr s w = some t) : w <+: t :=
  of_decide_eq_true (List.find?_some (p := fun t => decide (w <+: t)) h)

/-- There is no occurrence where its first character does not stand. -/
lemma strstr_append {b : CStr} (hw : w.head? = some c) (hb : c ∉ b) (ht : w <+: t) :
    strstr (b ++ t) w = some t := by
  obtain ⟨w, rfl⟩ : ∃ w', w = c :: w' := List.head?_eq_some_iff.mp hw
  induction b with
  | nil =>
      obtain ⟨s, rfl⟩ := ht
      rw [List.nil_append, List.cons_append, strstr, List.tails_cons, List.find?_cons,
        decide_eq_true (List.cons_append ▸ List.prefix_append (c :: w) s)]
  | cons d b ih =>
      rw [List.mem_cons, not_or] at hb
      have hno : decide (c :: w <+: d :: (b ++ t)) = false :=
        decide_eq_false fun h => hb.1 (List.cons_prefix_cons.mp h).1
      rw [List.cons_append, strstr, List.tails_cons, List.find?_cons, hno]
      exact ih hb.2

/-- A word that ends in a character the text has only once ends there. -/
lemma suffix_of_infix {a b : CStr} (ha : c ∉ a) (hb : c ∉ b) (h : w ++ [c] <:+: a ++ c :: b) :
    w <:+ a := by
  obtain ⟨x, y, hxy⟩ := h
  rw [List.append_assoc, List.append_assoc, List.singleton_append, ← List.append_assoc] at hxy
  have hcount := congrArg (List.count c) hxy
  rw [List.count_append, List.count_cons_self] at hcount
  have hone : (a ++ c :: b).count c = 1 := by
    rw [List.count_append, List.count_cons_self, List.count_eq_zero_of_not_mem ha,
      List.count_eq_zero_of_not_mem hb]
  have hxw : c ∉ x ++ w := List.count_eq_zero.mp (by omega)
  exact ⟨x, (append_cons_inj hxw ha hxy).1⟩

/-- A word is not found across a character it does not have. -/
lemma infix_append_cons_iff {a b : CStr} (hc : c ∉ w) :
    w <:+: a ++ c :: b ↔ w <:+: a ∨ w <:+: b := by
  constructor
  · rintro ⟨x, y, hxy⟩
    rcases List.append_eq_append_iff.mp hxy with ⟨z, rfl, -⟩ | ⟨z, hz, hrest⟩
    · exact .inl ⟨x, z, rfl⟩
    cases z with
    | nil => exact .inl ⟨x, [], by simpa using hz⟩
    | cons d z =>
        obtain ⟨rfl, rfl⟩ := List.cons.inj hrest
        rcases List.append_eq_append_iff.mp hz with ⟨u, -, rfl⟩ | ⟨u, -, hu⟩
        · exact absurd (by simp) hc
        · cases u with
          | nil => exact absurd (show c ∈ w by rw [← List.nil_append w, ← hu]; simp) hc
          | cons d u =>
              obtain ⟨-, rfl⟩ := List.cons.inj hu
              exact .inr ⟨u, y, rfl⟩
  · rintro (h | h)
    · exact h.trans (List.prefix_append a (c :: b)).isInfix
    · exact h.trans ⟨a ++ [c], [], by simp⟩

/-- Two neighbouring characters do not meet where the one is not on the left or the other not on
the right. -/
lemma pair_infix_append {d : Char} {a b : CStr} (h : [c, d] <:+: a ++ b) (ha : d ∉ a)
    (hb : c ∉ b) : b.head? = some d := by
  obtain ⟨x, y, hxy⟩ := h
  rw [List.append_assoc] at hxy
  rcases List.append_eq_append_iff.mp hxy with ⟨z, rfl, hz⟩ | ⟨z, hz, rfl⟩
  · -- the pair begins in `a`
    cases z with
    | nil => exact absurd (show c ∈ b by rw [← List.nil_append b, ← hz]; simp) hb
    | cons e z =>
        obtain ⟨-, hz⟩ := List.cons.inj hz
        cases z with
        | nil => exact congrArg List.head? hz.symm
        | cons f z =>
            obtain ⟨rfl, -⟩ := List.cons.inj hz
            exact absurd (by simp) ha
  · exact absurd (by simp) hb

end Search

/-! ## Words -/

/-- The text of a format: a blank in it skips any white space, anything else must be there. -/
def scanFormat : CStr → CStr → Option CStr
  | [], s => some s
  | f :: format, s =>
      if isSpace f then scanFormat format (s.dropWhile isSpace)
      else
        match s with
        | [] => none
        | c :: s => if c = f then scanFormat format s else none

@[simp] lemma scanFormat_nil (s : CStr) : scanFormat [] s = some s := by rw [scanFormat.eq_def]

lemma scanFormat_blank (format s : CStr) :
    scanFormat (' ' :: format) s = scanFormat format (s.dropWhile isSpace) := by
  rw [scanFormat.eq_def]
  exact if_pos rfl

lemma scanFormat_cons {f : Char} (hf : isSpace f = false) (format s : CStr) :
    scanFormat (f :: format) (f :: s) = scanFormat format s := by
  rw [scanFormat.eq_def]
  simp [hf]

lemma scanFormat_append {w : CStr} (hw : ∀ c ∈ w, isSpace c = false) (format s : CStr) :
    scanFormat (w ++ format) (w ++ s) = scanFormat format s := by
  induction w with
  | nil => rfl
  | cons c w ih =>
      obtain ⟨hc, hw⟩ := List.forall_mem_cons.mp hw
      rw [List.cons_append, List.cons_append, scanFormat_cons hc, ih hw]

/-- A blank and a word of the format, where the text has white space and the word. -/
lemma scanFormat_word {b w : CStr} (hb : ∀ c ∈ b, isSpace c = true)
    (hw : ∀ c ∈ w, isSpace c = false) (hne : w ≠ []) (format s : CStr) :
    scanFormat (' ' :: (w ++ format)) (b ++ (w ++ s)) = scanFormat format s := by
  obtain ⟨c, w, rfl⟩ := List.exists_cons_of_ne_nil hne
  have hstop : (c :: w ++ s).dropWhile isSpace = c :: w ++ s := by
    simp [hw c List.mem_cons_self]
  rw [scanFormat_blank, List.dropWhile_append_of_pos hb, hstop, scanFormat_append hw]

/-- What follows the last `c`, or all of it: `strrchr`. -/
def afterLast (c : Char) (s : CStr) : CStr := (s.reverse.takeWhile (· ≠ c)).reverse

/-- `%<width>s`: the word and what follows it. -/
def scanWord (width : ℕ) (s : CStr) : Option (CStr × CStr) :=
  let r := s.dropWhile isSpace
  let w := (r.takeWhile fun c => !isSpace c).take width
  if w = [] then none else some (w, r.drop w.length)

/-- The leading digits of `s` as a number, and what follows them. -/
def splitDigits (s : CStr) : Option (ℕ × CStr) :=
  let ds := s.takeWhile Char.isDigit
  if ds = [] then none else some (Nat.ofDigitChars 10 ds 0, s.drop ds.length)

/-- The value of `strtoull` for a number without sign. -/
def saturate64 (n : ℕ) : ℕ := min n (2 ^ 64 - 1)

/-- The value of `strtoull` for a number with a minus sign. -/
def negate64 (n : ℕ) : ℕ := if n < 2 ^ 64 then (2 ^ 64 - n) % 2 ^ 64 else 2 ^ 64 - 1

/-- A decimal conversion, with the values of a number that has a minus sign and of one that has
none. -/
def scanNumber {α : Type*} (minus plus : ℕ → α) (s : CStr) : Option (α × CStr) :=
  match s.dropWhile isSpace with
  | '-' :: r => (splitDigits r).map fun p => (minus p.1, p.2)
  | '+' :: r => (splitDigits r).map fun p => (plus p.1, p.2)
  | r => (splitDigits r).map fun p => (plus p.1, p.2)

/-- `%llu`: the number and what follows it. -/
def scanUnsigned (s : CStr) : Option (ℕ × CStr) := scanNumber negate64 saturate64 s

/-- `%d`: the number and what follows it. -/
def scanSigned (s : CStr) : Option (ℤ × CStr) :=
  scanNumber (fun n => asInt (-(n : ℤ))) (fun n => asInt n) s

/-- A stretch of `n` blanks. -/
def blanks (n : ℕ) : CStr := List.replicate n ' '

@[simp] lemma length_blanks (n : ℕ) : (blanks n).length = n := List.length_replicate

/-- A text that is written out is searched for blanks by evaluation. -/
lemma noSpace_of_all {w : CStr} (h : w.all (fun c => !isSpace c) = true) :
    ∀ c ∈ w, isSpace c = false := by
  intro c hc
  simpa using List.all_eq_true.mp h c hc

lemma isSpace_of_mem_blanks {n : ℕ} {c : Char} (h : c ∈ blanks n) : isSpace c = true := by
  rw [(List.mem_replicate.mp h).2]
  rfl

lemma notMem_blanks {c : Char} (h : c ≠ ' ') (n : ℕ) : c ∉ blanks n := fun hc =>
  h (List.eq_of_mem_replicate hc)

/-- The text is empty or goes on with white space. -/
def Breaks (s : CStr) : Prop := ∀ c ∈ s.head?, isSpace c = true

lemma breaks_nil : Breaks [] := fun _ h => absurd h (by simp)

lemma breaks_newline : Breaks ['\n'] := by
  intro c hc
  rw [← Option.some.inj hc]
  rfl

lemma Breaks.append {s t : CStr} (hs : Breaks s) (ht : Breaks t) : Breaks (s ++ t) := by
  cases s with
  | nil => exact ht
  | cons c s => exact hs

lemma breaks_blanks_append (n : ℕ) (s : CStr) : Breaks (blanks (n + 1) ++ s) := by
  intro c hc
  have hhead : (blanks (n + 1) ++ s).head? = some ' ' := rfl
  rw [hhead, Option.mem_some_iff] at hc
  rw [← hc]
  rfl

lemma Breaks.take {s : CStr} (h : Breaks s) (k : ℕ) : Breaks (s.take k) := by
  intro c hc
  cases k with
  | zero => simp at hc
  | succ k =>
      rw [List.head?_take, if_neg (Nat.succ_ne_zero k)] at hc
      exact h c hc

/-- A word that is not only blanks is found behind the blanks. -/
lemma infix_blanks_append {w : CStr} (hw : w ≠ []) (hblank : ' ' ∉ w) (n : ℕ) (s : CStr) :
    w <:+: blanks n ++ s ↔ w <:+: s := by
  induction n with
  | zero => rfl
  | succ n ih =>
      have hcons : blanks (n + 1) ++ s = [] ++ ' ' :: (blanks n ++ s) := rfl
      rw [hcons, infix_append_cons_iff hblank, List.infix_nil, ih, or_iff_right hw]

/-! ### Fields -/

/-- The fields `awk` splits a line into. -/
def fields (s : CStr) : List CStr :=
  (s.splitOnP fun c => c == ' ' || c == '\t' || c == '\n').filter (· ≠ [])

lemma fields_append_blank (s t : CStr) : fields (s ++ ' ' :: t) = fields s ++ fields t := by
  rw [fields, List.splitOnP_append_cons s t rfl, List.filter_append, fields, fields]

lemma fields_blanks_append (n : ℕ) (s : CStr) : fields (blanks n ++ s) = fields s := by
  induction n with
  | zero => rfl
  | succ n ih => exact (fields_append_blank [] (blanks n ++ s)).trans ih

lemma fields_append_blanks (s : CStr) (n : ℕ) : fields (s ++ blanks n) = fields s := by
  cases n with
  | zero => rw [blanks, List.replicate_zero, List.append_nil]
  | succ n =>
      have hnone := fields_blanks_append n []
      have h := fields_append_blank s (blanks n ++ [])
      rwa [hnone, List.append_nil, show fields [] = [] from rfl, List.append_nil] at h

lemma fields_of_noSpace {w : CStr} (hne : w ≠ []) (hw : ∀ c ∈ w, isSpace c = false) :
    fields w = [w] := by
  have hno : ∀ c ∈ w, (c == ' ' || c == '\t' || c == '\n') = false := by
    intro c hc
    have h := hw c hc
    simp only [isSpace, Bool.or_eq_false_iff] at h ⊢
    exact ⟨⟨h.1.1.1.1.1, h.1.1.1.1.2⟩, h.1.1.1.2⟩
  rw [fields, List.splitOnP_eq_singleton fun c hc => by simp [hno c hc]]
  simp [hne]

section Scan

variable {width : ℕ} {s w ds : CStr}

/-- Leading white space makes no difference. -/
lemma scanWord_space_append {b : CStr} (hb : ∀ c ∈ b, isSpace c = true) (s : CStr) :
    scanWord width (b ++ s) = scanWord width s := by
  rw [scanWord, scanWord, List.dropWhile_append_of_pos hb]

lemma scanNumber_space_append {α : Type*} (minus plus : ℕ → α) {b : CStr}
    (hb : ∀ c ∈ b, isSpace c = true) (s : CStr) :
    scanNumber minus plus (b ++ s) = scanNumber minus plus s := by
  rw [scanNumber, scanNumber, List.dropWhile_append_of_pos hb]

lemma scanUnsigned_space_append {b : CStr} (hb : ∀ c ∈ b, isSpace c = true) (s : CStr) :
    scanUnsigned (b ++ s) = scanUnsigned s := scanNumber_space_append negate64 saturate64 hb s

lemma scanWord_dropWhile (s : CStr) : scanWord width (s.dropWhile isSpace) = scanWord width s := by
  rw [scanWord, scanWord, List.dropWhile_idempotent]

lemma ne_nil_of_scanWord {r : CStr} (h : scanWord width s = some (w, r)) : w ≠ [] := by
  unfold scanWord at h
  dsimp only at h
  split_ifs at h with hempty
  rw [Option.some.injEq, Prod.mk.injEq] at h
  rwa [← h.1]

/-- There is a word to read unless there is only white space. -/
lemma scanWord_eq_none_iff (hwidth : 0 < width) :
    scanWord width s = none ↔ ∀ c ∈ s, isSpace c = true := by
  rw [← List.dropWhile_eq_nil_iff, scanWord]
  cases hr : s.dropWhile isSpace with
  | nil => simp
  | cons c r =>
      have hc : isSpace c = false := by
        have hhead := List.head?_dropWhile_not isSpace s
        rwa [hr] at hhead
      have hne : width ≠ 0 := hwidth.ne'
      simp [hc, hne]

lemma scanUnsigned_of_space (h : ∀ c ∈ s, isSpace c = true) : scanUnsigned s = none := by
  rw [scanUnsigned, scanNumber, List.dropWhile_eq_nil_iff.mpr h]
  rfl

/-- A word up to a break.  What is past the width is left for the next conversion. -/
lemma scanWord_append (hne : w ≠ []) (hw : ∀ c ∈ w, isSpace c = false) (hwidth : 0 < width)
    (hs : Breaks s) : scanWord width (w ++ s) = some (w.take width, w.drop width ++ s) := by
  obtain ⟨c, w', rfl⟩ := List.exists_cons_of_ne_nil hne
  have hdrop : (c :: w' ++ s).dropWhile isSpace = c :: w' ++ s := by
    rw [List.cons_append, List.dropWhile_cons, if_neg (by simp [hw c List.mem_cons_self])]
  have hrest : s.takeWhile (fun c => !isSpace c) = [] := by
    cases s with
    | nil => rfl
    | cons d s => rw [List.takeWhile_cons, if_neg (by simp [hs d rfl])]
  have htake : (c :: w' ++ s).takeWhile (fun c => !isSpace c) = c :: w' := by
    rw [List.takeWhile_append_of_pos (fun d hd => by simp [hw d hd]), hrest, List.append_nil]
  have hcut : (c :: w').take width ≠ [] := by
    rw [ne_eq, List.take_eq_nil_iff, not_or]
    exact ⟨hwidth.ne', hne⟩
  have hleft : (c :: w' ++ s).drop ((c :: w').take width).length = (c :: w').drop width ++ s := by
    rw [List.length_take, List.drop_append_of_le_length (min_le_right _ _)]
    congr 1
    rcases le_total width (c :: w').length with hle | hle
    · rw [min_eq_left hle]
    · rw [min_eq_right hle, List.drop_length, List.drop_of_length_le hle]
  simp only [scanWord, hdrop, htake, if_neg hcut, hleft]

lemma takeWhile_isDigit_append (hds : ∀ c ∈ ds, c.isDigit = true) (hs : Breaks s) :
    (ds ++ s).takeWhile Char.isDigit = ds := by
  have hrest : s.takeWhile Char.isDigit = [] := by
    cases s with
    | nil => rfl
    | cons d s =>
        rw [List.takeWhile_cons, if_neg fun hd => ?_]
        have hspace := not_isSpace_of_isDigit hd
        rw [hs d rfl] at hspace
        exact absurd hspace (by decide)
  rw [List.takeWhile_append_of_pos hds, hrest, List.append_nil]

/-- A number up to a break. -/
lemma scanNumber_append {α : Type*} (minus plus : ℕ → α) (hne : ds ≠ [])
    (hds : ∀ c ∈ ds, c.isDigit = true) (hs : Breaks s) :
    scanNumber minus plus (ds ++ s) = some (plus (Nat.ofDigitChars 10 ds 0), s) := by
  have hsplit : splitDigits (ds ++ s) = some (Nat.ofDigitChars 10 ds 0, s) := by
    simp only [splitDigits, takeWhile_isDigit_append hds hs, if_neg hne, List.drop_left]
  obtain ⟨d, ds', rfl⟩ := List.exists_cons_of_ne_nil hne
  have hdigit := hds d List.mem_cons_self
  have hdrop : (d :: ds' ++ s).dropWhile isSpace = d :: ds' ++ s := by
    rw [List.cons_append, List.dropWhile_cons, if_neg (by simp [not_isSpace_of_isDigit hdigit])]
  rw [scanNumber, hdrop]
  split
  · next heq =>
      rw [List.cons_append, List.cons.injEq] at heq
      rw [heq.1] at hdigit
      exact absurd hdigit (by decide)
  · next heq =>
      rw [List.cons_append, List.cons.injEq] at heq
      rw [heq.1] at hdigit
      exact absurd hdigit (by decide)
  · rw [hsplit]
    rfl

/-- A number with a minus sign, up to a break. -/
lemma scanNumber_minus_append {α : Type*} (minus plus : ℕ → α) (hne : ds ≠ [])
    (hds : ∀ c ∈ ds, c.isDigit = true) (hs : Breaks s) :
    scanNumber minus plus ('-' :: (ds ++ s)) = some (minus (Nat.ofDigitChars 10 ds 0), s) := by
  have hsplit : splitDigits (ds ++ s) = some (Nat.ofDigitChars 10 ds 0, s) := by
    simp only [splitDigits, takeWhile_isDigit_append hds hs, if_neg hne, List.drop_left]
  have hdrop : ('-' :: (ds ++ s)).dropWhile isSpace = '-' :: (ds ++ s) := rfl
  rw [scanNumber, hdrop]
  simp [hsplit]

lemma scanUnsigned_append (hne : ds ≠ []) (hds : ∀ c ∈ ds, c.isDigit = true) (hs : Breaks s) :
    scanUnsigned (ds ++ s) = some (saturate64 (Nat.ofDigitChars 10 ds 0), s) :=
  scanNumber_append negate64 saturate64 hne hds hs

/-! ### Columns that break off -/

/-- A text of blanks, a column and the columns after it, cut after `k` characters. -/
lemma take_column (k b : ℕ) (w s : CStr) (h : b < k) :
    (blanks b ++ (w ++ s)).take k = blanks b ++ (w.take (k - b) ++ s.take (k - b - w.length)) := by
  rw [List.take_append, length_blanks, List.take_append,
    List.take_of_length_le (by rw [length_blanks]; omega)]

lemma take_column_of_le {k b : ℕ} (s : CStr) (h : k ≤ b) :
    ∀ c ∈ (blanks b ++ s).take k, isSpace c = true := by
  intro c hc
  rw [List.take_append_of_le_length (by rw [length_blanks]; exact h)] at hc
  exact isSpace_of_mem_blanks (List.mem_of_mem_take hc)

lemma scanWord_take (hne : w ≠ []) (hw : ∀ c ∈ w, isSpace c = false) (hlen : w.length ≤ width)
    (hs : Breaks s) (k b : ℕ) :
    scanWord width ((blanks b ++ (w ++ s)).take k)
      = if k ≤ b then none else some (w.take (k - b), s.take (k - b - w.length)) := by
  have hwidth : 0 < width := (List.length_pos_iff_ne_nil.mpr hne).trans_le hlen
  split_ifs with hk
  · exact (scanWord_eq_none_iff hwidth).mpr (take_column_of_le _ hk)
  · have hcut : w.take (k - b) ≠ [] := by
      rw [ne_eq, List.take_eq_nil_iff, not_or]
      exact ⟨by omega, hne⟩
    have hfits : (w.take (k - b)).length ≤ width := (List.length_take_le' _ _).trans hlen
    rw [take_column k b w s (by omega), scanWord_space_append fun _ => isSpace_of_mem_blanks,
      scanWord_append hcut (fun c hc => hw c (List.mem_of_mem_take hc)) hwidth (hs.take _),
      List.take_of_length_le hfits, List.drop_of_length_le hfits, List.nil_append]

lemma scanUnsigned_take (hne : ds ≠ []) (hds : ∀ c ∈ ds, c.isDigit = true) (hs : Breaks s)
    (k b : ℕ) :
    scanUnsigned ((blanks b ++ (ds ++ s)).take k)
      = if k ≤ b then none
        else some (saturate64 (Nat.ofDigitChars 10 (ds.take (k - b)) 0),
          s.take (k - b - ds.length)) := by
  split_ifs with hk
  · exact scanUnsigned_of_space (take_column_of_le _ hk)
  · have hcut : ds.take (k - b) ≠ [] := by
      rw [ne_eq, List.take_eq_nil_iff, not_or]
      exact ⟨by omega, hne⟩
    rw [take_column k b ds s (by omega), scanUnsigned_space_append fun _ => isSpace_of_mem_blanks,
      scanUnsigned_append hcut (fun c hc => hds c (List.mem_of_mem_take hc)) (hs.take _)]

/-! ### A number is read out of one word -/

lemma splitDigits_suffix {a r : CStr} {c : Char} {v : ℕ} (hc : isSpace c = true)
    (h : splitDigits (a ++ c :: s) = some (v, r)) : c :: s <:+ r := by
  have hdigit : c.isDigit = false := by
    refine Bool.eq_false_iff.mpr fun hd => ?_
    rw [not_isSpace_of_isDigit hd] at hc
    exact Bool.false_ne_true hc
  have hlen : ((a ++ c :: s).takeWhile Char.isDigit).length ≤ a.length := by
    have hstop : (c :: s).takeWhile Char.isDigit = [] := by simp [hdigit]
    rw [List.takeWhile_append, hstop, List.append_nil]
    split_ifs
    · exact le_rfl
    · exact (List.takeWhile_prefix _).length_le
  simp only [splitDigits] at h
  split_ifs at h
  rw [Option.some.injEq, Prod.mk.injEq, List.drop_append_of_le_length hlen] at h
  rw [← h.2]
  exact List.suffix_append _ _

/-- The conversion does not go past white space once it has seen something else. -/
lemma scanUnsigned_suffix {a r : CStr} {c : Char} {v : ℕ} (ha : ∃ d ∈ a, isSpace d = false)
    (hc : isSpace c = true) (h : scanUnsigned (a ++ c :: s) = some (v, r)) : c :: s <:+ r := by
  have hdrop : a.dropWhile isSpace ≠ [] := by
    obtain ⟨d, hd, hspace⟩ := ha
    intro hnil
    rw [List.dropWhile_eq_nil_iff.mp hnil d hd] at hspace
    exact absurd hspace (by decide)
  obtain ⟨d, a', ha'⟩ := List.exists_cons_of_ne_nil hdrop
  have hsplit : ∀ {f : ℕ → ℕ} {b : CStr},
      (splitDigits (b ++ c :: s)).map (fun p => (f p.1, p.2)) = some (v, r) → c :: s <:+ r := by
    intro f b hmap
    obtain ⟨p, hp, heq⟩ := Option.map_eq_some_iff.mp hmap
    rw [Prod.mk.injEq] at heq
    exact heq.2 ▸ splitDigits_suffix hc hp
  rw [scanUnsigned, scanNumber, List.dropWhile_append, ha', List.isEmpty_cons, if_neg (by decide),
    List.cons_append] at h
  split at h
  · next r' heq =>
      rw [List.cons.injEq] at heq
      rw [← heq.2] at h
      exact hsplit h
  · next r' heq =>
      rw [List.cons.injEq] at heq
      rw [← heq.2] at h
      exact hsplit h
  · rw [← List.cons_append] at h
    exact hsplit h

end Scan

end CString
