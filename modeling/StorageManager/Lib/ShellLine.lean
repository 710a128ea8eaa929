import StorageManager.Lib.Shell

/-!
# Command lines put together from words

A program that prints a command line has a list of words in mind: some written as they are, some
between double quotes.  `line ps` is the text of such a list of pieces.  Pieces that stand for
themselves (`Piece.Ok`) are read back: `feed_text` runs the lexer over one of them, `words_line`
over the line.  That no other line is read back is shown in `Lib/ShellWeight.lean`.
-/

namespace Shell

open CString

/-! ## Pieces -/

/-- A character that stands for itself outside quotes. -/
def isBare (c : Char) : Bool :=
  !(isBlank c || c == dquote || c == squote || c == '\\' || isOperator c)

/-- A text that stands for itself at the beginning of a word. -/
def BareStart (w : CStr) : Prop :=
  (∀ c ∈ w, isBare c = true) ∧ ∀ c ∈ w.head?, isLeading c = false

instance (w : CStr) : Decidable (BareStart w) :=
  decidable_of_iff ((w.all isBare && w.head?.all fun c => !isLeading c) = true)
    (by cases w <;> simp [BareStart])

/-- Characters that a backslash between double quotes takes away from. -/
def isEscapable (c : Char) : Bool :=
  c == dquote || c == '\\' || c == '$' || c == backtick || c == '\n'

/-- A text that stands for itself between double quotes. -/
def QuotedLiteral : CStr → Prop
  | [] => True
  | c :: s => (c ≠ dquote ∧ c ≠ '$' ∧ c ≠ backtick) ∧
      (c = '\\' → isEscapable (s.headD dquote) = false) ∧ QuotedLiteral s

instance QuotedLiteral.decidable : ∀ s : CStr, Decidable (QuotedLiteral s)
  | [] => .isTrue trivial
  | c :: s =>
      have := QuotedLiteral.decidable s
      inferInstanceAs (Decidable ((c ≠ dquote ∧ c ≠ '$' ∧ c ≠ backtick) ∧
        (c = '\\' → isEscapable (s.headD dquote) = false) ∧ QuotedLiteral s))

/-- A word of a line: as it is, or with its end between double quotes. -/
inductive Piece
  | bare (w : CStr)
  | quoted (lead content : CStr)

namespace Piece

/-- What stands in the line. -/
def text : Piece → CStr
  | bare w => w
  | quoted lead content => lead ++ dquote :: (content ++ [dquote])

/-- The word it is meant to be. -/
def word : Piece → CStr
  | bare w => w
  | quoted lead content => lead ++ content

/-- The shell reads the word. -/
def Ok : Piece → Prop
  | bare w => w ≠ [] ∧ BareStart w
  | quoted lead content => BareStart lead ∧ QuotedLiteral content

instance : ∀ p : Piece, Decidable p.Ok
  | bare w => inferInstanceAs (Decidable (w ≠ [] ∧ BareStart w))
  | quoted lead content => inferInstanceAs (Decidable (BareStart lead ∧ QuotedLiteral content))

end Piece

/-- The pieces, each after a blank. -/
def lineTail (ps : List Piece) : CStr := ps.flatMap fun p => ' ' :: p.text

/-- The pieces with a blank between them. -/
def line : List Piece → CStr
  | [] => []
  | p :: ps => p.text ++ lineTail ps

-- a program and its argument as a format string joins them; the program is any text here, so that a
-- literal put in its place stays closed

lemma line_of_one (a w z : CStr) : (a ++ [' ']) ++ (w ++ z) = line [.bare a, .bare w] ++ z := by
  simp [line, lineTail, Piece.text]

lemma line_of_two (a b w z : CStr) :
    (a ++ ' ' :: (b ++ [' '])) ++ (w ++ z) = line [.bare a, .bare b, .bare w] ++ z := by
  simp [line, lineTail, Piece.text]

lemma Piece.ok_quoted {s : CStr} : (Piece.quoted [] s).Ok ↔ QuotedLiteral s :=
  and_iff_right (by decide)

/-- Fixed words and a quoted string. -/
lemma ok_concat_quoted {ps : List Piece} (hps : ∀ p ∈ ps, p.Ok) {s : CStr} :
    (∀ p ∈ ps ++ [.quoted [] s], p.Ok) ↔ QuotedLiteral s := by
  rw [List.forall_mem_append, List.forall_mem_singleton, and_iff_right hps, Piece.ok_quoted]

lemma QuoteSafe.quotedLiteral {s : CStr} (h : QuoteSafe s) : QuotedLiteral s := by
  induction s with
  | nil => trivial
  | cons c s ih =>
      obtain ⟨⟨hd, hb, hdollar, hbt⟩, hs⟩ := List.forall_mem_cons.mp h
      exact ⟨⟨hd, hdollar, hbt⟩, fun h => absurd h hb, ih hs⟩

/-! ## Letters and digits -/

lemma ne_of_isAlphanum {d e : Char} (h : d.isAlphanum = true) (he : e.isAlphanum = false) :
    d ≠ e := by
  rintro rfl
  rw [h] at he
  exact Bool.noConfusion he

lemma isBare_of_isAlphanum {d : Char} (h : d.isAlphanum = true) : isBare d = true := by
  simp only [isBare, isBlank, isOperator, Bool.not_eq_true', Bool.or_eq_false_iff,
    beq_eq_false_iff_ne]
  and_intros <;> exact ne_of_isAlphanum h (by decide)

lemma isAlphanum_of_mem_decimal {n : ℕ} {d : Char} (h : d ∈ decimal n) : d.isAlphanum = true := by
  simp [Char.isAlphanum, isDigit_of_mem_decimal h]

lemma isBare_of_mem_decimal {n : ℕ} {d : Char} (h : d ∈ decimal n) : isBare d = true :=
  isBare_of_isAlphanum (isAlphanum_of_mem_decimal h)

/-- A word that stands for itself goes on doing so with such characters behind it. -/
lemma Piece.Ok.bare_append {w s : CStr} (hw : (Piece.bare w).Ok) (hs : ∀ c ∈ s, isBare c = true) :
    (Piece.bare (w ++ s)).Ok := by
  obtain ⟨hne, hbare, hhead⟩ := hw
  refine ⟨by simp [hne], List.forall_mem_append.mpr ⟨hbare, hs⟩, ?_⟩
  rwa [List.head?_append_of_ne_nil _ hne]

/-! ## Reading pieces -/

lemma feed_cons (st : LexState) (c : Char) (s : CStr) :
    feed st (c :: s) = (lexStep st c).bind fun st' => feed st' s := List.foldlM_cons

/-- Words that have ended are not touched again. -/
lemma lexStep_done {st st' : LexState} {c : Char} (h : lexStep st c = some st') :
    st.done <+: st'.done := by
  obtain ⟨done, mode⟩ := st
  have hbare : ∀ {cur st'}, lexBare done cur c = some st' → done <+: st'.done := by
    intro cur st' h
    unfold lexBare at h
    split_ifs at h <;> obtain rfl := Option.some.inj h <;> exact List.prefix_rfl
  cases mode <;> simp only [lexStep] at h <;> (try split_ifs at h) <;>
    first
    | exact hbare h
    | obtain rfl := Option.some.inj h
      first
      | exact List.prefix_rfl
      | exact List.prefix_append _ _

lemma feed_done {st st' : LexState} {s : CStr} (h : feed st s = some st') :
    st.done <+: st'.done := by
  induction s generalizing st with
  | nil =>
      obtain rfl := Option.some.inj h
      exact List.prefix_rfl
  | cons c s ih =>
      rw [feed_cons, Option.bind_eq_some_iff] at h
      obtain ⟨st₁, hstep, hrest⟩ := h
      exact (lexStep_done hstep).trans (ih hrest)

/-- The words that have ended in a first part of a line are the first words of the line. -/
lemma words_append_prefix {s t : CStr} {st : LexState} {ws : List CStr}
    (hs : feed ⟨[], .between⟩ s = some st) (h : words (s ++ t) = some ws) : st.done <+: ws := by
  rw [words, feed_append, hs, Option.bind_some, Option.bind_eq_some_iff] at h
  obtain ⟨st', hfeed, hfinish⟩ := h
  refine (feed_done hfeed).trans ?_
  unfold finish at hfinish
  split at hfinish
  · exact (Option.some.inj hfinish) ▸ List.prefix_rfl
  · rw [← Option.some.inj hfinish]
    exact List.prefix_append _ _
  · exact absurd hfinish (Option.some_ne_none ws).symm

/-- The same for a line that is redirected or not, if the first part ends in a quote: that is in no
redirection. -/
lemma command_append_prefix {s t : CStr} {st : LexState} {ws : List CStr}
    (hs : feed ⟨[], .between⟩ (s ++ [dquote]) = some st)
    (h : command (s ++ [dquote] ++ t) = some ws) : st.done <+: ws := by
  have hquote : dquote ∉ errToOut := by decide
  unfold command at h
  split_ifs at h with hsuffix
  · have hlong : errToOut <:+ t := by
      have hline := List.isSuffixOf_iff_suffix.mp hsuffix
      rw [List.append_assoc, List.singleton_append] at hline
      rcases List.suffix_or_suffix_of_suffix hline (List.suffix_append s (dquote :: t)) with he | he
      · exact (List.suffix_cons_iff.mp he).resolve_left fun heq =>
          hquote (heq ▸ List.mem_cons_self)
      · exact absurd (he.subset List.mem_cons_self) hquote
    obtain ⟨r, rfl⟩ := hlong
    rw [← List.append_assoc, List.length_append, Nat.add_sub_cancel, List.take_left] at h
    exact words_append_prefix hs h
  · exact words_append_prefix hs h

lemma isBare_iff {c : Char} : isBare c = true ↔ isBlank c = false ∧ c ≠ dquote ∧ c ≠ squote ∧
    c ≠ '\\' ∧ isOperator c = false := by
  simp [isBare, and_assoc]

lemma lexStep_word_bare {done : List CStr} {cur : CStr} {c : Char} (h : isBare c = true) :
    lexStep ⟨done, .word cur⟩ c = some ⟨done, .word (cur ++ [c])⟩ := by
  obtain ⟨hblank, hd, hs, hb, hop⟩ := isBare_iff.mp h
  simp [lexStep, lexBare, hblank, hd, hs, hb, hop]

lemma lexStep_between_bare {done : List CStr} {c : Char} (h : isBare c = true)
    (hlead : isLeading c = false) :
    lexStep ⟨done, .between⟩ c = some ⟨done, .word [c]⟩ := by
  obtain ⟨hblank, hd, hs, hb, hop⟩ := isBare_iff.mp h
  simp [lexStep, lexBare, hblank, hd, hs, hb, hop, hlead]

lemma feed_word_bare {done : List CStr} {cur s : CStr} (h : ∀ c ∈ s, isBare c = true) :
    feed ⟨done, .word cur⟩ s = some ⟨done, .word (cur ++ s)⟩ := by
  induction s generalizing cur with
  | nil => rw [List.append_nil]; rfl
  | cons c s ih =>
      rw [feed_cons, lexStep_word_bare (h c List.mem_cons_self), Option.bind_some,
        ih fun d hd => h d (List.mem_cons_of_mem _ hd), List.append_assoc, List.singleton_append]

/-- The state after a text that stands for itself at the beginning of a word. -/
def afterStart (done : List CStr) (w : CStr) : LexState :=
  ⟨done, if w = [] then .between else .word w⟩

lemma feed_between_bare {done : List CStr} {w : CStr} (h : BareStart w) :
    feed ⟨done, .between⟩ w = some (afterStart done w) := by
  cases w with
  | nil => rfl
  | cons c w =>
      rw [feed_cons, lexStep_between_bare (h.1 c List.mem_cons_self) (h.2 c rfl), Option.bind_some,
        feed_word_bare fun d hd => h.1 d (List.mem_cons_of_mem _ hd)]
      rfl

lemma lexStep_dquote (done : List CStr) (w : CStr) :
    lexStep (afterStart done w) dquote = some ⟨done, .quoted w⟩ := by
  unfold afterStart
  split_ifs with hw
  · rw [hw]
    rfl
  · rfl

/-- Between the quotes a backslash waits for the next character. -/
lemma feed_quoted_literal {done : List CStr} {s : CStr} (h : QuotedLiteral s) :
    (∀ cur, feed ⟨done, .quoted cur⟩ (s ++ [dquote]) = some ⟨done, .word (cur ++ s)⟩) ∧
      (isEscapable (s.headD dquote) = false → ∀ cur,
        feed ⟨done, .quotedEscaped cur⟩ (s ++ [dquote])
          = some ⟨done, .word (cur ++ '\\' :: s)⟩) := by
  induction s with
  | nil =>
      refine ⟨fun cur => ?_, fun hesc => absurd hesc (by decide)⟩
      rw [List.append_nil]
      rfl
  | cons c s ih =>
      obtain ⟨⟨hd, hdollar, hbt⟩, hback, hs⟩ := h
      obtain ⟨ihq, ihe⟩ := ih hs
      constructor
      · intro cur
        rw [List.cons_append, feed_cons]
        by_cases hb : c = '\\'
        · have hstep : lexStep ⟨done, .quoted cur⟩ c = some ⟨done, .quotedEscaped cur⟩ := by
            simp [lexStep, hb, dquote]
          rw [hstep, Option.bind_some, ihe (hback hb), hb]
        · have hstep : lexStep ⟨done, .quoted cur⟩ c = some ⟨done, .quoted (cur ++ [c])⟩ := by
            simp [lexStep, hd, hb, hdollar, hbt]
          rw [hstep, Option.bind_some, ihq, List.append_assoc, List.singleton_append]
      · intro hesc cur
        have hplain : ¬ (c = dquote ∨ c = '\\' ∨ c = '$' ∨ c = backtick) ∧ c ≠ '\n' := by
          simpa [isEscapable, and_assoc] using hesc
        have hstep : lexStep ⟨done, .quotedEscaped cur⟩ c
            = some ⟨done, .quoted (cur ++ ['\\', c])⟩ := by
          simp only [lexStep, if_neg hplain.1, if_neg hplain.2]
        rw [List.cons_append, feed_cons, hstep, Option.bind_some, ihq, List.append_assoc]
        rfl

/-- A piece that stands for itself is one word. -/
lemma feed_text {p : Piece} (h : p.Ok) (done : List CStr) :
    feed ⟨done, .between⟩ p.text = some ⟨done, .word p.word⟩ := by
  cases p with
  | bare w =>
      rw [Piece.text, feed_between_bare h.2, afterStart, if_neg h.1]
      rfl
  | quoted lead content =>
      rw [Piece.text, feed_append, feed_between_bare h.1, Option.bind_some, feed_cons,
        lexStep_dquote, Option.bind_some, (feed_quoted_literal h.2).1]
      rfl

lemma feed_lineTail {ps : List Piece} (h : ∀ p ∈ ps, p.Ok) (done : List CStr) (cur : CStr) :
    (feed ⟨done, .word cur⟩ (lineTail ps)).bind finish = some (done ++ cur :: ps.map (·.word)) := by
  induction ps generalizing done cur with
  | nil => rfl
  | cons p ps ih =>
      have hstep : lexStep ⟨done, .word cur⟩ ' ' = some ⟨done ++ [cur], .between⟩ := rfl
      have htail : lineTail (p :: ps) = ' ' :: (p.text ++ lineTail ps) := by
        rw [lineTail, List.flatMap_cons, List.cons_append, lineTail]
      rw [htail, feed_cons, hstep, Option.bind_some, feed_append,
        feed_text (h p List.mem_cons_self), Option.bind_some,
        ih fun q hq => h q (List.mem_cons_of_mem _ hq), List.append_assoc]
      rfl

/-- Pieces that stand for themselves are read back. -/
lemma words_line {ps : List Piece} (h : ∀ p ∈ ps, p.Ok) :
    words (line ps) = some (ps.map (·.word)) := by
  cases ps with
  | nil => rfl
  | cons p ps =>
      rw [words, line, feed_append, feed_text (h p List.mem_cons_self), Option.bind_some,
        feed_lineTail fun q hq => h q (List.mem_cons_of_mem _ hq)]
      rfl

/-- Such a line ends in the content and the quote after it. -/
lemma line_concat_quoted (ps : List Piece) (lead content : CStr) :
    ∃ u, line (ps ++ [.quoted lead content]) = u ++ content ++ [dquote] := by
  cases ps with
  | nil => exact ⟨lead ++ [dquote], by simp [line, lineTail, Piece.text]⟩
  | cons p ps =>
      refine ⟨line (p :: ps) ++ ' ' :: (lead ++ [dquote]), ?_⟩
      simp [line, lineTail, Piece.text]

lemma command_line_errToOut {ps : List Piece} (h : ∀ p ∈ ps, p.Ok) :
    command (line ps ++ errToOut) = some (ps.map (·.word)) := by
  rw [command_errToOut, words_line h]

lemma command_line_quoted {qs ps : List Piece} {lead content : CStr}
    (hqs : qs = ps ++ [.quoted lead content]) (h : ∀ q ∈ qs, q.Ok) :
    command (line qs) = some (qs.map (·.word)) := by
  obtain ⟨u, hu⟩ := line_concat_quoted ps lead content
  rw [← words_line h, hqs, hu]
  exact command_concat _ (by decide)

end Shell
