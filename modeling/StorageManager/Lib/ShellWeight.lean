import StorageManager.Lib.ShellLine
import Mathlib.Data.List.Count

/-!
# Command lines that are read back

When does the shell read the words a line was put together from?  `words_line_iff` answers it for
all strings: exactly when every piece stands for itself.

**The bound.**  Every character that is not a double quote can become at most one character of a
word, or one end of a word; that is the weight of a state, and `lexStep_weight` the bound.  A line
has just enough characters for its words, so a run that gives them is `Tight`: no character is lost
to an escape, to single quotes or to a second blank.

**Tight runs.**  In a tight run double quotes only open and close (`Tight.noDquote`), and from one
piece to the next the run can be followed (`Tight.piece`, `Tight.lineTail`).

**Buffers.**  The same count shows that a line that was cut to fit a buffer no longer gives its
words: `parse_fit_iff` for lines that end in a redirection, `parse_fit_quoted_iff` for lines that
end in a quoted word.
-/

namespace Shell

open CString

/-! ## The weight of a run -/

/-- The characters of a text that are not double quotes. -/
def visible (s : CStr) : ℕ := s.countP (· != dquote)

@[simp] lemma visible_nil : visible [] = 0 := rfl

@[simp] lemma visible_append (s t : CStr) : visible (s ++ t) = visible s + visible t :=
  List.countP_append

@[simp] lemma visible_dquote : visible [dquote] = 0 := rfl

lemma visible_singleton {c : Char} (h : c ≠ dquote) : visible [c] = 1 := by
  simp [visible, h]

/-- The characters and the ends of words. -/
def wordsWeight (ws : List CStr) : ℕ := (ws.map fun w => visible w + 1).sum

@[simp] lemma wordsWeight_concat (ws : List CStr) (w : CStr) :
    wordsWeight (ws ++ [w]) = wordsWeight ws + (visible w + 1) := by
  simp [wordsWeight]

/-- What the current word has so far.  A backslash that waits between quotes counts. -/
def LexMode.weight : LexMode → ℕ
  | .between | .escapedStart => 0
  | .word cur | .quoted cur | .single cur | .escaped cur => visible cur
  | .quotedEscaped cur => visible cur + 1

/-- What the lexer has taken in so far. -/
def LexState.weight (st : LexState) : ℕ := wordsWeight st.done + st.mode.weight

lemma lexBare_weight {done : List CStr} {cur : CStr} {c : Char} {st' : LexState}
    (h : lexBare done cur c = some st') :
    st'.weight ≤ wordsWeight done + visible cur + visible [c] := by
  unfold lexBare at h
  split_ifs at h <;>
    · obtain rfl := Option.some.inj h
      simp [LexState.weight, LexMode.weight, Nat.add_assoc]

/-- **The bound.**  A character adds at most one to the weight, a double quote nothing. -/
lemma lexStep_weight {st st' : LexState} {c : Char} (h : lexStep st c = some st') :
    st'.weight ≤ st.weight + visible [c] := by
  obtain ⟨done, mode⟩ := st
  cases mode with
  | between =>
      simp only [lexStep] at h
      split_ifs at h
      · obtain rfl := Option.some.inj h
        omega
      · obtain rfl := Option.some.inj h
        exact Nat.le_add_right _ _
      · simpa [LexState.weight, LexMode.weight] using lexBare_weight h
  | word cur =>
      simp only [lexStep] at h
      split_ifs at h with hblank
      · have hc : c ≠ dquote := by
          rintro rfl
          exact absurd hblank (by decide)
        obtain rfl := Option.some.inj h
        simp only [LexState.weight, LexMode.weight, wordsWeight_concat, visible_singleton hc]
        omega
      · simpa [LexState.weight, LexMode.weight] using lexBare_weight h
  | quoted cur =>
      simp only [lexStep] at h
      split_ifs at h with hd hb
      · obtain rfl := Option.some.inj h
        simp [LexState.weight, LexMode.weight]
      · obtain rfl := Option.some.inj h
        simp only [LexState.weight, LexMode.weight, visible_singleton hd]
        omega
      · obtain rfl := Option.some.inj h
        simp [LexState.weight, LexMode.weight, Nat.add_assoc]
  | single cur =>
      simp only [lexStep] at h
      split_ifs at h
      · obtain rfl := Option.some.inj h
        simp [LexState.weight, LexMode.weight]
      · obtain rfl := Option.some.inj h
        simp [LexState.weight, LexMode.weight, Nat.add_assoc]
  | escaped cur =>
      simp only [lexStep] at h
      obtain rfl := Option.some.inj h
      split_ifs
      · simp [LexState.weight, LexMode.weight]
      · simp [LexState.weight, LexMode.weight, Nat.add_assoc]
  | escapedStart =>
      simp only [lexStep] at h
      split_ifs at h
      · obtain rfl := Option.some.inj h
        exact Nat.le_add_right _ _
      · obtain rfl := Option.some.inj h
        exact le_rfl
  | quotedEscaped cur =>
      simp only [lexStep] at h
      split_ifs at h with hesc hnl
      · obtain rfl := Option.some.inj h
        simp only [LexState.weight, LexMode.weight, visible_append]
        omega
      · obtain rfl := Option.some.inj h
        simp only [LexState.weight, LexMode.weight]
        omega
      · obtain rfl := Option.some.inj h
        have hpair : visible ['\\', c] = 1 + visible [c] := visible_append ['\\'] [c]
        simp only [LexState.weight, LexMode.weight, visible_append, hpair]
        omega

lemma feed_weight {st st' : LexState} {s : CStr} (h : feed st s = some st') :
    st'.weight ≤ st.weight + visible s := by
  induction s generalizing st with
  | nil =>
      obtain rfl := Option.some.inj h
      simp
  | cons c s ih =>
      rw [feed_cons, Option.bind_eq_some_iff] at h
      obtain ⟨st₁, hstep, hrest⟩ := h
      have hcons : visible (c :: s) = visible [c] + visible s := visible_append [c] s
      have := lexStep_weight hstep
      have := ih hrest
      omega

/-- A run in which no character is lost. -/
structure Tight (st : LexState) (s : CStr) (st' : LexState) : Prop where
  run : feed st s = some st'
  weight : st'.weight = st.weight + visible s

lemma Tight.split {st st'' : LexState} {s t : CStr} (h : Tight st (s ++ t) st'') :
    ∃ st', Tight st s st' ∧ Tight st' t st'' := by
  obtain ⟨hrun, hweight⟩ := h
  rw [feed_append, Option.bind_eq_some_iff] at hrun
  obtain ⟨st', hs, ht⟩ := hrun
  rw [visible_append] at hweight
  have hs' := feed_weight hs
  have ht' := feed_weight ht
  exact ⟨st', ⟨hs, by omega⟩, ⟨ht, by omega⟩⟩

lemma Tight.cons {st st'' : LexState} {c : Char} {s : CStr} (h : Tight st (c :: s) st'') :
    ∃ st', Tight st [c] st' ∧ Tight st' s st'' := Tight.split (s := [c]) h

lemma Tight.eq_of_nil {st st' : LexState} (h : Tight st [] st') : st' = st :=
  (Option.some.inj h.run).symm

/-! ## The steps of a tight run -/

/-- The steps that lose nothing. -/
inductive CalmStep : LexState → Char → LexState → Prop
  | start {done c} : isBare c = true → isLeading c = false →
      CalmStep ⟨done, .between⟩ c ⟨done, .word [c]⟩
  | open₀ {done} : CalmStep ⟨done, .between⟩ dquote ⟨done, .quoted []⟩
  | char {done cur c} : isBare c = true → CalmStep ⟨done, .word cur⟩ c ⟨done, .word (cur ++ [c])⟩
  | stop {done cur c} : isBlank c = true → CalmStep ⟨done, .word cur⟩ c ⟨done ++ [cur], .between⟩
  | open₁ {done cur} : CalmStep ⟨done, .word cur⟩ dquote ⟨done, .quoted cur⟩
  | close {done cur} : CalmStep ⟨done, .quoted cur⟩ dquote ⟨done, .word cur⟩
  | backslash {done cur} : CalmStep ⟨done, .quoted cur⟩ '\\' ⟨done, .quotedEscaped cur⟩
  | quoted {done cur c} : c ≠ dquote → c ≠ '\\' → c ≠ '$' → c ≠ backtick →
      CalmStep ⟨done, .quoted cur⟩ c ⟨done, .quoted (cur ++ [c])⟩
  | literal {done cur c} : isEscapable c = false →
      CalmStep ⟨done, .quotedEscaped cur⟩ c ⟨done, .quoted (cur ++ ['\\', c])⟩

/-- Neither in single quotes nor after a backslash outside quotes. -/
def LexMode.calm : LexMode → Bool
  | .single _ | .escaped _ | .escapedStart => false
  | _ => true

lemma CalmStep.calm {st st' : LexState} {c : Char} (h : CalmStep st c st') :
    st'.mode.calm = true := by
  cases h <;> rfl

lemma Tight.step {st st' : LexState} {c : Char} (h : Tight st [c] st') :
    lexStep st c = some st' := by
  have hrun := h.run
  rw [feed_cons, Option.bind_eq_some_iff] at hrun
  obtain ⟨st₁, hstep, hnil⟩ := hrun
  rw [hstep]
  exact hnil

/-- Outside quotes a tight step keeps the character or opens quotes. -/
lemma lexBare_calm {done : List CStr} {cur : CStr} {c : Char} {st' : LexState}
    (hblank : isBlank c = false) (h : lexBare done cur c = some st')
    (hweight : st'.weight = wordsWeight done + visible cur + visible [c]) :
    c = dquote ∧ st' = ⟨done, .quoted cur⟩ ∨
      isBare c = true ∧ st' = ⟨done, .word (cur ++ [c])⟩ := by
  unfold lexBare at h
  split_ifs at h with hd hs hb hop
  · exact Or.inl ⟨hd, (Option.some.inj h).symm⟩
  · obtain rfl := Option.some.inj h
    rw [visible_singleton hd] at hweight
    simp [LexState.weight, LexMode.weight] at hweight
  · obtain rfl := Option.some.inj h
    rw [visible_singleton hd] at hweight
    simp [LexState.weight, LexMode.weight] at hweight
  · exact Or.inr ⟨isBare_iff.mpr ⟨hblank, hd, hs, hb, Bool.eq_false_iff.mpr hop⟩,
      (Option.some.inj h).symm⟩

lemma Tight.calmStep {st st' : LexState} {c : Char} (h : Tight st [c] st')
    (hcalm : st.mode.calm = true) : CalmStep st c st' := by
  have hstep := h.step
  have hweight := h.weight
  obtain ⟨done, mode⟩ := st
  cases mode with
  | between =>
      simp only [lexStep] at hstep
      split_ifs at hstep with hblank hlead hb
      · have hc : c ≠ dquote := by
          rintro rfl
          exact absurd hblank (by decide)
        obtain rfl := Option.some.inj hstep
        rw [visible_singleton hc] at hweight
        omega
      · obtain rfl := Option.some.inj hstep
        rw [hb] at hweight
        exact absurd hweight (Nat.ne_of_lt (Nat.lt_succ_self _))
      · rcases lexBare_calm (Bool.eq_false_iff.mpr hblank) hstep
          (by simpa [LexState.weight, LexMode.weight] using hweight) with ⟨rfl, rfl⟩ | ⟨hc, rfl⟩
        · exact .open₀
        · exact .start hc (Bool.eq_false_iff.mpr hlead)
  | word cur =>
      simp only [lexStep] at hstep
      split_ifs at hstep with hblank
      · obtain rfl := Option.some.inj hstep
        exact .stop hblank
      · rcases lexBare_calm (Bool.eq_false_iff.mpr hblank) hstep
          (by simpa [LexState.weight, LexMode.weight] using hweight) with ⟨rfl, rfl⟩ | ⟨hc, rfl⟩
        · exact .open₁
        · exact .char hc
  | quoted cur =>
      simp only [lexStep] at hstep
      split_ifs at hstep with hd hb hexp
      · obtain rfl := Option.some.inj hstep
        rw [hd]
        exact .close
      · obtain rfl := Option.some.inj hstep
        rw [hb]
        exact .backslash
      · obtain rfl := Option.some.inj hstep
        rw [not_or] at hexp
        exact .quoted hd hb hexp.1 hexp.2
  | single cur => exact absurd hcalm Bool.false_ne_true
  | escaped cur => exact absurd hcalm Bool.false_ne_true
  | escapedStart => exact absurd hcalm Bool.false_ne_true
  | quotedEscaped cur =>
      simp only [lexStep] at hstep
      split_ifs at hstep with hesc hnl
      · -- the backslash is lost
        obtain rfl := Option.some.inj hstep
        simp only [LexState.weight, LexMode.weight, visible_append] at hweight
        omega
      · obtain rfl := Option.some.inj hstep
        simp only [LexState.weight, LexMode.weight] at hweight
        omega
      · obtain rfl := Option.some.inj hstep
        refine .literal ?_
        simpa [isEscapable, and_assoc] using And.intro (not_or.mp hesc) hnl

/-! ## Following a tight run -/

/-- No double quote has been taken for a character. -/
def LexState.NoDquote (st : LexState) : Prop :=
  (∀ w ∈ st.done, dquote ∉ w) ∧
    match st.mode with
    | .between | .escapedStart => True
    | .word cur | .quoted cur | .single cur | .escaped cur | .quotedEscaped cur => dquote ∉ cur

lemma CalmStep.noDquote {st st' : LexState} {c : Char} (h : CalmStep st c st')
    (hst : st.NoDquote) : st'.NoDquote := by
  obtain ⟨hdone, hmode⟩ := hst
  cases h with
  | start hbare hlead =>
      refine ⟨hdone, ?_⟩
      simpa using (isBare_iff.mp hbare).2.1.symm
  | open₀ => exact ⟨hdone, List.not_mem_nil⟩
  | char hbare =>
      refine ⟨hdone, ?_⟩
      simpa using ⟨hmode, (isBare_iff.mp hbare).2.1.symm⟩
  | stop => exact ⟨List.forall_mem_append.mpr ⟨hdone, List.forall_mem_singleton.mpr hmode⟩, trivial⟩
  | open₁ => exact ⟨hdone, hmode⟩
  | close => exact ⟨hdone, hmode⟩
  | backslash => exact ⟨hdone, hmode⟩
  | quoted hd =>
      refine ⟨hdone, ?_⟩
      simpa using ⟨hmode, hd.symm⟩
  | literal hesc =>
      refine ⟨hdone, ?_⟩
      have hc : dquote ≠ c := by
        rintro rfl
        exact absurd hesc (by decide)
      simpa using ⟨hmode, by decide, hc⟩

/-- In a tight run double quotes only open and close. -/
lemma Tight.noDquote {st st' : LexState} {s : CStr} (h : Tight st s st')
    (hcalm : st.mode.calm = true) (hst : st.NoDquote) :
    st'.mode.calm = true ∧ st'.NoDquote := by
  induction s generalizing st with
  | nil =>
      rw [h.eq_of_nil]
      exact ⟨hcalm, hst⟩
  | cons c s ih =>
      obtain ⟨st₁, hstep, hrest⟩ := h.cons
      have hstep := hstep.calmStep hcalm
      exact ih hrest hstep.calm (hstep.noDquote hst)

/-- Between words or in one, outside quotes. -/
def LexMode.outside : LexMode → Bool
  | .between | .word _ => true
  | _ => false

/-- A stretch without double quotes stays outside them.  If it ends no word, all of it belongs to
one. -/
lemma Tight.bare {s : CStr} (hs : dquote ∉ s) {st' : LexState} {done : List CStr} :
    (∀ {cur : CStr}, Tight ⟨done, .word cur⟩ s st' → st'.mode.outside = true ∧
      done.length ≤ st'.done.length ∧ (st'.done.length = done.length →
        (∀ c ∈ s, isBare c = true) ∧ st' = ⟨done, .word (cur ++ s)⟩)) ∧
    (Tight ⟨done, .between⟩ s st' → st'.mode.outside = true ∧
      done.length ≤ st'.done.length ∧ (st'.done.length = done.length →
        BareStart s ∧ st' = afterStart done s)) := by
  induction s generalizing done with
  | nil =>
      refine ⟨fun h => ?_, fun h => ?_⟩
      · rw [h.eq_of_nil]
        exact ⟨rfl, le_rfl, fun _ => ⟨by simp, by rw [List.append_nil]⟩⟩
      · rw [h.eq_of_nil]
        exact ⟨rfl, le_rfl, fun _ => ⟨⟨by simp, by simp⟩, rfl⟩⟩
  | cons c s ih =>
      obtain ⟨hc, hs⟩ := not_or.mp (List.mem_cons.not.mp hs)
      refine ⟨fun {cur} h => ?_, fun h => ?_⟩
      · obtain ⟨st₁, hstep, hrest⟩ := h.cons
        cases hstep.calmStep rfl with
        | char hbare =>
            obtain ⟨hout, hle, heq⟩ := (ih hs).1 hrest
            refine ⟨hout, hle, fun hlen => ?_⟩
            obtain ⟨hall, rfl⟩ := heq hlen
            exact ⟨List.forall_mem_cons.mpr ⟨hbare, hall⟩, by simp⟩
        | stop hblank =>
            obtain ⟨hout, hle, -⟩ := (ih hs).2 hrest
            rw [List.length_append, List.length_singleton] at hle
            exact ⟨hout, by omega, fun hlen => by omega⟩
        | open₁ => exact absurd rfl hc
      · obtain ⟨st₁, hstep, hrest⟩ := h.cons
        cases hstep.calmStep rfl with
        | start hbare hlead =>
            obtain ⟨hout, hle, heq⟩ := (ih hs).1 hrest
            refine ⟨hout, hle, fun hlen => ?_⟩
            obtain ⟨hall, rfl⟩ := heq hlen
            refine ⟨⟨List.forall_mem_cons.mpr ⟨hbare, hall⟩, ?_⟩, rfl⟩
            simpa using hlead
        | open₀ => exact absurd rfl hc

/-- Between the quotes everything belongs to the word, up to the next quote. -/
lemma Tight.quoted {s : CStr} (hs : dquote ∉ s) {st' : LexState} {done : List CStr} :
    (∀ {cur : CStr}, Tight ⟨done, .quoted cur⟩ (s ++ [dquote]) st' →
      QuotedLiteral s ∧ st' = ⟨done, .word (cur ++ s)⟩) ∧
    (∀ {cur : CStr}, Tight ⟨done, .quotedEscaped cur⟩ (s ++ [dquote]) st' →
      isEscapable (s.headD dquote) = false ∧ QuotedLiteral s ∧
        st' = ⟨done, .word (cur ++ '\\' :: s)⟩) := by
  induction s with
  | nil =>
      refine ⟨fun h => ?_, fun h => ?_⟩
      · cases Tight.calmStep h rfl with
        | close => exact ⟨trivial, by rw [List.append_nil]⟩
        | quoted hd => exact absurd rfl hd
      · cases Tight.calmStep h rfl with
        | literal hesc => exact absurd hesc (by decide)
  | cons c s ih =>
      obtain ⟨hc, hrest'⟩ := not_or.mp (List.mem_cons.not.mp hs)
      obtain ⟨ihq, ihe⟩ := ih hrest'
      refine ⟨fun h => ?_, fun h => ?_⟩
      · obtain ⟨st₁, hstep, hrest⟩ := h.cons
        cases hstep.calmStep rfl with
        | close => exact absurd rfl hc
        | backslash =>
            obtain ⟨hesc, hlit, rfl⟩ := ihe hrest
            exact ⟨⟨⟨Ne.symm hc, by decide, by decide⟩, fun _ => hesc, hlit⟩, rfl⟩
        | quoted hd hb hdollar hbt =>
            obtain ⟨hlit, rfl⟩ := ihq hrest
            exact ⟨⟨⟨hd, hdollar, hbt⟩, fun heq => absurd heq hb, hlit⟩, by simp⟩
      · obtain ⟨st₁, hstep, hrest⟩ := h.cons
        cases hstep.calmStep rfl with
        | literal hesc =>
            obtain ⟨hlit, rfl⟩ := ihq hrest
            refine ⟨hesc, ⟨⟨Ne.symm hc, ?_, ?_⟩, fun heq => ?_, hlit⟩, by simp⟩
            · rintro rfl
              exact absurd hesc (by decide)
            · rintro rfl
              exact absurd hesc (by decide)
            · rw [heq] at hesc
              exact absurd hesc (by decide)

/-- A double quote outside quotes opens them. -/
lemma Tight.openQuote {st st' : LexState} (hout : st.mode.outside = true)
    (h : Tight st [dquote] st') : ∃ cur, st' = ⟨st.done, .quoted cur⟩ := by
  obtain ⟨done, mode⟩ := st
  cases mode with
  | between =>
      cases h.calmStep rfl with
      | start hbare => exact absurd hbare (by decide)
      | open₀ => exact ⟨_, rfl⟩
  | word cur =>
      cases h.calmStep rfl with
      | char hbare => exact absurd hbare (by decide)
      | stop hblank => exact absurd hblank (by decide)
      | open₁ => exact ⟨_, rfl⟩
  | _ => exact absurd hout Bool.false_ne_true

/-- A blank is only spent after a word. -/
lemma Tight.blank {st st' : LexState} (hout : st.mode.outside = true) (h : Tight st [' '] st') :
    ∃ cur, st.mode = .word cur ∧ st' = ⟨st.done ++ [cur], .between⟩ := by
  obtain ⟨done, mode⟩ := st
  cases mode with
  | between =>
      cases h.calmStep rfl with
      | start hbare => exact absurd hbare (by decide)
  | word cur =>
      cases h.calmStep rfl with
      | char hbare => exact absurd hbare (by decide)
      | stop => exact ⟨cur, rfl, rfl⟩
  | _ => exact absurd hout Bool.false_ne_true

/-- A piece ends at least one word, and stands for itself if it ends no more. -/
lemma Tight.piece {p : Piece} (hp : dquote ∉ p.word) {done : List CStr} {st' : LexState}
    (h : Tight ⟨done, .between⟩ p.text st') : st'.mode.outside = true ∧
      done.length ≤ st'.done.length ∧
      (st'.mode ≠ .between → st'.done.length = done.length → p.Ok) := by
  cases p with
  | bare w =>
      obtain ⟨hout, hle, heq⟩ := (Tight.bare hp).2 h
      refine ⟨hout, hle, fun hmode hlen => ?_⟩
      obtain ⟨hstart, rfl⟩ := heq hlen
      exact ⟨fun hnil => hmode (if_pos hnil), hstart⟩
  | quoted lead content =>
      obtain ⟨hlead, hcontent⟩ := not_or.mp (List.mem_append.not.mp hp)
      obtain ⟨st₁, hrun₁, hrun⟩ := h.split
      obtain ⟨st₂, hrun₂, hrun₃⟩ := hrun.cons
      obtain ⟨hout, hle, heq⟩ := (Tight.bare hlead).2 hrun₁
      obtain ⟨cur, rfl⟩ := hrun₂.openQuote hout
      obtain ⟨hlit, rfl⟩ := (Tight.quoted hcontent).1 hrun₃
      exact ⟨rfl, hle, fun _ hlen => ⟨(heq hlen).1, hlit⟩⟩

/-- Each further piece ends at least one word more. -/
lemma Tight.lineTail {ps : List Piece} (hps : ∀ p ∈ ps, dquote ∉ p.word) {st st' : LexState}
    (hout : st.mode.outside = true) (h : Tight st (lineTail ps) st') :
    st'.mode.outside = true ∧ (st'.mode ≠ .between → st.mode ≠ .between ∧
      st.done.length + ps.length ≤ st'.done.length ∧
      (st'.done.length = st.done.length + ps.length → ∀ p ∈ ps, p.Ok)) := by
  induction ps generalizing st with
  | nil =>
      rw [h.eq_of_nil]
      exact ⟨hout, fun hmode => ⟨hmode, le_rfl, fun _ => by simp⟩⟩
  | cons p ps ih =>
      have htail : Shell.lineTail (p :: ps) = ' ' :: (p.text ++ Shell.lineTail ps) := by
        rw [Shell.lineTail, List.flatMap_cons, List.cons_append, Shell.lineTail]
      rw [htail] at h
      obtain ⟨st₁, hblank, hrun⟩ := h.cons
      obtain ⟨cur, hcur, rfl⟩ := hblank.blank hout
      obtain ⟨st₂, hpiece, hrest⟩ := hrun.split
      obtain ⟨hout₂, hle, hok⟩ := hpiece.piece (hps p List.mem_cons_self)
      obtain ⟨hout', hmode'⟩ := ih (fun q hq => hps q (List.mem_cons_of_mem _ hq)) hout₂ hrest
      refine ⟨hout', fun hne => ?_⟩
      obtain ⟨hne₂, hle', hoks⟩ := hmode' hne
      rw [List.length_append, List.length_singleton] at hle hok
      rw [List.length_cons]
      refine ⟨by rw [hcur]; simp, by omega, fun hlen => ?_⟩
      exact List.forall_mem_cons.mpr ⟨hok hne₂ (by omega), hoks (by omega)⟩

/-! ## Lines -/

lemma visible_text (p : Piece) : visible p.text = visible p.word := by
  cases p with
  | bare w => rfl
  | quoted lead content =>
      have hquote : visible (dquote :: (content ++ [dquote])) = visible content := by
        have hcons := visible_append [dquote] (content ++ [dquote])
        simpa using hcons
      rw [Piece.text, Piece.word, visible_append, visible_append, hquote]

lemma visible_lineTail (ps : List Piece) :
    visible (lineTail ps) = wordsWeight (ps.map (·.word)) := by
  induction ps with
  | nil => rfl
  | cons p ps ih =>
      have hblank : visible (' ' :: p.text) = visible p.text + 1 := by
        rw [Nat.add_comm]
        exact visible_append [' '] p.text
      rw [lineTail, List.flatMap_cons, visible_append, hblank, visible_text, ← lineTail, ih]
      rfl

/-- A line has as many characters as its words need. -/
lemma visible_line {ps : List Piece} (hps : ps ≠ []) :
    visible (line ps) + 1 = wordsWeight (ps.map (·.word)) := by
  obtain ⟨p, ps, rfl⟩ := List.exists_cons_of_ne_nil hps
  rw [line, visible_append, visible_text, visible_lineTail, Nat.add_right_comm]
  rfl

/-- The words of a text weigh at most what it has, and if they weigh as much the run is tight. -/
lemma words_weight {s : CStr} {ws : List CStr} (h : words s = some ws) :
    wordsWeight ws ≤ visible s + 1 ∧ (wordsWeight ws = visible s + 1 → ∃ done cur,
      ws = done ++ [cur] ∧ Tight ⟨[], .between⟩ s ⟨done, .word cur⟩) := by
  rw [words, Option.bind_eq_some_iff] at h
  obtain ⟨⟨done, mode⟩, hrun, hfinish⟩ := h
  have hweight := feed_weight hrun
  have hstart : LexState.weight ⟨[], .between⟩ = 0 := rfl
  rw [hstart, Nat.zero_add] at hweight
  cases mode with
  | between =>
      have hws : done = ws := Option.some.inj hfinish
      simp only [LexState.weight, LexMode.weight, hws] at hweight
      exact ⟨by omega, fun heq => by omega⟩
  | word cur =>
      have hws : done ++ [cur] = ws := Option.some.inj hfinish
      have hend : LexState.weight ⟨done, .word cur⟩ = wordsWeight done + visible cur := rfl
      rw [hend] at hweight
      rw [← hws, wordsWeight_concat]
      refine ⟨by omega, fun heq => ⟨done, cur, rfl, hrun, ?_⟩⟩
      rw [hstart, hend]
      omega
  | _ => exact absurd hfinish (by simp [finish])

/-- No word of a tight run has a double quote in it. -/
lemma Tight.dquote_notMem {s cur : CStr} {done : List CStr}
    (h : Tight ⟨[], .between⟩ s ⟨done, .word cur⟩) : ∀ w ∈ done ++ [cur], dquote ∉ w := by
  obtain ⟨-, hdone, hcur⟩ := h.noDquote rfl ⟨by simp, trivial⟩
  exact List.forall_mem_append.mpr ⟨hdone, List.forall_mem_singleton.mpr hcur⟩

/-- **A line is read back as its words** exactly when each of its pieces stands for itself. -/
theorem words_line_iff (ps : List Piece) :
    words (line ps) = some (ps.map (·.word)) ↔ ∀ p ∈ ps, p.Ok := by
  refine ⟨fun h => ?_, words_line⟩
  cases ps with
  | nil => simp
  | cons p ps =>
      obtain ⟨done, cur, hws, htight⟩ :=
        (words_weight h).2 (visible_line (List.cons_ne_nil p ps)).symm
      have hquotes : ∀ q ∈ p :: ps, dquote ∉ q.word := fun q hq =>
        htight.dquote_notMem q.word (hws ▸ List.mem_map_of_mem hq)
      have hlen : ps.length = done.length := by
        have hlength := congrArg List.length hws
        simpa using hlength
      obtain ⟨st₁, hpiece, htail⟩ := htight.split
      obtain ⟨hout, hle, hok⟩ := hpiece.piece (hquotes p List.mem_cons_self)
      obtain ⟨-, hmode⟩ :=
        htail.lineTail (fun q hq => hquotes q (List.mem_cons_of_mem _ hq)) hout
      obtain ⟨hne, hle', hoks⟩ := hmode (by simp)
      rw [List.length_nil] at hok
      simp only at hle' hoks
      exact List.forall_mem_cons.mpr ⟨hok hne (by omega), hoks (by omega)⟩

/-! ## Redirections and buffers -/

/-- The words of a line, and whether it ends in `2>&1`. -/
def parse (s : CStr) : Option (List CStr × Bool) :=
  if errToOut.isSuffixOf s then
    (words (s.take (s.length - errToOut.length))).map fun ws => (ws, true)
  else (words s).map fun ws => (ws, false)

lemma errToOut_eq : errToOut = [' ', '2', '>', '&', '1'] := String.toList_ofList

lemma parse_eq_true {s : CStr} {ws : List CStr} :
    parse s = some (ws, true) ↔ ∃ r, s = r ++ errToOut ∧ words r = some ws := by
  unfold parse
  constructor
  · intro h
    split_ifs at h with hsuffix
    · obtain ⟨r, rfl⟩ := List.isSuffixOf_iff_suffix.mp hsuffix
      rw [List.length_append, Nat.add_sub_cancel, List.take_left] at h
      obtain ⟨ws', hws, heq⟩ := Option.map_eq_some_iff.mp h
      rw [Prod.mk.injEq] at heq
      exact ⟨r, rfl, heq.1 ▸ hws⟩
    · obtain ⟨ws', -, heq⟩ := Option.map_eq_some_iff.mp h
      exact absurd (congrArg Prod.snd heq) (by simp)
  · rintro ⟨r, rfl, hws⟩
    rw [if_pos (List.isSuffixOf_iff_suffix.mpr (List.suffix_append _ _)), List.length_append,
      Nat.add_sub_cancel, List.take_left, hws]
    rfl

lemma parse_eq_false {s : CStr} {ws : List CStr} :
    parse s = some (ws, false) ↔ ¬ errToOut <:+ s ∧ words s = some ws := by
  unfold parse
  constructor
  · intro h
    split_ifs at h with hsuffix
    · obtain ⟨ws', -, heq⟩ := Option.map_eq_some_iff.mp h
      exact absurd (congrArg Prod.snd heq) (by simp)
    · obtain ⟨ws', hws, heq⟩ := Option.map_eq_some_iff.mp h
      rw [Prod.mk.injEq] at heq
      exact ⟨fun hs => hsuffix (List.isSuffixOf_iff_suffix.mpr hs), heq.1 ▸ hws⟩
  · rintro ⟨hsuffix, hws⟩
    rw [if_neg fun hs => hsuffix (List.isSuffixOf_iff_suffix.mp hs), hws]
    rfl

/-- The end of a line, with or without a redirection of the error output. -/
def redirection (redirected : Bool) : CStr := if redirected then errToOut else []

/-- A line has no more words than characters for them, those of the redirection apart. -/
lemma parse_weight {s : CStr} {ws : List CStr} {redirected : Bool}
    (h : parse s = some (ws, redirected)) :
    wordsWeight ws + visible (redirection redirected) ≤ visible s + 1 := by
  cases redirected with
  | true =>
      obtain ⟨r, rfl, hws⟩ := parse_eq_true.mp h
      have hweight := (words_weight hws).1
      rw [visible_append, redirection, if_pos rfl]
      omega
  | false => exact (words_weight (parse_eq_false.mp h).2).1

/-- Words from a line that was cut are no more than the line was made of. -/
lemma parse_fit_weight {ps : List Piece} (hps : ps ≠ []) {size : ℕ} {ws : List CStr}
    {redirected : Bool}
    (h : parse (fit size (line ps ++ redirection redirected)) = some (ws, redirected)) :
    wordsWeight ws ≤ wordsWeight (ps.map (·.word)) := by
  have hweight := parse_weight h
  have hcut : visible (fit size (line ps ++ redirection redirected))
      ≤ visible (line ps ++ redirection redirected) := (List.take_sublist _ _).countP_le
  rw [visible_append] at hcut
  rw [← visible_line hps]
  omega

lemma eq_dquote_of_visible {s : CStr} (h : visible s = 0) {c : Char} (hc : c ∈ s) : c = dquote := by
  simpa using List.countP_eq_zero.mp h c hc

/-- What is cut off a text has its last character. -/
lemma mem_of_append_concat {s t u : CStr} {c : Char} (h : s ++ t = u ++ [c]) (ht : t ≠ []) :
    c ∈ t := by
  obtain ⟨t', d, rfl⟩ := (List.eq_nil_or_concat t).resolve_left ht
  rw [List.concat_eq_append, ← List.append_assoc] at h
  have hlast := List.singleton_injective (List.append_inj_right' h rfl)
  rw [hlast]
  simp

lemma length_lt_of_drop_eq_nil {s : CStr} {size : ℕ} (hs : s ≠ []) (h : s.drop (size - 1) = []) :
    s.length < size := by
  have hpos := List.length_pos_iff_ne_nil.mpr hs
  have hle := List.drop_eq_nil_iff.mp h
  omega

/-- A text that ends in another character than a double quote loses something when it is cut. -/
lemma visible_fit_lt {s u : CStr} {c : Char} {size : ℕ} (hs : s = u ++ [c]) (hc : c ≠ dquote)
    (hlong : ¬ s.length < size) : visible (fit size s) < visible s := by
  have hcut : fit size s ++ s.drop (size - 1) = s := List.take_append_drop _ _
  have hne : s.drop (size - 1) ≠ [] := fun hnil =>
    hlong (length_lt_of_drop_eq_nil (by simp [hs]) hnil)
  have hpos : visible (s.drop (size - 1)) ≠ 0 := fun hzero =>
    hc (eq_dquote_of_visible hzero (mem_of_append_concat (hcut.trans hs) hne))
  have hvisible := congrArg visible hcut
  rw [visible_append] at hvisible
  omega

/-- **A redirected line in a buffer** of `size` bytes is read back exactly when it fits and each of
its pieces stands for itself. -/
theorem parse_fit_iff {ps : List Piece} (hps : ps ≠ []) (size : ℕ) :
    parse (fit size (line ps ++ errToOut)) = some (ps.map (·.word), true) ↔
      (line ps ++ errToOut).length < size ∧ ∀ p ∈ ps, p.Ok := by
  constructor
  · intro h
    have hlen : (line ps ++ errToOut).length < size := by
      by_contra hlong
      have hend : line ps ++ errToOut = (line ps ++ [' ', '2', '>', '&']) ++ ['1'] := by
        rw [errToOut_eq, List.append_assoc]
        rfl
      -- what is left has too few characters for the words
      have hcut := visible_fit_lt hend (by decide) hlong
      have hweight := parse_weight h
      rw [← visible_line hps, redirection, if_pos rfl] at hweight
      rw [visible_append] at hcut
      omega
    rw [fit_of_lt hlen, parse_eq_true] at h
    obtain ⟨r, hr, hws⟩ := h
    obtain rfl := List.append_cancel_right hr
    exact ⟨hlen, (words_line_iff ps).mp hws⟩
  · rintro ⟨hfit, hok⟩
    exact parse_eq_true.mpr ⟨line ps, fit_of_lt hfit, words_line hok⟩

/-- A line of words that stand for themselves, in a buffer that it fits. -/
lemma parse_fit_bare {ws : List CStr} (hne : ws ≠ []) (hws : ∀ w ∈ ws, (Piece.bare w).Ok)
    {size : ℕ} (hlen : (line (ws.map Piece.bare) ++ errToOut).length < size) :
    parse (fit size (line (ws.map Piece.bare) ++ errToOut)) = some (ws, true) := by
  have hparse := (parse_fit_iff (List.map_eq_nil_iff.not.mpr hne) size).mpr
    ⟨hlen, List.forall_mem_map.mpr hws⟩
  rwa [List.map_map, show (fun p : Piece => p.word) ∘ Piece.bare = id from rfl, List.map_id]
    at hparse

/-- A tight run over a line ends outside quotes. -/
lemma Tight.line {ps : List Piece} (hps : ∀ p ∈ ps, dquote ∉ p.word) {done : List CStr}
    {st' : LexState} (h : Tight ⟨done, .between⟩ (line ps) st') : st'.mode.outside = true := by
  cases ps with
  | nil =>
      rw [h.eq_of_nil]
      rfl
  | cons p ps =>
      obtain ⟨st₁, hpiece, htail⟩ := Tight.split h
      obtain ⟨hout, -⟩ := hpiece.piece (hps p List.mem_cons_self)
      exact (htail.lineTail (fun q hq => hps q (List.mem_cons_of_mem _ hq)) hout).1

/-- When only double quotes are cut off a text that ends in one, after a character that is none,
that one is all. -/
lemma eq_concat_dquote_of_cut {t d u content : CStr} (hcut : t ++ d = u ++ content ++ [dquote])
    (hd : ∀ c ∈ d, c = dquote) (hne : d ≠ []) (hcontent : content ≠ [])
    (hquotes : dquote ∉ content) : u ++ content ++ [dquote] = t ++ [dquote] := by
  obtain ⟨d', x, rfl⟩ := (List.eq_nil_or_concat d).resolve_left hne
  obtain ⟨c', y, rfl⟩ := (List.eq_nil_or_concat content).resolve_left hcontent
  simp only [List.concat_eq_append] at hcut hd hquotes ⊢
  have hlast : t ++ d' = u ++ c' ++ [y] := by
    rw [← List.append_assoc] at hcut
    rw [List.append_inj_left' hcut rfl, List.append_assoc]
  have hnil : d' = [] := by
    by_contra hd'
    have hy := hd y (List.mem_append_left _ (mem_of_append_concat hlast hd'))
    exact hquotes (by simp [hy])
  have hx : x = dquote := hd x (by simp)
  rw [← hcut, hnil, hx, List.nil_append]

/-- Without its last quote the line ends inside quotes, so nothing more may be cut off either. -/
lemma length_lt_of_words_fit {qs ps : List Piece} {lead content : CStr} {size : ℕ}
    (hqs : qs = ps ++ [.quoted lead content]) (hcontent : content ≠ [])
    (hws : words (fit size (line qs)) = some (qs.map (·.word))) : (line qs).length < size := by
  obtain ⟨u, hu⟩ := line_concat_quoted ps lead content
  rw [← hqs] at hu
  obtain ⟨hweight, htight⟩ := words_weight hws
  rw [← visible_line (by simp [hqs])] at hweight htight
  obtain ⟨t, ht⟩ : ∃ t, fit size (line qs) = t := ⟨_, rfl⟩
  rw [ht] at hweight htight
  have hcut : t ++ (line qs).drop (size - 1) = u ++ content ++ [dquote] := by
    rw [← hu, ← ht, fit, List.take_append_drop]
  have hvisible := congrArg visible hcut
  rw [← hu, visible_append] at hvisible
  obtain ⟨done, cur, hdone, htight⟩ := htight (by omega)
  have hquotes : ∀ q ∈ qs, dquote ∉ q.word := fun q hq =>
    htight.dquote_notMem q.word (hdone ▸ List.mem_map_of_mem hq)
  by_contra hlong
  have hne : (line qs).drop (size - 1) ≠ [] := fun hnil =>
    hlong (length_lt_of_drop_eq_nil (by simp [hu]) hnil)
  have hdrop : ∀ c ∈ (line qs).drop (size - 1), c = dquote := fun c =>
    eq_dquote_of_visible (by omega)
  have hcontentQuotes : dquote ∉ content := fun hmem =>
    hquotes (.quoted lead content) (by simp [hqs]) (List.mem_append_right _ hmem)
  have hrest : line qs = t ++ [dquote] :=
    hu.trans (eq_concat_dquote_of_cut hcut hdrop hne hcontent hcontentQuotes)
  have hopen : Tight ⟨[], .between⟩ (line qs) ⟨done, .quoted cur⟩ := by
    refine ⟨?_, ?_⟩
    · rw [hrest, feed_append, htight.run]
      rfl
    · rw [hrest, visible_append, visible_dquote, Nat.add_zero, ← htight.weight]
      rfl
  exact absurd (hopen.line hquotes) Bool.false_ne_true

/-- **A line that ends in a quoted word, in a buffer** of `size` bytes: the same, as long as the
word is not empty or the line fits anyway. -/
theorem parse_fit_quoted_iff {qs ps : List Piece} {lead content : CStr} {size : ℕ}
    (hqs : qs = ps ++ [.quoted lead content])
    (hempty : content = [] → (line qs).length < size) :
    parse (fit size (line qs)) = some (qs.map (·.word), false) ↔
      (line qs).length < size ∧ ∀ q ∈ qs, q.Ok := by
  rw [parse_eq_false]
  constructor
  · rintro ⟨-, hws⟩
    have hfit : (line qs).length < size := by
      by_cases hcontent : content = []
      · exact hempty hcontent
      · exact length_lt_of_words_fit hqs hcontent hws
    rw [fit_of_lt hfit] at hws
    exact ⟨hfit, (words_line_iff qs).mp hws⟩
  · rintro ⟨hfit, hok⟩
    rw [fit_of_lt hfit]
    refine ⟨fun hsuffix => ?_, words_line hok⟩
    obtain ⟨r, hr⟩ := hsuffix
    obtain ⟨u, hu⟩ := line_concat_quoted ps lead content
    rw [hqs, hu, errToOut_eq] at hr
    have hlast : (r ++ [' ', '2', '>', '&']) ++ ['1'] = u ++ content ++ [dquote] := by
      rw [← hr, List.append_assoc]
      rfl
    exact absurd (List.singleton_injective (List.append_inj_right' hlast rfl)) (by decide)

end Shell
