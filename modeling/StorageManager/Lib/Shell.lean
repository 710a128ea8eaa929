import StorageManager.Lib.CString

/-!
# Words of a shell command

What `sh -c` makes of a command line: its words, after quotes and backslashes have done their
work.  The lexer is an automaton over the characters, so a command put together from pieces is
read piece by piece (`feed_append`).  Lines that are more than one simple command — expansions,
operators, patterns — and lines with an open quote have no words (`none`).

A string that is `QuoteSafe` can be put between double quotes.  What the shell makes of any string
that is put into a line, between quotes or not, is the subject of `Lib/ShellLine.lean` and
`Lib/ShellWeight.lean`.
-/

namespace Shell

open CString

/-- The double quote. -/
def dquote : Char := '\x22'

/-- The single quote. -/
def squote : Char := '\x27'

/-- The character that begins a command substitution. -/
def backtick : Char := '\x60'

/-- Where the lexer stands.  `cur` is the word so far. -/
inductive LexMode
  | between
  | word (cur : CStr)
  | quoted (cur : CStr)
  | single (cur : CStr)
  | escaped (cur : CStr)
  | escapedStart
  | quotedEscaped (cur : CStr)
  deriving DecidableEq

/-- The words that are finished, and where the lexer stands. -/
structure LexState where
  done : List CStr
  mode : LexMode
  deriving DecidableEq

/-- Characters that make a line more than a simple command when they are not quoted.  The three that
begin a pattern are among them, although a shell leaves a `[` without its `]`, and any pattern that
no file matches, as it is: which files there are is not known here, so such a line is not read. -/
def isOperator (c : Char) : Bool :=
  c == '$' || c == backtick || c == '|' || c == '&' || c == ';' || c == '<' || c == '>' ||
    c == '(' || c == ')' || c == '*' || c == '?' || c == '[' || c == '\n'

/-- Characters that do so at the beginning of a word: a comment, a home directory. -/
def isLeading (c : Char) : Bool := c == '#' || c == '~'

/-- Characters that end a word. -/
def isBlank (c : Char) : Bool := c == ' ' || c == '\t'

/-- An unquoted character that is not a blank, with the word so far. -/
def lexBare (done : List CStr) (cur : CStr) (c : Char) : Option LexState :=
  if c = dquote then some ⟨done, .quoted cur⟩
  else if c = squote then some ⟨done, .single cur⟩
  else if c = '\\' then some ⟨done, .escaped cur⟩
  else if isOperator c then none
  else some ⟨done, .word (cur ++ [c])⟩

/-- One character.  `none` is a line that is more than a simple command. -/
def lexStep (st : LexState) (c : Char) : Option LexState :=
  match st.mode with
  | .between =>
      if isBlank c then some st
      else if isLeading c then none
      else if c = '\\' then some ⟨st.done, .escapedStart⟩
      else lexBare st.done [] c
  | .word cur => if isBlank c then some ⟨st.done ++ [cur], .between⟩ else lexBare st.done cur c
  | .quoted cur =>
      if c = dquote then some ⟨st.done, .word cur⟩
      else if c = '\\' then some ⟨st.done, .quotedEscaped cur⟩
      else if c = '$' ∨ c = backtick then none
      else some ⟨st.done, .quoted (cur ++ [c])⟩
  | .single cur =>
      if c = squote then some ⟨st.done, .word cur⟩ else some ⟨st.done, .single (cur ++ [c])⟩
  | .escaped cur => some ⟨st.done, .word (if c = '\n' then cur else cur ++ [c])⟩
  | .escapedStart =>
      -- a continued line begins no word
      if c = '\n' then some ⟨st.done, .between⟩ else some ⟨st.done, .word [c]⟩
  | .quotedEscaped cur =>
      if c = dquote ∨ c = '\\' ∨ c = '$' ∨ c = backtick then some ⟨st.done, .quoted (cur ++ [c])⟩
      else if c = '\n' then some ⟨st.done, .quoted cur⟩
      else some ⟨st.done, .quoted (cur ++ ['\\', c])⟩

/-- The characters one after the other. -/
def feed (st : LexState) (s : CStr) : Option LexState := s.foldlM lexStep st

/-- The words at the end of the line; a quotation that is still open is none. -/
def finish (st : LexState) : Option (List CStr) :=
  match st.mode with
  | .between => some st.done
  | .word cur => some (st.done ++ [cur])
  | _ => none

/-- The word is no option. -/
def isOperand (p : CStr) : Bool := p.head? != some '-'

/-- The words of a line without redirections. -/
def words (s : CStr) : Option (List CStr) := (feed ⟨[], .between⟩ s).bind finish

/-- The redirection of the error output at the end of a line. -/
def errToOut : CStr := " 2>&1".toList

/-- The words of a line, which may end in `2>&1`. -/
def command (s : CStr) : Option (List CStr) :=
  if errToOut.isSuffixOf s then words (s.take (s.length - errToOut.length)) else words s

/-! ## Reading piece by piece -/

lemma feed_append (st : LexState) (s t : CStr) :
    feed st (s ++ t) = (feed st s).bind fun st' => feed st' t := List.foldlM_append

/-- Nothing in the string ends double quotes or is expanded inside them. -/
def QuoteSafe (s : CStr) : Prop :=
  ∀ c ∈ s, c ≠ dquote ∧ c ≠ '\\' ∧ c ≠ '$' ∧ c ≠ backtick

instance (s : CStr) : Decidable (QuoteSafe s) := List.decidableBAll _ s

lemma QuoteSafe.append {s t : CStr} (hs : QuoteSafe s) (ht : QuoteSafe t) : QuoteSafe (s ++ t) :=
  fun c hc => (List.mem_append.mp hc).elim (hs c) (ht c)

/-- The line up to the redirection is what the words come from. -/
lemma command_errToOut (s : CStr) : command (s ++ errToOut) = words s := by
  have hsuffix : errToOut.isSuffixOf (s ++ errToOut) = true :=
    List.isSuffixOf_iff_suffix.mpr (List.suffix_append _ _)
  rw [command, if_pos hsuffix, List.length_append, Nat.add_sub_cancel, List.take_left]

/-- A line that ends in another character than the redirection does. -/
lemma command_concat (s : CStr) {c : Char} (hc : c ≠ '1') :
    command (s ++ [c]) = words (s ++ [c]) := by
  refine if_neg fun hsuffix => hc ?_
  obtain ⟨r, hr⟩ := List.isSuffixOf_iff_suffix.mp hsuffix
  have hlast : (r ++ " 2>&".toList) ++ ['1'] = s ++ [c] := by
    rw [List.append_assoc]
    exact hr
  exact (List.singleton_injective (List.append_inj_right' hlast rfl)).symm

end Shell
