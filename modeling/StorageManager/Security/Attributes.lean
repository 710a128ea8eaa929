import StorageManager.Common
import Mathlib.Data.List.Induction
import Mathlib.Tactic.Common

/-!
# File attributes

The flags of a file are a word of 32 bits.  `FS_IOC_GETFLAGS` and `FS_IOC_SETFLAGS` move it through
an `unsigned long` of which they use the low half; what the high half holds is not their concern
(`setFlags_getFlags`).

`attr_unset` reads the word, clears bits and writes it back.  `attr_set` writes its argument without
reading: it is a union only on a word that has no other bits (`attrStep_eq_iff`).  `attributes_iff`
says the same of whole sequences of calls.
-/

namespace Storage

/-! The attributes by name. -/

/-- `ATTR_IMMUTABLE`. -/
def attrImmutable : BitVec 32 := 0x00000010

/-- `ATTR_APPEND_ONLY`. -/
def attrAppendOnly : BitVec 32 := 0x00000020

/-- `FS_IOC_GETFLAGS`: the word goes to the low half of `attrs`. -/
def getFlags (word : BitVec 32) (attrs : BitVec 64) : BitVec 64 :=
  (attrs &&& 0xFFFFFFFF00000000) ||| word.setWidth 64

/-- `FS_IOC_SETFLAGS`: the word is taken from the low half of `attrs`. -/
def setFlags (attrs : BitVec 64) : BitVec 32 := attrs.setWidth 32

/-- Which calls succeed, and what is in `attrs` before it is written. -/
structure AttrEnv where
  opens : Bool
  gets : Bool
  sets : Bool
  attrs : BitVec 64

/-- `attr_set`: the word after it, and what it returns. -/
def attrSet (e : AttrEnv) (word flags : BitVec 32) : BitVec 32 × Ret :=
  if e.opens = false then (word, .errorSystemCall)
  else
    let attrs := flags.setWidth 64
    if e.sets then (setFlags attrs, .success) else (word, .errorSystemCall)

/-- `attr_unset`. -/
def attrUnset (e : AttrEnv) (word flags : BitVec 32) : BitVec 32 × Ret :=
  if e.opens = false then (word, .errorSystemCall)
  else if e.gets = false then (word, .errorSystemCall)
  else
    let attrs := getFlags word e.attrs &&& (~~~flags).setWidth 64
    if e.sets then (setFlags attrs, .success) else (word, .errorSystemCall)

/-- `attr_get`: `*flags` after it, when it is written, and what it returns. -/
def attrGet (e : AttrEnv) (word : BitVec 32) : Option (BitVec 32) × Ret :=
  if e.opens = false then (none, .errorSystemCall)
  else if e.gets then (some ((getFlags word e.attrs).setWidth 32), .success)
  else (none, .errorSystemCall)

/-- `attr_set_immutable`. -/
def attrSetImmutable (e : AttrEnv) (word : BitVec 32) : BitVec 32 × Ret :=
  attrSet e word attrImmutable

/-- `attr_set_append_only`. -/
def attrSetAppendOnly (e : AttrEnv) (word : BitVec 32) : BitVec 32 × Ret :=
  attrSet e word attrAppendOnly

/-- `attr_unset_immutable`. -/
def attrUnsetImmutable (e : AttrEnv) (word : BitVec 32) : BitVec 32 × Ret :=
  attrUnset e word attrImmutable

/-- Everything succeeds, with this in `attrs`. -/
def AttrEnv.ok (attrs : BitVec 64) : AttrEnv := ⟨true, true, true, attrs⟩

/-- A call, with what is in `attrs` before. -/
inductive AttrOp
  | set (flags : BitVec 32) (attrs : BitVec 64)
  | unset (flags : BitVec 32) (attrs : BitVec 64)

/-- The word after a call that succeeds. -/
def attrStep (word : BitVec 32) : AttrOp → BitVec 32
  | .set flags attrs => (attrSet (.ok attrs) word flags).1
  | .unset flags attrs => (attrUnset (.ok attrs) word flags).1

/-- The word as a set of attributes: union and difference. -/
def attrSpec (word : BitVec 32) : AttrOp → BitVec 32
  | .set flags _ => word ||| flags
  | .unset flags _ => word &&& ~~~flags

/-- The word after some calls. -/
def attrsAfter (word : BitVec 32) (ops : List AttrOp) : BitVec 32 := ops.foldl attrStep word

/-- The word as it should be after them. -/
def specAfter (word : BitVec 32) (ops : List AttrOp) : BitVec 32 := ops.foldl attrSpec word

/-! ## One call -/

section Words

variable {word flags : BitVec 32} {attrs : BitVec 64}

lemma setFlags_getFlags (word : BitVec 32) (attrs : BitVec 64) :
    setFlags (getFlags word attrs) = word := by
  simp [setFlags, getFlags, BitVec.setWidth_or, BitVec.setWidth_and]

/-- `attr_set` writes its argument, whatever the word was. -/
lemma attrSet_ok : (attrSet (.ok attrs) word flags).1 = flags := by
  simp [attrSet, AttrEnv.ok, setFlags]

lemma attrUnset_ok : (attrUnset (.ok attrs) word flags).1 = word &&& ~~~flags := by
  have hand : setFlags (getFlags word attrs &&& (~~~flags).setWidth 64)
      = setFlags (getFlags word attrs) &&& ~~~flags := by
    simp [setFlags]
  simpa [attrUnset, AttrEnv.ok, setFlags_getFlags] using hand

lemma attrGet_ok : attrGet (.ok attrs) word = (some word, .success) := by
  have hword := setFlags_getFlags word attrs
  simp only [setFlags] at hword
  simp [attrGet, AttrEnv.ok, hword]

/-- It is a union exactly on a word with no other bits. -/
lemma or_eq_right_iff : word ||| flags = flags ↔ word &&& ~~~flags = 0#32 := by
  rw [BitVec.eq_of_getElem_eq_iff, BitVec.eq_of_getElem_eq_iff]
  refine forall₂_congr fun i hi => ?_
  simp only [BitVec.getElem_or, BitVec.getElem_and, BitVec.getElem_not, BitVec.getElem_zero]
  cases word[i] <;> cases flags[i] <;> decide

end Words

/-! ## Sequences of calls -/

/-- Every `attr_set` finds a word with no bits outside its argument. -/
def SetsCover (word : BitVec 32) (ops : List AttrOp) : Prop :=
  ∀ pre flags attrs rest, ops = pre ++ .set flags attrs :: rest →
    attrsAfter word pre &&& ~~~flags = 0#32

section Sequences

variable {word : BitVec 32} {ops : List AttrOp}

lemma attrsAfter_concat (op : AttrOp) :
    attrsAfter word (ops ++ [op]) = attrStep (attrsAfter word ops) op := by
  simp [attrsAfter, List.foldl_append]

lemma specAfter_concat (op : AttrOp) :
    specAfter word (ops ++ [op]) = attrSpec (specAfter word ops) op := by
  simp [specAfter, List.foldl_append]

/-- A call acts on the set of attributes as it should unless it is an `attr_set` that loses some. -/
lemma attrStep_eq_iff {op : AttrOp} :
    attrStep word op = attrSpec word op ↔
      ∀ flags attrs, op = .set flags attrs → word &&& ~~~flags = 0#32 := by
  cases op with
  | set flags attrs =>
      simp only [attrStep, attrSpec, attrSet_ok, AttrOp.set.injEq]
      rw [eq_comm, or_eq_right_iff]
      exact ⟨fun h f a heq => heq.1 ▸ h, fun h => h flags attrs ⟨rfl, rfl⟩⟩
  | unset flags attrs => simp [attrStep, attrSpec, attrUnset_ok]

lemma SetsCover.of_append {ops' : List AttrOp} (h : SetsCover word (ops ++ ops')) :
    SetsCover word ops := by
  rintro pre flags attrs rest rfl
  exact h pre flags attrs (rest ++ ops') (by simp)

lemma attrsAfter_eq (h : SetsCover word ops) : attrsAfter word ops = specAfter word ops := by
  induction ops using List.reverseRecOn with
  | nil => rfl
  | append_singleton ops op ih =>
      rw [attrsAfter_concat, specAfter_concat, ← ih h.of_append, attrStep_eq_iff]
      rintro flags attrs rfl
      exact h ops flags attrs [] rfl

end Sequences

/-- Making a file immutable and taking it back restores only the word without attributes. -/
lemma restore_iff {word : BitVec 32} (attrs attrs' : BitVec 64) :
    (attrUnsetImmutable (.ok attrs') (attrSetImmutable (.ok attrs) word).1).1 = word ↔
      word = 0#32 := by
  rw [attrUnsetImmutable, attrSetImmutable, attrUnset_ok, attrSet_ok, eq_comm]
  simp [attrImmutable]

/-- **Attribute calls are set operations** after every one of these calls exactly when every
`attr_set` finds a word with no bits outside its argument; `attr_get` returns the word in any case.
And `attr_unset_immutable` undoes `attr_set_immutable` on no word but zero. -/
theorem attributes_iff (word : BitVec 32) (ops : List AttrOp) :
    ((∀ pre, pre <+: ops → ∀ attrs,
        attrsAfter word pre = specAfter word pre ∧
          attrGet (.ok attrs) (attrsAfter word pre) = (some (specAfter word pre), .success)) ↔
      SetsCover word ops) ∧
    ∀ attrs attrs',
      (attrUnsetImmutable (.ok attrs') (attrSetImmutable (.ok attrs) word).1).1 = word ↔
        word = 0#32 := by
  refine ⟨⟨?_, ?_⟩, restore_iff⟩
  · rintro h pre flags attrs rest rfl
    have hbefore := (h pre (List.prefix_append _ _) attrs).1
    have hafter := (h (pre ++ [.set flags attrs]) (by simp) attrs).1
    rw [attrsAfter_concat, specAfter_concat, ← hbefore, attrStep_eq_iff] at hafter
    exact hafter flags attrs rfl
  · rintro h pre ⟨rest, rfl⟩ attrs
    rw [attrGet_ok, attrsAfter_eq h.of_append]
    exact ⟨rfl, rfl⟩

/-- A file that is not to be dumped is made immutable, and then may be dumped. -/
theorem attr_set_drops_flags :
    ¬ ∀ (word : BitVec 32) (ops : List AttrOp), attrsAfter word ops = specAfter word ops := by
  intro hclaim
  exact absurd (hclaim 0x00000040 [.set attrImmutable 0]) (by decide)

end Storage
