import Mathlib.Data.Vector.Basic
import Mathlib.Tactic.Common

/-!
# Records as bytes

The memory image of a C structure made of 32- and 64-bit words and fixed-size character arrays, as
it goes through `write` and `read`: little-endian words, arrays as they are, no padding.

A reader takes its field off the front of the bytes and passes the rest on; each has one round
trip lemma of the form `read (image ++ rest) = (field, rest)`, and the round trip of a record is
the chain of those of its fields.
-/

namespace Bytes

/-- A byte of memory or of a message. -/
abbrev Byte := UInt8

/-- The low `w` bytes of `n`, lowest first. -/
def leBytes : ℕ → ℕ → List Byte
  | 0, _ => []
  | w + 1, n => UInt8.ofNat n :: leBytes w (n / 256)

/-- The number whose bytes these are, lowest first. -/
def ofLeBytes : List Byte → ℕ
  | [] => 0
  | b :: bs => b.toNat + 256 * ofLeBytes bs

@[simp] lemma length_leBytes (w n : ℕ) : (leBytes w n).length = w := by
  induction w generalizing n with
  | zero => rfl
  | succ w ih => rw [leBytes, List.length_cons, ih]

lemma ofLeBytes_leBytes {w n : ℕ} (h : n < 256 ^ w) : ofLeBytes (leBytes w n) = n := by
  induction w generalizing n with
  | zero =>
      have : n = 0 := by simpa using h
      rw [this]
      rfl
  | succ w ih =>
      have hdiv : n / 256 < 256 ^ w := Nat.div_lt_of_lt_mul (by rwa [pow_succ, mul_comm] at h)
      rw [leBytes, ofLeBytes, ih hdiv, UInt8.toNat_ofNat']
      exact Nat.mod_add_div n 256

/-! ## Words -/

/-- A 32-bit word in memory. -/
def wordBytes (v : UInt32) : List Byte := leBytes 4 v.toNat

/-- A word of 32 bits off the front. -/
def readWord (bs : List Byte) : UInt32 × List Byte :=
  (UInt32.ofNat (ofLeBytes (bs.take 4)), bs.drop 4)

@[simp] lemma length_wordBytes (v : UInt32) : (wordBytes v).length = 4 := length_leBytes _ _

@[simp] lemma readWord_wordBytes (v : UInt32) (rest : List Byte) :
    readWord (wordBytes v ++ rest) = (v, rest) := by
  have hlen : (wordBytes v).length = 4 := length_wordBytes v
  have hval : ofLeBytes (wordBytes v) = v.toNat := ofLeBytes_leBytes v.toNat_lt
  rw [readWord, List.take_left' hlen, List.drop_left' hlen, hval, UInt32.ofNat_toNat]

/-- A 64-bit word in memory. -/
def dwordBytes (v : UInt64) : List Byte := leBytes 8 v.toNat

/-- A word of 64 bits off the front. -/
def readDword (bs : List Byte) : UInt64 × List Byte :=
  (UInt64.ofNat (ofLeBytes (bs.take 8)), bs.drop 8)

@[simp] lemma length_dwordBytes (v : UInt64) : (dwordBytes v).length = 8 := length_leBytes _ _

@[simp] lemma readDword_dwordBytes (v : UInt64) (rest : List Byte) :
    readDword (dwordBytes v ++ rest) = (v, rest) := by
  have hlen : (dwordBytes v).length = 8 := length_dwordBytes v
  have hval : ofLeBytes (dwordBytes v) = v.toNat := ofLeBytes_leBytes v.toNat_lt
  rw [readDword, List.take_left' hlen, List.drop_left' hlen, hval, UInt64.ofNat_toNat]

/-! ## Arrays -/

/-- A character array of `n` bytes. -/
abbrev Buf (n : ℕ) := List.Vector Byte n

/-- An array of `n` bytes that starts with `bs` and is zero behind it. -/
def Buf.ofBytes (n : ℕ) (bs : List Byte) : Buf n :=
  ⟨(bs ++ List.replicate n 0).take n, by simp⟩

/-- The text up to the terminator, or the whole array when there is none. -/
def Buf.text {n : ℕ} (b : Buf n) : List Byte := b.toList.takeWhile (· != 0)

/-- The array holds the text `t` and a terminator. -/
def Buf.Holds {n : ℕ} (b : Buf n) (t : List Byte) : Prop :=
  b.text = t ∧ b.toList[t.length]? = some 0

instance {n : ℕ} (b : Buf n) (t : List Byte) : Decidable (b.Holds t) :=
  inferInstanceAs (Decidable (_ ∧ _))

lemma Buf.toList_ofBytes (n : ℕ) (bs : List Byte) :
    (Buf.ofBytes n bs).toList = (bs ++ List.replicate n 0).take n := rfl

lemma takeWhile_append_zeros {bs : List Byte} (h : 0 ∉ bs) (n : ℕ) :
    (bs ++ List.replicate n 0).takeWhile (· != 0) = bs := by
  have hzeros : (List.replicate n (0 : Byte)).takeWhile (· != 0) = [] := by
    cases n <;> rfl
  have hall : ∀ b ∈ bs, (b != 0) = true := fun b hb => bne_iff_ne.mpr fun h0 => h (h0 ▸ hb)
  rw [List.takeWhile_append_of_pos hall, hzeros, List.append_nil]

lemma Buf.text_ofBytes {n : ℕ} {bs : List Byte} (h : 0 ∉ bs) :
    (Buf.ofBytes n bs).text = bs.take n := by
  have hcut : 0 ∉ bs.take n := fun hmem => h (List.mem_of_mem_take hmem)
  rw [Buf.text, Buf.toList_ofBytes, List.take_append, List.take_replicate,
    takeWhile_append_zeros hcut]

/-- Bytes that were copied to a cleared array are a terminated text exactly if they leave room. -/
lemma Buf.ofBytes_holds_iff {n : ℕ} {bs t : List Byte} (h : 0 ∉ bs) :
    (Buf.ofBytes n bs).Holds t ↔ bs.length < n ∧ bs = t := by
  rw [Buf.Holds, Buf.text_ofBytes h, Buf.toList_ofBytes]
  constructor
  · rintro ⟨rfl, hend⟩
    have hlen : bs.length < n := by
      by_contra hlong
      have hfull : (bs.take n).length = n := by
        rw [List.length_take]
        omega
      rw [hfull, List.getElem?_take_eq_none le_rfl] at hend
      exact Option.some_ne_none _ hend.symm
    exact ⟨hlen, (List.take_of_length_le hlen.le).symm⟩
  · rintro ⟨hlen, rfl⟩
    refine ⟨List.take_of_length_le hlen.le, ?_⟩
    rw [List.getElem?_take_of_lt hlen, List.getElem?_append_right le_rfl, Nat.sub_self,
      List.getElem?_replicate_of_lt (by omega)]

/-- An array of `n` bytes off the front. -/
def readBuf (n : ℕ) (bs : List Byte) : Buf n × List Byte := (.ofBytes n (bs.take n), bs.drop n)

@[simp] lemma readBuf_toList {n : ℕ} (b : Buf n) (rest : List Byte) :
    readBuf n (b.toList ++ rest) = (b, rest) := by
  have hlen : b.toList.length = n := b.toList_length
  have htake : (b.toList ++ List.replicate n 0).take n = b.toList := List.take_left' hlen
  rw [readBuf, List.take_left' hlen, List.drop_left' hlen]
  exact Prod.ext (Subtype.ext htake) rfl

end Bytes
