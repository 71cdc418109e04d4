import Mathlib

/-! Messages in the protocol-buffer encoding: each field that is not at its default behind its number. -/

namespace MindLeak.Protobuf

open List

/-- Seven bits a byte, the lowest first; ten bytes hold every number of 64 bits. -/
def varintIn : Nat → Nat → List UInt8
  | 0, _ => []
  | bytes + 1, value => if value < 128 then [UInt8.ofNat value] else UInt8.ofNat (128 + value % 128) :: varintIn bytes (value / 128)

def varint (value : Nat) : List UInt8 := varintIn 10 value

def delimited (number : Nat) (content : List UInt8) : List UInt8 :=
  varint (number * 8 + 2) ++ varint content.length ++ content

def bytes (number : Nat) (content : List UInt8) : List UInt8 := if content = [] then [] else delimited number content

def text (number : Nat) (value : String) : List UInt8 := bytes number value.toUTF8.data.toList

def texts (number : Nat) (values : List String) : List UInt8 :=
  values.flatMap fun value => delimited number value.toUTF8.data.toList

def number (field value : Nat) : List UInt8 := if value = 0 then [] else varint (field * 8) ++ varint value

/-- A number that may be left out, and is there when it is zero. -/
def optionalNumber (field : Nat) : Option Nat → List UInt8
  | none => []
  | some value => varint (field * 8) ++ varint value

def enumeration (field : Nat) (value : Int) : List UInt8 := number field (UInt64.ofInt value).toNat

def flag (field : Nat) (value : Bool) : List UInt8 := number field value.toNat

section
variable {field value bound : Nat}

theorem length_varintIn_le (count value : Nat) : (varintIn count value).length ≤ count := by
  induction count generalizing value with
  | zero => exact Nat.le_refl 0
  | succ count ih =>
    rw [varintIn]
    split
    · exact Nat.succ_le_succ (Nat.zero_le count)
    · exact Nat.succ_le_succ (ih _)

theorem length_varint_le (value : Nat) : (varint value).length ≤ 10 := length_varintIn_le 10 value

theorem length_varintIn_of_lt {count : Nat} (digits : Nat) (small : value < 128 ^ (digits + 1)) :
    (varintIn count value).length ≤ digits + 1 := by
  induction count generalizing value digits with
  | zero => exact Nat.zero_le _
  | succ count ih =>
    rw [varintIn]
    split
    · exact Nat.succ_le_succ (Nat.zero_le _)
    next large =>
      cases digits with
      | zero => exact absurd small (by omega)
      | succ digits =>
        have rest : value / 128 < 128 ^ (digits + 1) := by
          apply Nat.div_lt_of_lt_mul
          rwa [← Nat.pow_succ']
        exact Nat.succ_le_succ (ih digits rest)

theorem length_tag_le (low : field < 16) {wire : Nat} (wires : wire < 8) : (varint (field * 8 + wire)).length ≤ 1 :=
  length_varintIn_of_lt 0 (by omega)

theorem length_delimited_le {content : List UInt8} (low : field < 16) (short : content.length ≤ bound) (small : bound < 16384) :
    (delimited field content).length ≤ bound + 3 := by
  have tag := length_tag_le low (by decide : 2 < 8)
  have count : (varint content.length).length ≤ 2 := length_varintIn_of_lt 1 (by omega)
  rw [delimited, length_append, length_append]
  omega

theorem length_bytes_le {content : List UInt8} (low : field < 16) (short : content.length ≤ bound) (small : bound < 16384) :
    (bytes field content).length ≤ bound + 3 := by
  unfold bytes
  split
  · exact Nat.zero_le _
  · exact length_delimited_le low short small

theorem length_text (value : String) : value.toUTF8.data.toList.length = value.utf8ByteSize := by
  rfl

theorem length_text_le {value : String} (low : field < 16) (short : value.utf8ByteSize ≤ bound) (small : bound < 16384) :
    (text field value).length ≤ bound + 3 :=
  length_bytes_le low (by rwa [length_text]) small

theorem length_texts_le {values : List String} (low : field < 16) (short : ∀ value ∈ values, value.utf8ByteSize ≤ bound)
    (small : bound < 16384) : (texts field values).length ≤ values.length * (bound + 3) := by
  induction values with
  | nil => exact Nat.zero_le _
  | cons first rest ih =>
    obtain ⟨here, others⟩ := forall_mem_cons.mp short
    have one := length_delimited_le low (Nat.le_trans (Nat.le_of_eq (length_text first)) here) small
    have more := ih others
    rw [texts] at more ⊢
    rw [flatMap_cons, length_append, length_cons, Nat.succ_mul]
    omega

theorem length_optionalNumber_le (low : field < 16) (value : Option Nat) : (optionalNumber field value).length ≤ 11 := by
  cases value with
  | none => exact Nat.zero_le _
  | some value =>
    have tag : (varint (field * 8)).length ≤ 1 := length_tag_le low (by decide : 0 < 8)
    have count := length_varint_le value
    rw [optionalNumber, length_append]
    omega

theorem length_number_le (low : field < 16) (value : Nat) : (number field value).length ≤ 11 := by
  unfold number
  split
  · exact Nat.zero_le _
  · exact length_optionalNumber_le low (some value)

end

end MindLeak.Protobuf
