import Mathlib.Data.List.Basic
import Mathlib.Tactic.Common

namespace Utf8

def replacement : Char := Char.ofNat 0xFFFD

def encode (text : List Char) : List UInt8 := text.flatMap String.utf8EncodeChar

/-- A byte at which no character begins is replaced; `fuel` bounds the bytes that are left. -/
def decodeFrom : Nat → List UInt8 → List Char
  | 0, _ => []
  | _ + 1, [] => []
  | fuel + 1, byte :: bytes =>
    match (byte :: bytes).toByteArray.utf8DecodeChar? 0 with
    | some c => c :: decodeFrom fuel ((byte :: bytes).drop c.utf8Size)
    | none => replacement :: decodeFrom fuel bytes

def decode (bytes : List UInt8) : List Char := decodeFrom bytes.length bytes

theorem decodeFrom_encode (text : List Char) {fuel : Nat} (h : (encode text).length ≤ fuel) :
    decodeFrom fuel (encode text) = text := by
  induction text generalizing fuel with
  | nil =>
    cases fuel with
    | zero => rfl
    | succ fuel => rfl
  | cons c text ih =>
    have hencode : encode (c :: text) = String.utf8EncodeChar c ++ encode text := rfl
    have hsize := String.length_utf8EncodeChar c
    have hpos := c.utf8Size_pos
    rw [hencode,List.length_append,hsize] at h
    obtain ⟨fuel,rfl⟩ : ∃ n, fuel = n + 1 := ⟨fuel - 1,by omega⟩
    obtain ⟨byte,bytes,hb⟩ := List.exists_cons_of_ne_nil
      (List.append_ne_nil_of_left_ne_nil String.utf8EncodeChar_ne_nil (encode text) :
        String.utf8EncodeChar c ++ encode text ≠ [])
    have hchar : (byte :: bytes).toByteArray.utf8DecodeChar? 0 = some c := by
      rw [← hb,List.toByteArray_append']
      exact ByteArray.utf8DecodeChar?_utf8EncodeChar_append
    have hdrop : (byte :: bytes).drop c.utf8Size = encode text := by
      rw [← hb,← hsize,List.drop_left]
    rw [hencode,hb,decodeFrom,hchar]
    simp only [hdrop]
    rw [ih (by omega)]

theorem decode_utf8 (text : List Char) : decode (encode text) = text :=
  decodeFrom_encode text (Nat.le_refl _)

theorem encode_decode_iff (bytes : List UInt8) :
    encode (decode bytes) = bytes ↔ ∃ text, bytes = encode text := by
  constructor
  · exact fun h => ⟨decode bytes,h.symm⟩
  · rintro ⟨text,rfl⟩
    rw [decode_utf8]

theorem c0_not_mem_encode (text : List Char) : (0xC0 : UInt8) ∉ encode text := by
  have hne (n : Nat) (h : n % 256 ≠ 192) : UInt8.ofNat n ≠ 0xC0 := by
    intro he
    have hn := congrArg UInt8.toNat he
    rw [UInt8.toNat_ofNat'] at hn
    exact h hn
  have hone (c : Char) : ∀ byte ∈ String.utf8EncodeChar c, byte ≠ 0xC0 := by
    have hlt : c.val.toNat < 0x110000 := by
      have := c.valid
      rcases this with h | h <;> omega
    intro byte hm
    simp only [String.utf8EncodeChar] at hm
    generalize c.val.toNat = v at *
    split at hm
    · obtain rfl := List.mem_singleton.mp hm
      exact hne _ (by omega)
    · split at hm
      · simp only [List.mem_cons,List.not_mem_nil,or_false] at hm
        rcases hm with rfl | rfl
        · exact hne _ (by omega)
        · exact hne _ (by omega)
      · split at hm
        · simp only [List.mem_cons,List.not_mem_nil,or_false] at hm
          rcases hm with rfl | rfl | rfl
          · exact hne _ (by omega)
          · exact hne _ (by omega)
          · exact hne _ (by omega)
        · simp only [List.mem_cons,List.not_mem_nil,or_false] at hm
          rcases hm with rfl | rfl | rfl | rfl
          · exact hne _ (by omega)
          · exact hne _ (by omega)
          · exact hne _ (by omega)
          · exact hne _ (by omega)
  intro hm
  obtain ⟨c,-,hbyte⟩ := List.mem_flatMap.mp hm
  exact hone c _ hbyte rfl

end Utf8
