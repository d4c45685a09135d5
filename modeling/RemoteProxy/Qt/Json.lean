import Mathlib.Data.List.Lex
import RemoteProxy.Qt.Types

namespace RemoteProxy

def ascii (s : String) : QByteArray := s.toList.map fun c => UInt8.ofNat c.toNat

def uuidPrefix : List Char := "\x7b00000000-0000-0000-0000-".toList

def uuidDigits (n : Nat) : List Char :=
  List.replicate (12 - (Nat.toDigits 10 n).length) '0' ++ Nat.toDigits 10 n

def uuidText (n : Nat) : String := String.ofList (uuidPrefix ++ (uuidDigits n ++ "\x7d".toList))

def uuidOf (s : String) : QUuid :=
  let n := Nat.ofDigitChars 10 (s.toList.drop 25).dropLast 0
  if s.toList = (uuidText n).toList then ⟨n⟩ else QUuid.null

theorem digits_uuidText (n : Nat) : ((uuidText n).toList.drop 25).dropLast = uuidDigits n := by
  have hlength : uuidPrefix.length = 25 := by decide +kernel
  have hlast : "\x7d".toList.length = 1 := by decide +kernel
  rw [uuidText,String.toList_ofList,List.drop_left' hlength,List.dropLast_eq_take,
    List.length_append,hlast,Nat.add_sub_cancel,List.take_left]

theorem uuidOf_uuidText (n : Nat) : uuidOf (uuidText n) = ⟨n⟩ := by
  have hnumber : Nat.ofDigitChars 10 (uuidDigits n) 0 = n := by
    rw [uuidDigits,Nat.ofDigitChars_append,Nat.ofDigitChars_replicate_zero,Nat.mul_zero,
      Nat.ofDigitChars_ten_toDigits]
  rw [uuidOf,digits_uuidText,hnumber]
  exact if_pos rfl

/-- What is written as one byte and is not a control character. -/
def Printable (c : Char) : Prop := 0x20 ≤ c.toNat ∧ c.toNat < 0x80

instance : DecidablePred Printable := fun _ => inferInstanceAs (Decidable (_ ∧ _))

theorem printable_toNat {c : Char} (h : Printable c) : (UInt8.ofNat c.toNat).toNat = c.toNat :=
  UInt8.toNat_ofNat_of_lt (lt_trans h.2 (by decide))

theorem chars_ascii {s : String} (h : ∀ c ∈ s.toList, Printable c) :
    (ascii s).map (fun x => Char.ofNat x.toNat) = s.toList := by
  rw [ascii,List.map_map]
  refine (List.map_congr_left fun c hc => ?_).trans (List.map_id _)
  rw [Function.comp_apply,printable_toNat (h c hc),Char.ofNat_toNat]
  rfl

theorem uuidText_printable (n : Nat) : ∀ c ∈ (uuidText n).toList, Printable c := by
  intro c hc
  rw [uuidText,String.toList_ofList,uuidDigits] at hc
  simp only [List.mem_append,List.mem_replicate] at hc
  have hprefix : uuidPrefix.all (fun c => decide (Printable c)) = true := by decide +kernel
  have hsuffix : "\x7d".toList.all (fun c => decide (Printable c)) = true := by decide +kernel
  rcases hc with hc | (⟨-,rfl⟩ | hc) | hc
  · exact of_decide_eq_true (List.all_eq_true.mp hprefix c hc)
  · decide
  · have hdigit := Nat.isDigit_of_mem_toDigits (by decide) (by decide) hc
    simp only [Char.isDigit,Bool.and_eq_true,decide_eq_true_eq] at hdigit
    have hzero : 48 ≤ c.toNat := UInt32.le_iff_toNat_le.mp hdigit.1
    have hnine : c.toNat ≤ 57 := UInt32.le_iff_toNat_le.mp hdigit.2
    exact ⟨by omega,by omega⟩
  · exact of_decide_eq_true (List.all_eq_true.mp hsuffix c hc)

namespace QJsonDocument

def quoted (s : String) : QByteArray := ascii "\"" ++ ascii s ++ ascii "\""

def joined : List QByteArray → QByteArray
  | [] => []
  | [x] => x
  | x :: xs => x ++ ascii "," ++ joined xs

def keyLe (a b : String) : Bool := decide (a.toList.map Char.toNat ≤ b.toList.map Char.toNat)

def insertEntry (e : String × QByteArray) : List (String × QByteArray) → List (String × QByteArray)
  | [] => [e]
  | x :: xs => if keyLe e.1 x.1 then e :: x :: xs else x :: insertEntry e xs

def object (entries : List (String × QByteArray)) : QByteArray :=
  ascii "\x7b" ++
    joined ((entries.foldr insertEntry []).map fun e => quoted e.1 ++ ascii ":" ++ e.2) ++
    ascii "\x7d"

mutual

/-- The compact form, for integers and for texts without characters to escape. -/
def toJson : QVariant → QByteArray
  | .invalid => ascii "null"
  | .null => ascii "null"
  | .bool b => ascii (if b then "true" else "false")
  | .number mantissa _ => ascii (toString mantissa)
  | .string s => quoted s
  | .uuid u => quoted (uuidText u.toNat)
  | .list l => ascii "[" ++ joined (toJsonList l) ++ ascii "]"
  | .map m => object (toJsonEntries m)

def toJsonList : List QVariant → List QByteArray
  | [] => []
  | x :: xs => toJson x :: toJsonList xs

def toJsonEntries : List (String × QVariant) → List (String × QByteArray)
  | [] => []
  | (key,x) :: xs => (key,toJson x) :: toJsonEntries xs

end

end QJsonDocument

def Qt.onDocuments (documents : List QVariantMap) : Qt where
  fromJson data :=
    match documents.find? fun m => QJsonDocument.toJson (.map m) == data.filter (· != 0x0A) with
    | some m => .ok (.map m)
    | none => .error "illegal value"
  toJson m := QJsonDocument.toJson (.map m)
  toJsonIndented _ := ""
  toInt
    | .number mantissa _ => some mantissa
    | _ => none
  toUInt
    | .number mantissa _ => mantissa.toNat
    | _ => 0
  toUuid
    | .uuid u => u
    | .string s => uuidOf s
    | _ => QUuid.null
  toString
    | .string s => s
    | .uuid u => uuidText u.toNat
    | .number mantissa _ => ToString.toString mantissa
    | _ => ""
  canConvert v t :=
    match v,t with
    | .string _, _ => true
    | .uuid _, .Uuid => true
    | .uuid _, .String => true
    | .number .., .Int => true
    | .number .., .UInt => true
    | .number .., .Double => true
    | .bool _, .Bool => true
    | _, _ => false
  convert v t :=
    match v,t with
    | .string _, .String => true
    | .uuid _, .Uuid => true
    | .number .., .Int => true
    | .number .., .UInt => true
    | .bool _, .Bool => true
    | _, _ => false
  uuidToString u := uuidText u.toNat
  uuidFromString := uuidOf
  arg format a := format ++ a

end RemoteProxy
