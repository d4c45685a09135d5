import RemoteProxy.Foundation.Stuffing
import RemoteProxy.Qt.Types

namespace RemoteProxy.SlipDataProcessor

def ProtocolByteEnd : UInt8 := 0xC0

def ProtocolByteEsc : UInt8 := 0xDB

def ProtocolByteTransposedEnd : UInt8 := 0xDC

def ProtocolByteTransposedEsc : UInt8 := 0xDD

@[ext] structure Frame where
  socketAddress : UInt16
  data : QByteArray
  deriving DecidableEq, Repr

def deserializeLoop : QByteArray → Bool → QByteArray → QByteArray
  | [], _, deserializedData => deserializedData
  | byte :: data, escaped, deserializedData =>
    if escaped then
      if byte = ProtocolByteTransposedEnd then
        deserializeLoop data false (deserializedData ++ [ProtocolByteEnd])
      else if byte = ProtocolByteTransposedEsc then
        deserializeLoop data false (deserializedData ++ [ProtocolByteEsc])
      else []
    else if byte = ProtocolByteEsc then deserializeLoop data true deserializedData
    else if byte = ProtocolByteEnd then deserializedData
    else deserializeLoop data false (deserializedData ++ [byte])

/-- An array nothing was appended to is a null array, as is the `QByteArray()` of the error path:
both are `[]` here. -/
def deserializeData (data : QByteArray) : QByteArray := deserializeLoop data false []

def serializeByte (byte : UInt8) : QByteArray :=
  if byte = ProtocolByteEnd then [ProtocolByteEsc,ProtocolByteTransposedEnd]
  else if byte = ProtocolByteEsc then [ProtocolByteEsc,ProtocolByteTransposedEsc]
  else [byte]

def serializeData (data : QByteArray) : QByteArray :=
  data.flatMap serializeByte ++ [ProtocolByteEnd]

/-- `QDataStream` is big endian, and reads 0 where two bytes are asked for and fewer are left. -/
def parseFrame : QByteArray → Frame
  | hi :: lo :: data => ⟨UInt16.ofNat (hi.toNat * 256 + lo.toNat),data⟩
  | _ => ⟨0,[]⟩

def buildFrame (frame : Frame) : QByteArray :=
  UInt8.ofNat (frame.socketAddress.toNat / 256) :: UInt8.ofNat (frame.socketAddress.toNat % 256) ::
    frame.data

def alphabet : Stuffing.Alphabet UInt8 where
  stop := ProtocolByteEnd
  esc := ProtocolByteEsc
  tstop := ProtocolByteTransposedEnd
  tesc := ProtocolByteTransposedEsc
  stop_ne_esc := by decide
  stop_ne_tstop := by decide
  stop_ne_tesc := by decide
  tstop_ne_tesc := by decide
  esc_ne_tstop := by decide
  esc_ne_tesc := by decide

def escape (data : QByteArray) : QByteArray := Stuffing.stuff alphabet data

theorem serializeData_eq (data : QByteArray) :
    serializeData data = escape data ++ [ProtocolByteEnd] := rfl

theorem deserializeLoop_eq (data : QByteArray) (escaped : Bool) (out : QByteArray) :
    deserializeLoop data escaped out =
      ((Stuffing.unstuffFrom alphabet escaped data).map (out ++ ·)).getD [] := by
  induction data generalizing escaped out with
  | nil => simp [deserializeLoop,Stuffing.unstuffFrom]
  | cons byte data ih =>
    cases escaped with
    | true =>
      change (if byte = ProtocolByteTransposedEnd then _ else _) =
        ((if byte = ProtocolByteTransposedEnd then _ else _ : Option QByteArray).map _).getD []
      split
      · simp [ih,alphabet,Option.map_map,Function.comp_def]
      · change (if byte = ProtocolByteTransposedEsc then _ else _) =
          ((if byte = ProtocolByteTransposedEsc then _ else _ : Option QByteArray).map _).getD []
        split
        · simp [ih,alphabet,Option.map_map,Function.comp_def]
        · rfl
    | false =>
      change (if byte = ProtocolByteEsc then _ else _) =
        ((if byte = ProtocolByteEsc then _ else _ : Option QByteArray).map _).getD []
      split
      · rw [ih]
      · change (if byte = ProtocolByteEnd then _ else _) =
          ((if byte = ProtocolByteEnd then _ else _ : Option QByteArray).map _).getD []
        split
        · simp
        · simp [ih,Option.map_map,Function.comp_def]

theorem deserializeData_eq (data : QByteArray) :
    deserializeData data = (Stuffing.unstuff alphabet data).getD [] := by
  rw [deserializeData,deserializeLoop_eq,Stuffing.unstuff]
  simp

@[simp] theorem deserializeData_escape (data : QByteArray) : deserializeData (escape data) = data := by
  rw [deserializeData_eq,escape,Stuffing.unstuff_stuff_nil,Option.getD_some]

theorem end_not_mem_escape (data : QByteArray) : ProtocolByteEnd ∉ escape data :=
  Stuffing.stop_not_mem_stuff alphabet data

theorem buildFrame_ne_nil (frame : Frame) : buildFrame frame ≠ [] := by simp [buildFrame]

theorem escape_buildFrame_ne_nil (frame : Frame) : escape (buildFrame frame) ≠ [] :=
  Stuffing.stuff_ne_nil alphabet (buildFrame_ne_nil frame)

@[simp] theorem parseFrame_buildFrame (frame : Frame) : parseFrame (buildFrame frame) = frame := by
  have hlt : frame.socketAddress.toNat < 65536 := UInt16.toNat_lt _
  have hhi : (UInt8.ofNat (frame.socketAddress.toNat / 256)).toNat =
      frame.socketAddress.toNat / 256 := by
    rw [UInt8.toNat_ofNat']; omega
  have hlo : (UInt8.ofNat (frame.socketAddress.toNat % 256)).toNat =
      frame.socketAddress.toNat % 256 := by
    rw [UInt8.toNat_ofNat']; omega
  have hsum : frame.socketAddress.toNat / 256 * 256 + frame.socketAddress.toNat % 256 =
      frame.socketAddress.toNat := by omega
  simp only [buildFrame,parseFrame,hhi,hlo,hsum,UInt16.ofNat_toNat]

theorem address_toNat (hi lo : UInt8) :
    (UInt16.ofNat (hi.toNat * 256 + lo.toNat)).toNat = hi.toNat * 256 + lo.toNat := by
  have hhi : hi.toNat < 256 := UInt8.toNat_lt hi
  have hlo : lo.toNat < 256 := UInt8.toNat_lt lo
  rw [UInt16.toNat_ofNat']
  omega

theorem buildFrame_parseFrame {data : QByteArray} (h : 2 ≤ data.length) :
    buildFrame (parseFrame data) = data := by
  match data,h with
  | hi :: lo :: data,_ =>
    have hhi : hi.toNat < 256 := UInt8.toNat_lt hi
    have hlo : lo.toNat < 256 := UInt8.toNat_lt lo
    have h1 : (hi.toNat * 256 + lo.toNat) / 256 = hi.toNat := by omega
    have h2 : (hi.toNat * 256 + lo.toNat) % 256 = lo.toNat := by omega
    simp only [parseFrame,buildFrame,address_toNat,h1,h2,UInt8.ofNat_toNat]

theorem two_le_length_escape (frame : Frame) : 2 ≤ (escape (buildFrame frame)).length := by
  have hone : ∀ x, 1 ≤ (Stuffing.stuffOne alphabet x).length := fun x =>
    List.length_pos_iff.mpr (Stuffing.stuffOne_ne_nil alphabet x)
  simp only [escape,buildFrame,Stuffing.stuff_cons,List.length_append]
  have h1 := hone (UInt8.ofNat (frame.socketAddress.toNat / 256))
  have h2 := hone (UInt8.ofNat (frame.socketAddress.toNat % 256))
  omega

theorem parseFrame_escape_ne_zero (frame : Frame) (h : frame.socketAddress ≠ 0) :
    (parseFrame (escape (buildFrame frame))).socketAddress ≠ 0 := by
  have hne : ∀ (x y : UInt8) (data : QByteArray), x ≠ 0 ∨ y ≠ 0 →
      (parseFrame (x :: y :: data)).socketAddress ≠ 0 := by
    intro x y data hxy h0
    have hn := congrArg UInt16.toNat h0
    simp only [parseFrame,address_toNat,UInt16.toNat_zero] at hn
    have hx : x.toNat = 0 := by omega
    have hy : y.toNat = 0 := by omega
    exact hxy.elim (fun hx' => hx' (UInt8.toNat_inj.mp hx)) fun hy' => hy' (UInt8.toNat_inj.mp hy)
  have haddr : parseFrame (buildFrame frame) = frame := parseFrame_buildFrame frame
  simp only [escape,buildFrame,Stuffing.stuff_cons] at haddr ⊢
  generalize UInt8.ofNat (frame.socketAddress.toNat / 256) = hi at *
  generalize UInt8.ofNat (frame.socketAddress.toNat % 256) = lo at *
  have hclean : hi ≠ 0 ∨ lo ≠ 0 := by
    by_contra hn
    simp only [not_or,not_not] at hn
    rw [hn.1,hn.2] at haddr
    exact h (by rw [← haddr]; rfl)
  have hesc : alphabet.esc ≠ 0 := by decide
  unfold Stuffing.stuffOne
  by_cases hhi : hi = alphabet.stop
  · rw [if_pos hhi]
    exact hne _ _ _ (.inl hesc)
  · rw [if_neg hhi]
    by_cases hhe : hi = alphabet.esc
    · rw [if_pos hhe]
      exact hne _ _ _ (.inl hesc)
    · rw [if_neg hhe]
      by_cases hlo : lo = alphabet.stop
      · rw [if_pos hlo]
        exact hne _ _ _ (.inr hesc)
      · rw [if_neg hlo]
        by_cases hle : lo = alphabet.esc
        · rw [if_pos hle]
          exact hne _ _ _ (.inr hesc)
        · rw [if_neg hle]
          exact hne _ _ _ hclean

end RemoteProxy.SlipDataProcessor
