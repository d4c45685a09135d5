import RemoteProxy.Common.SlipDataProcessor
import RemoteProxy.Foundation.Delimited

namespace RemoteProxy.SlipDataProcessor

/-- What the bytes between two END bytes are taken for, if they are not rejected. -/
def decode (body : QByteArray) : Option Frame :=
  let frameData := deserializeData body
  if QByteArray.isNull frameData then none else some (parseFrame frameData)

def encode (frames : List Frame) : QByteArray :=
  frames.flatMap fun frame => serializeData (buildFrame frame)

theorem encode_eq (frames : List Frame) :
    encode frames =
      Delimited.terminate ProtocolByteEnd (frames.map fun frame => escape (buildFrame frame)) := by
  simp only [encode,Delimited.terminate,List.flatMap_map]
  rfl

theorem encode_cons (frame : Frame) (frames : List Frame) :
    encode (frame :: frames) =
      escape (buildFrame frame) ++ ProtocolByteEnd :: encode frames := by
  simp [encode,serializeData_eq]

theorem count_encode (frames : List Frame) :
    (encode frames).count ProtocolByteEnd = frames.length := by
  induction frames with
  | nil => rfl
  | cons frame frames ih =>
    rw [encode_cons,List.count_append,List.count_cons_self,ih,
      List.count_eq_zero_of_not_mem (end_not_mem_escape _),List.length_cons,Nat.zero_add]

theorem deserializeData_serializeData (data rest : QByteArray) :
    deserializeData (serializeData data ++ rest) = data := by
  have hstop := Stuffing.unstuff_stuff_stop alphabet data rest
  rw [deserializeData_eq,serializeData_eq,List.append_assoc,List.singleton_append]
  exact congrArg (Option.getD · []) hstop

theorem decode_escape (data : QByteArray) (h : data ≠ []) :
    decode (escape data) = some (parseFrame data) := by
  rw [decode,deserializeData_escape]
  cases data with
  | nil => exact absurd rfl h
  | cons x data => rfl

/-- Decoding undoes encoding, whatever follows; an encoded frame has its one END byte at its end, and
a stream of encoded frames, cut at its END bytes in the one way there is, reads as those frames. -/
theorem decode_encode :
    (∀ frame rest, parseFrame (deserializeData (serializeData (buildFrame frame) ++ rest)) = frame) ∧
    (∀ data, ∃ body, serializeData data = body ++ [ProtocolByteEnd] ∧ ProtocolByteEnd ∉ body) ∧
    (∀ frames bodies, (∀ body ∈ bodies, ProtocolByteEnd ∉ body) →
      Delimited.terminate ProtocolByteEnd bodies = encode frames →
        bodies.map decode = frames.map some) ∧
    ∀ frames frames', encode frames = encode frames' → frames = frames' := by
  have hclean (frames : List Frame) :
      ∀ body ∈ frames.map fun frame => escape (buildFrame frame), ProtocolByteEnd ∉ body := by
    intro body hm
    obtain ⟨frame,-,rfl⟩ := List.mem_map.mp hm
    exact end_not_mem_escape _
  have hread (frames : List Frame) (bodies : List QByteArray)
      (hbodies : ∀ body ∈ bodies, ProtocolByteEnd ∉ body)
      (h : Delimited.terminate ProtocolByteEnd bodies = encode frames) :
      bodies.map decode = frames.map some := by
    rw [encode_eq] at h
    rw [Delimited.terminate_injective hbodies (hclean frames) h,List.map_map]
    refine List.map_congr_left fun frame _ => ?_
    exact (decode_escape _ (buildFrame_ne_nil frame)).trans
      (congrArg some (parseFrame_buildFrame frame))
  refine ⟨fun frame rest => ?_,fun data => ?_,hread,fun frames frames' h => ?_⟩
  · rw [deserializeData_serializeData,parseFrame_buildFrame]
  · exact ⟨escape data,serializeData_eq data,end_not_mem_escape data⟩
  · have hsome := hread frames' _ (hclean frames) ((encode_eq frames).symm.trans h)
    rw [hread frames _ (hclean frames) (encode_eq frames).symm] at hsome
    exact List.map_injective_iff.mpr (fun _ _ he => Option.some.inj he) hsome

theorem parseFrame_escape_iff (frame : Frame) :
    parseFrame (escape (buildFrame frame)) = frame ↔ Stuffing.Clean alphabet (buildFrame frame) := by
  rw [← Stuffing.stuff_eq_self_iff]
  constructor
  · intro h
    have hb := buildFrame_parseFrame (two_le_length_escape frame)
    rw [h] at hb
    exact hb.symm
  · intro h
    rw [escape,h,parseFrame_buildFrame]

theorem parseFrame_suffix {frame : Frame} {u : QByteArray} (hu : u <:+ escape (buildFrame frame))
    (hlen : 2 ≤ u.length) (h : parseFrame u = frame) :
    u = escape (buildFrame frame) ∧ Stuffing.Clean alphabet (buildFrame frame) := by
  have hb : buildFrame frame = u := by rw [← h,buildFrame_parseFrame hlen]
  rw [hb] at hu ⊢
  have hclean := Stuffing.clean_of_suffix alphabet hu
  exact ⟨((Stuffing.stuff_eq_self_iff alphabet u).mpr hclean).symm,hclean⟩

section Exact

/-- A body is rejected, or it is the encoding of the frame that it is taken for. -/
def Exact (body : QByteArray) : Prop :=
  ∀ frame, decode body = some frame → serializeData (buildFrame frame) = body ++ [ProtocolByteEnd]

theorem exact_escape_iff (data : QByteArray) (h : data ≠ []) :
    Exact (escape data) ↔ 2 ≤ data.length := by
  have hexact : Exact (escape data) ↔ escape (buildFrame (parseFrame data)) = escape data := by
    rw [Exact,decode_escape data h]
    constructor
    · exact fun hall => List.append_cancel_right (hall _ rfl)
    · rintro he frame hf
      rw [← Option.some.inj hf,serializeData_eq,he]
  rw [hexact]
  constructor
  · intro he
    rw [← Stuffing.stuff_injective alphabet he]
    simp [buildFrame]
  · intro hlen
    rw [buildFrame_parseFrame hlen]

theorem exact_open_iff (data : QByteArray) :
    Exact (escape data ++ [ProtocolByteEsc]) ↔ data = [] := by
  have hdata : deserializeData (escape data ++ [ProtocolByteEsc]) = data := by
    have hopen := Stuffing.unstuff_open alphabet data
    rw [deserializeData_eq]
    exact congrArg (Option.getD · []) hopen
  constructor
  · intro hall
    by_contra hne
    have hsome : decode (escape data ++ [ProtocolByteEsc]) = some (parseFrame data) := by
      rw [decode,hdata]
      cases data with
      | nil => exact absurd rfl hne
      | cons x data => rfl
    have he := List.append_cancel_right (hall _ hsome)
    exact Stuffing.stuff_ne_open alphabet _ _ he
  · rintro rfl frame hf
    exact absurd hf (by decide +revert)

theorem exact_unknown (data : QByteArray) {x : UInt8} (hend : x ≠ ProtocolByteTransposedEnd)
    (hesc : x ≠ ProtocolByteTransposedEsc) (rest : QByteArray) :
    Exact (escape data ++ ProtocolByteEsc :: x :: rest) := by
  have hdata : deserializeData (escape data ++ ProtocolByteEsc :: x :: rest) = [] := by
    have hunknown := Stuffing.unstuff_unknown alphabet data hend hesc rest
    rw [deserializeData_eq]
    exact congrArg (Option.getD · []) hunknown
  intro frame hf
  rw [decode,hdata] at hf
  exact absurd hf (by simp [QByteArray.isNull])

/-- The decoder is exact but where an escape breaks off at the end of a body that holds something
else, and where a body stands for a single byte. -/
theorem exact_iff {body : QByteArray} (hne : body ≠ []) (hclean : ProtocolByteEnd ∉ body) :
    Exact body ↔ (¬∃ data ≠ [], body = escape data ++ [ProtocolByteEsc]) ∧
      ¬∃ x, body = escape [x] := by
  rcases Stuffing.stuff_cases alphabet body hclean with
    ⟨data,rfl⟩ | ⟨data,rfl⟩ | ⟨data,x,rest,rfl,hend,hesc⟩
  · have hdata : data ≠ [] := by
      rintro rfl
      exact hne rfl
    refine (exact_escape_iff data hdata).trans ⟨fun hlen => ⟨?_,?_⟩,fun h => ?_⟩
    · rintro ⟨other,-,he⟩
      exact Stuffing.stuff_ne_open alphabet _ _ he
    · rintro ⟨x,he⟩
      rw [Stuffing.stuff_injective alphabet he] at hlen
      exact absurd hlen (by simp)
    · match data,hdata,h.2 with
      | [x],_,h => exact absurd ⟨x,rfl⟩ h
      | x :: y :: data,_,_ => simp
  · refine (exact_open_iff data).trans ⟨fun hnil => ⟨?_,?_⟩,fun h => ?_⟩
    · rintro ⟨other,hother,he⟩
      exact hother (by rw [← Stuffing.stuff_injective alphabet (List.append_cancel_right he),hnil])
    · rintro ⟨x,he⟩
      exact Stuffing.stuff_ne_open alphabet _ _ he.symm
    · by_contra hdata
      exact h.1 ⟨data,hdata,rfl⟩
  · refine iff_of_true (exact_unknown data hend hesc rest) ⟨?_,?_⟩
    · rintro ⟨other,-,he⟩
      have hu := Stuffing.unstuff_unknown alphabet data hend hesc rest
      rw [show Stuffing.stuff alphabet data ++ alphabet.esc :: x :: rest =
        Stuffing.stuff alphabet other ++ [alphabet.esc] from he,Stuffing.unstuff_open] at hu
      exact absurd hu (by simp)
    · rintro ⟨y,he⟩
      have hu := Stuffing.unstuff_unknown alphabet data hend hesc rest
      rw [show Stuffing.stuff alphabet data ++ alphabet.esc :: x :: rest =
        Stuffing.stuff alphabet [y] from he,Stuffing.unstuff_stuff_nil] at hu
      exact absurd hu (by simp)

theorem exact_iff_sample : Exact [0x00,0x01,0x41] ↔
    (¬∃ data ≠ [], [0x00,0x01,0x41] = escape data ++ [ProtocolByteEsc]) ∧
      ¬∃ x, [0x00,0x01,0x41] = escape [x] := exact_iff (by simp) (by decide)

theorem decode_inexact :
    decode [0x00,0x01,ProtocolByteEsc] = some ⟨1,[]⟩ ∧ ¬Exact [0x00,0x01,ProtocolByteEsc] ∧
      decode [0x05] = some ⟨0,[]⟩ ∧ ¬Exact [0x05] := by
  refine ⟨by decide,fun h => ?_,by decide,fun h => ?_⟩
  · exact absurd (h ⟨1,[]⟩ (by decide)) (by decide)
  · exact absurd (h ⟨0,[]⟩ (by decide)) (by decide)

end Exact

end RemoteProxy.SlipDataProcessor
