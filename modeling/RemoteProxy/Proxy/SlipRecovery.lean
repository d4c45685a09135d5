import Mathlib.Algebra.GroupWithZero.Nat
import Mathlib.Data.List.DropRight
import RemoteProxy.Common.FrameCodec
import RemoteProxy.Proxy.Client

namespace RemoteProxy

open SlipDataProcessor

/-- What a connection may send up to an END byte: a frame, or bytes that the decoder rejects. -/
inductive Segment where
  | encoded (frame : Frame)
  | malformed (body : QByteArray) (clean : ProtocolByteEnd ∉ body)
      (rejected : QByteArray.isNull (deserializeData body))

namespace Segment

def bytes : Segment → QByteArray
  | .encoded frame => serializeData (buildFrame frame)
  | .malformed body _ _ => body ++ [ProtocolByteEnd]

def body : Segment → QByteArray
  | .encoded frame => escape (buildFrame frame)
  | .malformed body _ _ => body

def packet : Segment → Option QByteArray
  | .encoded frame => some (escape (buildFrame frame))
  | .malformed _ _ _ => none

def Empty : Segment → Prop
  | .encoded _ => False
  | .malformed body _ _ => body = []

theorem bytes_eq (segment : Segment) : segment.bytes = segment.body ++ [ProtocolByteEnd] := by
  cases segment with
  | encoded frame => exact serializeData_eq _
  | malformed body => rfl

theorem end_not_mem_body (segment : Segment) : ProtocolByteEnd ∉ segment.body := by
  cases segment with
  | encoded frame => exact end_not_mem_escape _
  | malformed body clean => exact clean

end Segment

namespace TunnelProxyClient

/-- One packet for every frame and none for what is rejected, and after each chunk the buffer holds
what came behind the last END byte. -/
structure Recovers (c : TunnelProxyClient) (segments : List Segment) (chunks : List QByteArray) :
    Prop where
  packets : (c.packets chunks).2 = segments.filterMap Segment.packet
  buffer : ∀ pre, pre <+: chunks →
    (c.packets pre).1.m_dataBuffer = pre.flatten.rtakeWhile (fun byte => byte ≠ ProtocolByteEnd)

variable {c : TunnelProxyClient}

theorem packets_slip (hslip : c.m_slipEnabled = true) (chunks : List QByteArray) :
    c.packets chunks =
      ({ c with m_dataBuffer := (processSlip c.m_dataBuffer chunks.flatten).1 },
        (processSlip c.m_dataBuffer chunks.flatten).2) := by
  induction chunks using List.reverseRecOn with
  | nil => rfl
  | append_singleton chunks chunk ih =>
    have hstep : c.packets (chunks ++ [chunk]) =
        (((c.packets chunks).1.processData chunk).1,
          (c.packets chunks).2 ++ ((c.packets chunks).1.processData chunk).2) := by
      rw [packets,List.foldl_append]
      rfl
    have hdata (t : TunnelProxyClient) (ht : t.m_slipEnabled = true) :
        t.processData chunk = ({ t with m_dataBuffer := (processSlip t.m_dataBuffer chunk).1 },
          (processSlip t.m_dataBuffer chunk).2) := by
      simp only [processData,ht,if_true]
    rw [hstep,ih,List.flatten_append,List.flatten_singleton,processSlip_append,hdata]
    exact hslip

theorem processSlip_conserves (buf data : QByteArray) :
    (processSlip buf data).2.flatten ++ (processSlip buf data).1 =
      buf ++ data.filter (fun byte => byte ≠ ProtocolByteEnd) := by
  induction data using List.reverseRecOn with
  | nil => simp [processSlip]
  | append_singleton data byte ih =>
    rw [processSlip_append,List.flatten_append,List.filter_append,← List.append_assoc buf,← ih]
    generalize (processSlip buf data).2 = packets
    generalize (processSlip buf data).1 = b
    have hone : (processSlip b [byte]).2.flatten ++ (processSlip b [byte]).1 =
        b ++ [byte].filter (fun byte => byte ≠ ProtocolByteEnd) := by
      by_cases h : byte = ProtocolByteEnd
      · rw [h,processSlip,Delimited.run_stop]
        split
        · simp
        · simp only [closeFrame]
          split <;> simp
      · rw [processSlip,Delimited.run_body _ _ _ (by simpa using fun e => h e.symm)]
        simp [h]
    rw [List.append_assoc,hone,List.append_assoc]

section Stream

theorem filter_segment (segment : Segment) :
    segment.bytes.filter (fun byte => byte ≠ ProtocolByteEnd) = segment.body := by
  have hbody : segment.body.filter (fun byte => byte ≠ ProtocolByteEnd) = segment.body :=
    List.filter_eq_self.mpr fun byte hm =>
      decide_eq_true fun e => segment.end_not_mem_body (e ▸ hm)
  rw [segment.bytes_eq,List.filter_append,hbody]
  simp

theorem length_stream (segments : List Segment) :
    ((segments.flatMap Segment.bytes).filter (fun byte => byte ≠ ProtocolByteEnd)).length =
      (segments.map fun segment => segment.body.length).sum := by
  induction segments with
  | nil => rfl
  | cons segment segments ih =>
    rw [List.flatMap_cons,List.filter_append,filter_segment,List.length_append,ih,List.map_cons,
      List.sum_cons]

theorem length_packets (segments : List Segment) :
    (segments.filterMap Segment.packet).flatten.length ≤
      (segments.map fun segment => segment.body.length).sum ∧
    ((segments.filterMap Segment.packet).flatten.length =
        (segments.map fun segment => segment.body.length).sum →
      ∀ segment ∈ segments, segment.packet = none → segment.Empty) := by
  induction segments with
  | nil => exact ⟨Nat.le_refl _,fun _ segment hm => absurd hm (by simp)⟩
  | cons segment segments ih =>
    obtain ⟨hle,heq⟩ := ih
    cases segment with
    | encoded frame =>
      have hpacket : (Segment.encoded frame :: segments).filterMap Segment.packet =
          escape (buildFrame frame) :: segments.filterMap Segment.packet := rfl
      rw [hpacket,List.flatten_cons,List.length_append,List.map_cons,List.sum_cons]
      refine ⟨Nat.add_le_add_left hle _,fun h => ?_⟩
      have hrest := heq (Nat.add_left_cancel h)
      intro segment hm hnone
      rcases List.mem_cons.mp hm with rfl | hm
      · exact absurd hnone (by simp [Segment.packet])
      · exact hrest segment hm hnone
    | malformed body clean rejected =>
      have hpacket : (Segment.malformed body clean rejected :: segments).filterMap Segment.packet =
          segments.filterMap Segment.packet := rfl
      have hbody : (Segment.malformed body clean rejected).body = body := rfl
      rw [hpacket,List.map_cons,List.sum_cons,hbody]
      refine ⟨Nat.le_trans hle (Nat.le_add_left _ _),fun h => ?_⟩
      have hzero : body.length = 0 := by omega
      have hrest := heq (by omega)
      intro segment hm hnone
      rcases List.mem_cons.mp hm with rfl | hm
      · exact List.eq_nil_of_length_eq_zero hzero
      · exact hrest segment hm hnone

theorem processSlip_segment {segment : Segment} (h : segment.packet = none → segment.Empty) :
    processSlip [] segment.bytes = ([],segment.packet.toList) := by
  cases segment with
  | encoded frame =>
    rw [Segment.bytes_eq,processSlip,Delimited.run_segment]
    · simp [Segment.body,Segment.packet,closeFrame,QByteArray.isNull,buildFrame]
    · exact end_not_mem_escape _
    · exact escape_buildFrame_ne_nil _
  | malformed body clean rejected =>
    have hbody : body = [] := h rfl
    subst hbody
    rfl

theorem processSlip_segments {segments : List Segment}
    (h : ∀ segment ∈ segments, segment.packet = none → segment.Empty) :
    processSlip [] (segments.flatMap Segment.bytes) =
      ([],segments.filterMap Segment.packet) := by
  induction segments with
  | nil => rfl
  | cons segment segments ih =>
    obtain ⟨hsegment,hrest⟩ := List.forall_mem_cons.mp h
    rw [List.flatMap_cons,processSlip_append,processSlip_segment hsegment,ih hrest,
      List.filterMap_cons]
    cases segment.packet <;> rfl

theorem prefix_segments {segments : List Segment} {p : QByteArray}
    (h : p <+: segments.flatMap Segment.bytes) :
    ∃ before after q, segments = before ++ after ∧
      p = before.flatMap Segment.bytes ++ q ∧ ProtocolByteEnd ∉ q := by
  induction segments generalizing p with
  | nil => exact ⟨[],[],[],rfl,by simpa using h,by simp⟩
  | cons segment segments ih =>
    rw [List.flatMap_cons,segment.bytes_eq] at h
    rcases List.prefix_or_prefix_of_prefix h (List.prefix_append _ _) with hp | ⟨q,rfl⟩
    · rcases List.prefix_concat_iff.mp hp with rfl | hp
      · exact ⟨[segment],segments,[],rfl,by simp [segment.bytes_eq],by simp⟩
      · exact ⟨[],segment :: segments,p,rfl,rfl,fun hm => segment.end_not_mem_body (hp.subset hm)⟩
    · rw [List.prefix_append_right_inj] at h
      obtain ⟨before,after,q',rfl,rfl,hq⟩ := ih h
      exact ⟨segment :: before,after,q',rfl,by simp [segment.bytes_eq],hq⟩

theorem rtakeWhile_behind {lead q : QByteArray} (hq : ProtocolByteEnd ∉ q) :
    (lead ++ [ProtocolByteEnd] ++ q).rtakeWhile (fun byte => byte ≠ ProtocolByteEnd) = q := by
  induction q using List.reverseRecOn with
  | nil =>
    rw [List.append_nil]
    exact List.rtakeWhile_concat_neg _ _ _ (by simp)
  | append_singleton q byte ih =>
    rw [List.mem_append,not_or] at hq
    have hbyte : decide (byte ≠ ProtocolByteEnd) = true :=
      decide_eq_true fun e => hq.2 (by simp [e])
    rw [← List.append_assoc,List.rtakeWhile_concat_pos (fun byte => byte ≠ ProtocolByteEnd) _ byte
      hbyte,ih hq.1]

theorem rtakeWhile_segments (before : List Segment) {q : QByteArray} (hq : ProtocolByteEnd ∉ q) :
    (before.flatMap Segment.bytes ++ q).rtakeWhile (fun byte => byte ≠ ProtocolByteEnd) = q := by
  rcases List.eq_nil_or_concat before with rfl | ⟨init,last,rfl⟩
  · exact List.rtakeWhile_eq_self_iff.mpr fun byte hm => decide_eq_true fun e => hq (e ▸ hm)
  · rw [List.concat_eq_append,List.flatMap_append,List.flatMap_singleton,last.bytes_eq,
      ← List.append_assoc]
    exact rtakeWhile_behind hq

end Stream

/-- A slip connection recovers from what it rejects exactly when every rejected segment is empty. -/
theorem recovers_iff (hslip : c.m_slipEnabled = true) (hbuf : c.m_dataBuffer = [])
    {segments : List Segment} {chunks : List QByteArray}
    (hs : chunks.flatten = segments.flatMap Segment.bytes) :
    Recovers c segments chunks ↔
      ∀ segment ∈ segments, segment.packet = none → segment.Empty := by
  have hrun (pre : List QByteArray) : c.packets pre =
      ({ c with m_dataBuffer := (processSlip [] pre.flatten).1 },(processSlip [] pre.flatten).2) := by
    rw [packets_slip hslip,hbuf]
  constructor
  · intro h
    have hpackets := h.packets
    have hbuffer := h.buffer chunks (List.prefix_refl _)
    have hend := rtakeWhile_segments segments (q := []) (by simp)
    rw [hrun,hs] at hpackets hbuffer
    rw [List.append_nil] at hend
    have hconserves := processSlip_conserves [] (segments.flatMap Segment.bytes)
    rw [hpackets,show (processSlip [] (segments.flatMap Segment.bytes)).1 = [] from
      hbuffer.trans hend,List.append_nil,List.nil_append] at hconserves
    refine (length_packets segments).2 ?_
    rw [hconserves,length_stream]
  · intro h
    refine ⟨?_,fun pre hpre => ?_⟩
    · rw [hrun,hs,processSlip_segments h]
    · obtain ⟨rest,rfl⟩ := hpre
      rw [List.flatten_append] at hs
      obtain ⟨before,after,q,rfl,hp,hq⟩ := prefix_segments ⟨_,hs⟩
      have hbefore := processSlip_segments fun segment hm =>
        h segment (List.mem_append_left _ hm)
      have hq' : processSlip [] q = (q,[]) := Delimited.run_body _ _ q hq [] []
      rw [hrun,hp,rtakeWhile_segments before hq,processSlip_append,hbefore,hq']

section Run

def slipClient : TunnelProxyClient := (new "" 0 0).setSlipEnabled true

def unknownEscape : Segment := .malformed [ProtocolByteEsc,0x00] (by decide) (by decide)

theorem recovers_iff_repeated_end :
    Recovers slipClient [.encoded ⟨1,[0x41]⟩,.malformed [] (by decide) (by decide)]
        [serializeData (buildFrame ⟨1,[0x41]⟩),[ProtocolByteEnd]] ↔
      ∀ segment ∈ [Segment.encoded ⟨1,[0x41]⟩,.malformed [] (by decide) (by decide)],
        segment.packet = none → segment.Empty :=
  recovers_iff rfl rfl rfl

theorem rejected_kept :
    (slipClient.packets [unknownEscape.bytes,serializeData (buildFrame ⟨1,[0x41]⟩)]).2 = [] ∧
    ¬Recovers slipClient [unknownEscape,.encoded ⟨1,[0x41]⟩]
      [unknownEscape.bytes,serializeData (buildFrame ⟨1,[0x41]⟩)] := by
  refine ⟨by decide,fun h => ?_⟩
  exact absurd h.packets (by decide)

end Run

end TunnelProxyClient

end RemoteProxy
