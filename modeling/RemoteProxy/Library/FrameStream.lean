import RemoteProxy.Common.FrameCodec
import RemoteProxy.Library.TunnelProxySocketServer

namespace RemoteProxy.TunnelProxySocketServer

open SlipDataProcessor

variable {env : Qt} {s : TunnelProxySocketServer}

def collect (m_dataBuffer : QByteArray) (frames : List Frame) : QByteArray × List Frame :=
  let frameData := deserializeData m_dataBuffer
  ([],if QByteArray.isNull frameData then frames else frames ++ [parseFrame frameData])

def reassemble (m_dataBuffer data : QByteArray) : QByteArray × List Frame :=
  Delimited.run ProtocolByteEnd collect (m_dataBuffer,[]) data

def encoded (frames : List Frame) : QByteArray :=
  frames.flatMap fun frame => serializeData (buildFrame frame)

def receive (env : Qt) (s : TunnelProxySocketServer) (chunks : List QByteArray) :
    TunnelProxySocketServer :=
  chunks.foldl (onConnectionDataAvailable env) s

theorem collect_accumulate (buf : QByteArray) (frames : List Frame) :
    collect buf frames = ((collect buf []).1,frames ++ (collect buf []).2) := by
  simp only [collect]
  split
  · simp
  · simp

theorem closeFrame_collect (buf : QByteArray) (s : TunnelProxySocketServer) :
    closeFrame env buf s = ((collect buf []).1,(collect buf []).2.foldl (processFrame env) s) := by
  simp only [closeFrame,collect]
  split
  · rfl
  · rfl

theorem slipData_eq (s : TunnelProxySocketServer) (data : QByteArray) :
    s.slipData env data =
      { (reassemble s.m_dataBuffer data).2.foldl (processFrame env) s with
        m_dataBuffer := (reassemble s.m_dataBuffer data).1 } := by
  simp only [slipData,reassemble]
  rw [Delimited.run_fold ProtocolByteEnd collect_accumulate closeFrame_collect]

theorem reassemble_append (buf data data' : QByteArray) :
    reassemble buf (data ++ data') =
      ((reassemble (reassemble buf data).1 data').1,
        (reassemble buf data).2 ++ (reassemble (reassemble buf data).1 data').2) := by
  rw [reassemble,Delimited.run_append]
  exact Delimited.run_accumulate ProtocolByteEnd collect_accumulate _ _ _

theorem collect_escape (frame : Frame) (frames : List Frame) :
    collect (escape (buildFrame frame)) frames = ([],frames ++ [frame]) := by
  simp [collect,QByteArray.isNull,buildFrame_ne_nil]

theorem reassemble_encoded (frames : List Frame) : reassemble [] (encoded frames) = ([],frames) := by
  have hstream : encoded frames =
      Delimited.terminate ProtocolByteEnd (frames.map fun frame => escape (buildFrame frame)) := by
    simp only [encoded,Delimited.terminate,List.flatMap_map]
    rfl
  rw [reassemble,hstream,Delimited.run_terminate]
  · clear hstream
    rw [List.foldl_map]
    simp only [collect_escape]
    have hfold : ∀ before : List Frame,
        frames.foldl (fun before frame => before ++ [frame]) before = before ++ frames := by
      induction frames with
      | nil => simp
      | cons frame frames ih =>
        intro before
        rw [List.foldl_cons,ih]
        simp
    exact congrArg _ (hfold [])
  · intro b hb
    obtain ⟨frame,-,rfl⟩ := List.mem_map.mp hb
    exact ⟨escape_buildFrame_ne_nil _,end_not_mem_escape _⟩
  · intro b hb packets
    rfl

section Suffix

theorem reassemble_body {body : QByteArray} (h : ProtocolByteEnd ∉ body) (buf : QByteArray) :
    reassemble buf body = (buf ++ body,[]) := Delimited.run_body _ _ body h buf []

theorem reassemble_end (buf : QByteArray) :
    reassemble buf [ProtocolByteEnd] = if buf = [] then ([],[]) else ([],(collect buf []).2) := by
  rw [reassemble,Delimited.run_stop]
  by_cases h : buf = []
  · rw [if_pos h,if_pos h,h]
  · rw [if_neg h,if_neg h]
    rfl

theorem reassemble_segment {body : QByteArray} (h : ProtocolByteEnd ∉ body) (hne : body ≠ [])
    (rest : QByteArray) :
    (reassemble [] (body ++ ProtocolByteEnd :: rest)).2 =
      (collect body []).2 ++ (reassemble [] rest).2 := by
  rw [List.append_cons,reassemble_append,reassemble_append,reassemble_body h,List.nil_append,
    reassemble_end,if_neg hne,List.nil_append]

theorem length_reassemble (buf data : QByteArray) :
    (reassemble buf data).2.length ≤ data.count ProtocolByteEnd := by
  induction data using List.reverseRecOn with
  | nil => exact Nat.zero_le _
  | append_singleton data x ih =>
    rw [reassemble_append,List.length_append,List.count_append]
    have hone : (reassemble (reassemble buf data).1 [x]).2.length ≤
        [x].count ProtocolByteEnd := by
      by_cases hx : x = ProtocolByteEnd
      · rw [hx,reassemble_end,List.count_singleton_self]
        split
        · exact Nat.zero_le _
        · simp only [collect]
          split <;> simp
      · rw [reassemble_body (by simpa using fun e => hx e.symm)]
        exact Nat.zero_le _
    exact Nat.add_le_add ih hone

theorem count_encoded (frames : List Frame) :
    (encoded frames).count ProtocolByteEnd = frames.length := count_encode frames

theorem encoded_cons (frame : Frame) (frames : List Frame) :
    encoded (frame :: frames) =
      escape (buildFrame frame) ++ ProtocolByteEnd :: encoded frames :=
  encode_cons frame frames

theorem collect_suffix_ne {frame : Frame} (hframe : frame ≠ ⟨0,[]⟩) {lead rest : QByteArray}
    (h : escape (buildFrame frame) = lead ++ rest) (hne : lead ≠ []) :
    (collect rest []).2 ≠ [frame] := by
  intro hc
  rw [collect,deserializeData_eq] at hc
  cases hu : Stuffing.unstuff alphabet rest with
  | none => simp [hu,QByteArray.isNull] at hc
  | some body =>
    simp only [hu,Option.getD_some] at hc
    split at hc
    · simp at hc
    · simp only [List.nil_append,List.cons.injEq,and_true] at hc
      by_cases hlen : 2 ≤ body.length
      · have hbody := buildFrame_parseFrame hlen
        rw [hc] at hbody
        exact Stuffing.unstuff_suffix_ne alphabet h hne (hu.trans (congrArg some hbody.symm))
      · rcases body with _ | ⟨x,_ | ⟨y,body⟩⟩
        · exact hframe hc.symm
        · exact hframe hc.symm
        · simp at hlen

theorem reassemble_suffix_ne {frames : List Frame} (hframes : ∀ frame ∈ frames, frame ≠ ⟨0,[]⟩)
    {lead rest : QByteArray} (h : encoded frames = lead ++ rest) (hne : lead ≠ []) :
    (reassemble [] rest).2 ≠ frames := by
  intro hr
  have hle := length_reassemble [] rest
  have hcount := congrArg (List.count ProtocolByteEnd) h
  rw [count_encoded,List.count_append] at hcount
  rw [hr] at hle
  have hlead : ProtocolByteEnd ∉ lead := List.count_eq_zero.mp (by omega)
  cases frames with
  | nil => exact hne (List.append_eq_nil_iff.mp h.symm).1
  | cons frame frames =>
    rw [encoded_cons] at h
    have hskip : rest ≠ ProtocolByteEnd :: encoded frames := by
      rintro rfl
      rw [← List.singleton_append,reassemble_append,reassemble_end,if_pos rfl,
        reassemble_encoded] at hr
      exact absurd (congrArg List.length hr) (by simp)
    rcases List.append_eq_append_iff.mp h with ⟨more,hl,hrest⟩ | ⟨body,hbody,hrest⟩
    · cases more with
      | nil => exact hskip hrest.symm
      | cons x more =>
        rw [List.cons_append,List.cons.injEq] at hrest
        exact hlead (by rw [hl,← hrest.1]; simp)
    · by_cases hempty : body = []
      · exact hskip (by rw [hrest,hempty,List.nil_append])
      · have hclean : ProtocolByteEnd ∉ body := fun hm =>
          end_not_mem_escape (buildFrame frame) (hbody ▸ List.mem_append_right lead hm)
        rw [hrest,reassemble_segment hclean hempty,reassemble_encoded] at hr
        have hhead : (collect body []).2 ++ frames = [frame] ++ frames := hr
        exact collect_suffix_ne (hframes frame (List.mem_cons_self ..)) hbody hne
          (List.append_cancel_right hhead)

theorem reassemble_newline_ne {frames : List Frame} (hne : frames ≠ []) :
    (reassemble [] (JsonPackets.newline :: encoded frames)).2 ≠ frames := by
  cases frames with
  | nil => exact absurd rfl hne
  | cons frame frames =>
    have hclean : ProtocolByteEnd ∉ JsonPackets.newline :: escape (buildFrame frame) :=
      List.not_mem_cons_of_ne_of_not_mem (by decide) (end_not_mem_escape _)
    have hbody : deserializeData (JsonPackets.newline :: escape (buildFrame frame)) =
        JsonPackets.newline :: buildFrame frame := by
      have hstuff : escape [JsonPackets.newline] = [JsonPackets.newline] := by decide
      have happend : JsonPackets.newline :: escape (buildFrame frame) =
          escape (JsonPackets.newline :: buildFrame frame) := by
        rw [← List.singleton_append,← hstuff]
        exact (Stuffing.stuff_append alphabet _ _).symm
      rw [happend,deserializeData_escape]
    rw [encoded_cons,← List.cons_append,reassemble_segment hclean (List.cons_ne_nil _ _),
      reassemble_encoded,collect,hbody]
    intro h
    simp only [QByteArray.isNull,List.isEmpty_cons,Bool.false_eq_true,if_false,List.nil_append,
      List.singleton_append,List.cons.injEq,and_true] at h
    have hdata := congrArg (fun f => f.data.length) h
    simp [buildFrame,parseFrame] at hdata

end Suffix

section Traffic

def Output.isTraffic : Output → Bool
  | .jsonReceived _ => true
  | .frameReceived _ => true
  | .dataReceived _ _ => true
  | _ => false

def traffic (s : TunnelProxySocketServer) : List Output := s.output.filter Output.isTraffic

theorem traffic_emit (s : TunnelProxySocketServer) (o : Output) :
    (s.emit o).traffic = s.traffic ++ if o.isTraffic then [o] else [] := by
  rw [traffic,emit,List.filter_append,traffic]
  cases h : o.isTraffic <;> simp [h]

theorem traffic_emit_silent (s : TunnelProxySocketServer) {o : Output}
    (h : o.isTraffic = false) : (s.emit o).traffic = s.traffic := by
  simp [traffic_emit,h]

theorem traffic_setState (s : TunnelProxySocketServer) (state : State) :
    (s.setState state).traffic = s.traffic := by
  have hrunning (t : TunnelProxySocketServer) (running : Bool) :
      (t.setRunning running).traffic = t.traffic := by
    rw [setRunning]
    split
    · rfl
    · exact traffic_emit_silent _ rfl
  have hreconnect (t : TunnelProxySocketServer) : t.reconnectIfDown.traffic = t.traffic := by
    rw [reconnectIfDown]
    split <;> rfl
  rw [setState]
  split
  · rfl
  · rw [hreconnect,hrunning,traffic_emit_silent _ rfl]
    rfl

theorem traffic_refuse (s : TunnelProxySocketServer) : s.refuse.traffic = s.traffic := by
  rw [refuse,setServerError]
  split
  · exact traffic_emit_silent _ rfl
  · rw [traffic_emit_silent _ rfl]
    exact traffic_emit_silent _ rfl

theorem traffic_slot (signal : JsonRpcClient.Signal) (s : TunnelProxySocketServer) :
    (slot env signal s).traffic = s.traffic := by
  cases signal with
  | finished reply =>
    simp only [slot]
    cases s.finishedSlot reply with
    | onHelloFinished =>
      simp only [onHelloFinished]
      split
      · exact traffic_refuse s
      · exact (traffic_emit_silent _ rfl).trans (traffic_setState _ _)
    | onServerRegistrationFinished =>
      simp only [onServerRegistrationFinished]
      split
      · exact traffic_refuse s
      · split
        · exact traffic_refuse s
        · exact traffic_setState _ _
    | disconnectFinished => rfl
    | pingFinished => rfl
  | tunnelEstablished => rfl
  | tunnelProxyClientConnected => exact traffic_emit_silent _ rfl
  | tunnelProxyClientDisonnected socketAddress =>
    simp only [slot,onTunnelProxyClientDisconnected]
    split
    · rfl
    · exact traffic_emit_silent _ rfl

theorem traffic_jsonData (s : TunnelProxySocketServer) (data : QByteArray) :
    (s.jsonData env data).traffic = s.traffic := by
  refine JsonRpcClient.processData_preserves (P := fun t => traffic t = s.traffic)
    ?_ (fun t b h => h) rfl data
  intro packet t h
  simp only [JsonRpcClient.handle]
  split
  · exact h
  · exact (traffic_slot _ _).trans h

end Traffic

end RemoteProxy.TunnelProxySocketServer
