import RemoteProxy.Library.ServerSession

namespace RemoteProxy.TunnelProxySocketServer

open JsonPackets JsonRpcClient Handshake SlipDataProcessor

variable {env : Qt} {s t : TunnelProxySocketServer}

section Frames

def Output.frame : Output → Option Frame
  | .frameReceived frame => some frame
  | _ => none

def framesReceived (s : TunnelProxySocketServer) : List Frame := s.output.filterMap Output.frame

theorem framesReceived_traffic (s : TunnelProxySocketServer) :
    s.framesReceived = s.traffic.filterMap Output.frame := by
  rw [traffic,List.filterMap_filter,framesReceived]
  congr 1
  funext o
  cases o <;> rfl

theorem framesReceived_congr (h : t.traffic = s.traffic) : t.framesReceived = s.framesReceived := by
  rw [framesReceived_traffic,framesReceived_traffic,h]

theorem framesReceived_emit (s : TunnelProxySocketServer) (o : Output) :
    (s.emit o).framesReceived = s.framesReceived ++ o.frame.toList := by
  rw [framesReceived,emit,List.filterMap_append]
  cases o <;> rfl

theorem framesReceived_processFrame (s : TunnelProxySocketServer) (frame : Frame) :
    (s.processFrame env frame).framesReceived = s.framesReceived ++ [frame] := by
  have hlogged : (s.emit (.frameReceived frame)).framesReceived = s.framesReceived ++ [frame] :=
    framesReceived_emit s _
  rw [processFrame]
  split
  · rw [framesReceived_congr (traffic_jsonData _ _),framesReceived_emit,hlogged]
    exact List.append_nil _
  · split
    · exact hlogged
    · rw [framesReceived_emit,hlogged]
      exact List.append_nil _

variable (env) in
theorem framesReceived_frames (frames : List Frame) (s : TunnelProxySocketServer) :
    (frames.foldl (processFrame env) s).framesReceived = s.framesReceived ++ frames := by
  induction frames generalizing s with
  | nil => exact (List.append_nil _).symm
  | cons frame frames ih =>
    rw [List.foldl_cons,ih,framesReceived_processFrame,List.append_assoc,List.singleton_append]

theorem traffic_early {pre : List QByteArray} (hne : pre ≠ [])
    (hfirst : ∀ part, part <+: pre → part ≠ pre →
      (receiver env).ready ((receiver env).receive s part) = false) :
    ((receiver env).receive s pre).traffic = s.traffic ∧
      ((receiver env).receive s pre).m_dataBuffer = [] := by
  induction pre generalizing s with
  | nil => exact absurd rfl hne
  | cons chunk pre ih =>
    have hready : (receiver env).ready s = false := hfirst [] List.nil_prefix (by simp)
    have hstep := (receiver env).step_json hready chunk
    have htraffic : ((receiver env).step s chunk).traffic = s.traffic := by
      rw [hstep]
      exact traffic_jsonData _ chunk
    have hbuf : ((receiver env).step s chunk).m_dataBuffer = [] := by rw [hstep]; rfl
    by_cases hpre : pre = []
    · rw [hpre]
      exact ⟨htraffic,hbuf⟩
    · have hrest := ih (s := (receiver env).step s chunk) hpre fun part hp hn =>
        hfirst (chunk :: part) ((List.prefix_cons_inj chunk).mpr hp) (by simpa using hn)
      exact ⟨hrest.1.trans htraffic,hrest.2⟩

/-- What the server reports of a frame: that it has come, and its data, as JSON or as what a socket
that is there has received. -/
def reports (s : TunnelProxySocketServer) (frame : Frame) : List Output :=
  .frameReceived frame ::
    if frame.socketAddress = 0x0000 then [.jsonReceived frame.data]
    else (s.m_tunnelProxySockets.value frame.socketAddress).toList.map (.dataReceived · frame.data)

def reported (env : Qt) : TunnelProxySocketServer → List Frame → List Output
  | _, [] => []
  | s, frame :: frames => s.reports frame ++ reported env (s.processFrame env frame) frames

theorem traffic_processFrame (s : TunnelProxySocketServer) (frame : Frame) :
    (s.processFrame env frame).traffic = s.traffic ++ s.reports frame := by
  have hlogged : (s.emit (.frameReceived frame)).traffic = s.traffic ++ [.frameReceived frame] :=
    traffic_emit s _
  have hsockets : (s.emit (.frameReceived frame)).m_tunnelProxySockets =
      s.m_tunnelProxySockets := rfl
  rw [processFrame,reports,hsockets]
  split
  · rw [traffic_jsonData,traffic_emit,hlogged,List.append_assoc]
    rfl
  · cases s.m_tunnelProxySockets.value frame.socketAddress with
    | none => exact hlogged
    | some tunnelProxySocket =>
      rw [traffic_emit,hlogged,List.append_assoc]
      rfl

theorem traffic_frames (frames : List Frame) (s : TunnelProxySocketServer) :
    (frames.foldl (processFrame env) s).traffic = s.traffic ++ reported env s frames := by
  induction frames generalizing s with
  | nil => exact (List.append_nil _).symm
  | cons frame frames ih =>
    rw [List.foldl_cons,ih,traffic_processFrame,reported,List.append_assoc]

theorem frames_reported (frames : List Frame) (s : TunnelProxySocketServer) :
    (reported env s frames).filterMap Output.frame = frames := by
  have hcount := framesReceived_frames env frames s
  rw [framesReceived_traffic,framesReceived_traffic,traffic_frames,List.filterMap_append] at hcount
  exact List.append_cancel_left hcount

def aside (m_dataBuffer : QByteArray) (m_keepAliveTimer : QTimer) (s : TunnelProxySocketServer) :
    TunnelProxySocketServer :=
  { s with m_dataBuffer := m_dataBuffer, m_keepAliveTimer := m_keepAliveTimer }

variable {m_dataBuffer : QByteArray} {m_keepAliveTimer : QTimer}

theorem running_unawaited (hs : Sound s) (hrun : s.m_state = .StateRunning) (packet : QByteArray)
    (reply : Nat) : (processDataPacket env s.m_jsonClient packet).2 ≠ some (.finished reply) := by
  rcases processDataPacket_cases env s.m_jsonClient packet with
    h | ⟨jsonDoc,-,⟨other,hother,-⟩ | ⟨-,h⟩⟩
  · rw [h]
    simp
  · rw [hs.onlyZero.awaited hother,hs.running hrun] at hother
    cases hother
  · rw [h]
    exact notificationSignal_ne_finished _ _

theorem handle_aside (hs : Sound s) (hrun : s.m_state = .StateRunning) (packet : QByteArray) :
    handle env (owner env) packet (aside m_dataBuffer m_keepAliveTimer s) =
      aside m_dataBuffer m_keepAliveTimer (handle env (owner env) packet s) := by
  have hclient : (owner env).client (aside m_dataBuffer m_keepAliveTimer s) =
      (owner env).client s := rfl
  simp only [handle,hclient]
  cases hsignal : (processDataPacket env ((owner env).client s) packet).2 with
  | none => rfl
  | some signal =>
    cases signal with
    | finished reply => exact absurd hsignal (running_unawaited hs hrun packet reply)
    | tunnelEstablished => rfl
    | tunnelProxyClientConnected => rfl
    | tunnelProxyClientDisonnected socketAddress =>
      simp only [owner,slot,onTunnelProxyClientDisconnected]
      have hsockets : (aside m_dataBuffer m_keepAliveTimer s).m_tunnelProxySockets =
          s.m_tunnelProxySockets := rfl
      simp only [hsockets]
      split
      · rfl
      · rfl

theorem processFrame_aside (hs : Sound s) (hrun : s.m_state = .StateRunning) (frame : Frame) :
    (aside m_dataBuffer m_keepAliveTimer s).processFrame env frame =
      aside m_dataBuffer m_keepAliveTimer (s.processFrame env frame) := by
  have hpackets : ∀ (packets : List QByteArray) (t : TunnelProxySocketServer), Sound t →
      t.m_state = .StateRunning →
      packets.foldl (fun s packet => handle env (owner env) packet s)
          (aside m_dataBuffer m_keepAliveTimer t) =
        aside m_dataBuffer m_keepAliveTimer
          (packets.foldl (fun s packet => handle env (owner env) packet s) t) := by
    intro packets
    induction packets with
    | nil => exact fun t _ _ => rfl
    | cons packet packets ih =>
      intro t ht hrunning
      rw [List.foldl_cons,List.foldl_cons,handle_aside ht hrunning]
      exact ih _ (sound_handle ht packet) (running_handle ht hrunning packet)
  simp only [processFrame]
  split
  · have hjson := hpackets
      (JsonPackets.processData JsonPackets.record s.m_jsonClient.m_dataBuffer frame.data []).2
      ((s.emit (.frameReceived frame)).emit (.jsonReceived frame.data))
      ⟨hs.onlyZero,hs.running⟩ hrun
    rw [jsonData,jsonData,JsonRpcClient.processData_eq,JsonRpcClient.processData_eq]
    exact congrArg (fun t : TunnelProxySocketServer => (owner env).setClient t
      { (owner env).client t with m_dataBuffer := (JsonPackets.processData JsonPackets.record
        s.m_jsonClient.m_dataBuffer frame.data []).1 }) hjson
  · have hsockets : ((aside m_dataBuffer m_keepAliveTimer s).emit
        (.frameReceived frame)).m_tunnelProxySockets =
          (s.emit (.frameReceived frame)).m_tunnelProxySockets := rfl
    simp only [hsockets]
    split
    · rfl
    · rfl

variable (env) in
theorem processFrame_running (hs : Sound s) (hrun : s.m_state = .StateRunning) (frame : Frame) :
    Sound (s.processFrame env frame) ∧ (s.processFrame env frame).m_state = .StateRunning := by
  refine processFrame_preserves (P := fun s => Sound s ∧ s.m_state = .StateRunning)
    (fun s o h => ?_) (fun s p h => ?_) (fun s b h => ?_) ⟨hs,hrun⟩ frame
  · exact ⟨⟨h.1.onlyZero,h.1.running⟩,h.2⟩
  · exact ⟨sound_handle h.1 p,running_handle h.1 h.2 p⟩
  · exact ⟨⟨⟨h.1.onlyZero.commandId,h.1.onlyZero.others⟩,h.1.running⟩,h.2⟩

variable (env) in
theorem frames_running (frames : List Frame) (hs : Sound s) (hrun : s.m_state = .StateRunning) :
    Sound (frames.foldl (processFrame env) s) ∧
      (frames.foldl (processFrame env) s).m_state = .StateRunning := by
  induction frames generalizing s with
  | nil => exact ⟨hs,hrun⟩
  | cons frame frames ih =>
    obtain ⟨hsound,hrunning⟩ := processFrame_running env hs hrun frame
    exact ih hsound hrunning

theorem frames_aside (frames : List Frame) (hs : Sound s) (hrun : s.m_state = .StateRunning) :
    frames.foldl (processFrame env) (aside m_dataBuffer m_keepAliveTimer s) =
      aside m_dataBuffer m_keepAliveTimer (frames.foldl (processFrame env) s) := by
  induction frames generalizing s with
  | nil => rfl
  | cons frame frames ih =>
    obtain ⟨hsound,hrunning⟩ := processFrame_running env hs hrun frame
    rw [List.foldl_cons,List.foldl_cons,processFrame_aside hs hrun]
    exact ih hsound hrunning

variable (env) in
theorem receive_running (hs : Sound s) (hrun : s.m_state = .StateRunning)
    (chunks : List QByteArray) : ∃ m_keepAliveTimer, (receiver env).receive s chunks =
      aside (reassemble s.m_dataBuffer chunks.flatten).1 m_keepAliveTimer
        ((reassemble s.m_dataBuffer chunks.flatten).2.foldl (processFrame env) s) := by
  induction chunks generalizing s with
  | nil =>
    refine ⟨s.m_keepAliveTimer,?_⟩
    rw [List.flatten_nil,reassemble_body (by simp),List.append_nil]
    rfl
  | cons chunk chunks ih =>
    have hready : (receiver env).ready s = true := decide_eq_true hrun
    have hstep := (receiver env).step_direct hready chunk
    have hdirect : (receiver env).direct s chunk = (aside s.m_dataBuffer
        (s.m_keepAliveTimer.start s.now) s).slipData env chunk := rfl
    have hbuffer : (aside s.m_dataBuffer (s.m_keepAliveTimer.start s.now) s).m_dataBuffer =
        s.m_dataBuffer := rfl
    rw [hdirect,slipData_eq,hbuffer,frames_aside _ hs hrun] at hstep
    obtain ⟨hsound,hrunning⟩ := frames_running env (reassemble s.m_dataBuffer chunk).2 hs hrun
    generalize ht : (reassemble s.m_dataBuffer chunk).2.foldl (processFrame env) s = t at *
    have hstep' : (receiver env).step s chunk = aside (reassemble s.m_dataBuffer chunk).1
        (s.m_keepAliveTimer.start s.now) t := hstep
    obtain ⟨m_keepAliveTimer,hrest⟩ := ih (s := (receiver env).step s chunk)
      (hstep' ▸ ⟨hsound.onlyZero,hsound.running⟩) (hstep' ▸ hrunning)
    refine ⟨m_keepAliveTimer,?_⟩
    change (receiver env).receive ((receiver env).step s chunk) chunks = _
    rw [hrest,hstep',frames_aside _ hsound hrunning,List.flatten_cons,reassemble_append,
      List.foldl_append,ht]
    rfl

theorem framesReceived_running (hs : Sound s) (hrun : s.m_state = .StateRunning)
    (chunks : List QByteArray) :
    ((receiver env).receive s chunks).framesReceived =
      s.framesReceived ++ (reassemble s.m_dataBuffer chunks.flatten).2 := by
  obtain ⟨m_keepAliveTimer,hreceive⟩ := receive_running env hs hrun chunks
  rw [hreceive]
  exact framesReceived_frames env _ s

def separately (frames : List Frame) : List QByteArray := frames.map fun frame => encoded [frame]

theorem flatten_separately (frames : List Frame) : (separately frames).flatten = encoded frames := by
  induction frames with
  | nil => rfl
  | cons frame frames ih =>
    have hrest : (separately (frame :: frames)).flatten =
        encoded [frame] ++ (separately frames).flatten := rfl
    rw [hrest,ih]
    simp [encoded]

end Frames

/-- Behind `pre` the server runs, and from there it handles these frames, once each and in this
order: it reports them and their data and comes to be as if each had come in a chunk of its own. -/
structure SwitchedAt (env : Qt) (s : TunnelProxySocketServer) (pre post : List QByteArray)
    (frames : List Frame) : Prop where
  running : (receive env s pre).m_state = .StateRunning
  first : ∀ part, part <+: pre → part ≠ pre → (receive env s part).m_state ≠ .StateRunning
  stays : (receive env s (pre ++ post)).m_state = .StateRunning
  reported : (receive env s (pre ++ post)).traffic =
    s.traffic ++ reported env (receive env s pre) frames
  separate : ∃ m_dataBuffer m_keepAliveTimer, receive env s (pre ++ post) =
    aside m_dataBuffer m_keepAliveTimer (receive env (receive env s pre) (separately frames))

/-- The server comes to run and has handled exactly these frames, in this order. -/
def Switched (env : Qt) (s : TunnelProxySocketServer) (chunks : List QByteArray)
    (frames : List Frame) : Prop :=
  ∃ pre post, chunks = pre ++ post ∧ SwitchedAt env s pre post frames

theorem Switched.running {chunks : List QByteArray} {frames : List Frame}
    (h : Switched env s chunks frames) : (receive env s chunks).m_state = .StateRunning := by
  obtain ⟨pre,post,rfl,h⟩ := h
  exact h.stays

theorem Switched.framesReceived {chunks : List QByteArray} {frames : List Frame}
    (h : Switched env s chunks frames) :
    (receive env s chunks).framesReceived = s.framesReceived ++ frames := by
  obtain ⟨pre,post,rfl,h⟩ := h
  rw [framesReceived_traffic,h.reported,List.filterMap_append,frames_reported,
    ← framesReceived_traffic]

theorem receive_eq (s : TunnelProxySocketServer) (chunks : List QByteArray) :
    receive env s chunks = (receiver env).receive s chunks := by
  rw [receive,Receiver.receive]
  congr 1
  funext s chunk
  exact onConnectionDataAvailable_eq s chunk

section Switch

variable {hello register : Response env}

theorem switched_iff_rest (law : Lawful (receiver env) hello.object register.object Greeting
      (Awaiting .onServerRegistrationFinished) Sound) (hs : Greeting s) {pre post : List QByteArray}
    (hready : (receiver env).ready ((receiver env).receive s pre) = true)
    (hfirst : ∀ part, part <+: pre → part ≠ pre →
      (receiver env).ready ((receiver env).receive s part) = false) (frames : List Frame) :
    Switched env s (pre ++ post) frames ↔ (reassemble [] post.flatten).2 = frames := by
  have hsound := sound_receive law hs.awaiting.sound pre
  have hpre : pre ≠ [] := by
    rintro rfl
    have hnot : (receiver env).ready ((receiver env).receive s []) = false := (law.greeting s hs).1
    rw [hnot] at hready
    exact absurd hready (by decide)
  obtain ⟨htraffic,hbuf⟩ := traffic_early hpre hfirst
  have hrunning : ((receiver env).receive s pre).m_state = .StateRunning := of_decide_eq_true hready
  constructor
  · intro h
    have hframes := h.framesReceived
    rw [receive_eq,Receiver.receive_append,framesReceived_running hsound hrunning,
      framesReceived_congr htraffic,hbuf] at hframes
    exact List.append_cancel_left hframes
  · rintro rfl
    obtain ⟨m_keepAliveTimer,hwhole⟩ := receive_running env hsound hrunning post
    obtain ⟨restarted,hseparate⟩ := receive_running env hsound hrunning
      (separately (reassemble [] post.flatten).2)
    rw [hbuf] at hwhole hseparate
    rw [flatten_separately,reassemble_encoded] at hseparate
    refine ⟨pre,post,rfl,?_,?_,?_,?_,(reassemble [] post.flatten).1,m_keepAliveTimer,?_⟩
    · rw [receive_eq]
      exact hrunning
    · intro part hp hne
      rw [receive_eq]
      exact of_decide_eq_false (hfirst part hp hne)
    · rw [receive_eq,Receiver.receive_append]
      exact of_decide_eq_true (ready_receive law hsound hready post)
    · rw [receive_eq,receive_eq,Receiver.receive_append,hwhole,← htraffic]
      exact traffic_frames _ _
    · rw [receive_eq,receive_eq,receive_eq,Receiver.receive_append,hwhole,hseparate]
      rfl

theorem switched_frames_iff (law : Lawful (receiver env) hello.object register.object Greeting
      (Awaiting .onServerRegistrationFinished) Sound) (hs : Greeting s)
    (hbuf : s.m_jsonClient.m_dataBuffer = []) {frames : List Frame} (hne : frames ≠ [])
    (hframes : ∀ frame ∈ frames, frame ≠ ⟨0,[]⟩) {chunks : List QByteArray}
    (hstream : chunks.flatten = stream [hello.object,register.object] ++ encoded frames)
    (hcausal : Causal (receiver env) hello.object [] s chunks) :
    Switched env s chunks frames ↔ Uncut hello.object register.object chunks ∧
      ¬Boundary chunks (answered hello.object register.object) ∧
      Boundary chunks (stream [hello.object,register.object]) := by
  have hsound := hs.awaiting.sound
  rw [← switch_clean_iff law hsound hs hbuf hcausal hstream]
  constructor
  · intro h
    have hready : (receiver env).ready ((receiver env).receive s chunks) = true := by
      rw [← receive_eq]
      exact decide_eq_true h.running
    obtain ⟨pre,post,rfl,hr,hfirst⟩ := switch (law.greeting s hs).1 hready
    refine ⟨pre,post,rfl,?_,hr,hfirst⟩
    have hrest := (switched_iff_rest law hs hr hfirst frames).mp h
    rw [List.flatten_append] at hstream
    rcases List.append_eq_append_iff.mp hstream with ⟨more,he,hpost⟩ | ⟨lead,he,hpost⟩
    · -- the server runs before the whole second line has come
      have hans := ((ready_iff law hsound hs hbuf ⟨more,he.symm⟩
        (hcausal.take (List.prefix_append _ _))).mp hr).1
      rw [stream_two] at he
      obtain ⟨rest,hrest'⟩ := hans
      rw [← hrest',List.append_assoc,List.append_cancel_left_eq] at he
      cases rest with
      | nil =>
        rw [List.nil_append] at he
        rw [hpost,← he] at hrest
        exact absurd hrest (reassemble_newline_ne hne)
      | cons x rest =>
        obtain ⟨rfl,hnil⟩ := List.cons.inj he
        obtain ⟨rfl,-⟩ := List.append_eq_nil_iff.mp hnil.symm
        rw [← hrest',stream_two]
    · -- the server has taken in a part of the frames as JSON
      by_cases hlead : lead = []
      · rw [he,hlead,List.append_nil]
      · exact absurd hrest (reassemble_suffix_ne hframes hpost hlead)
  · rintro ⟨pre,post,rfl,hp,hr,hfirst⟩
    rw [switched_iff_rest law hs hr hfirst]
    rw [List.flatten_append,hp,List.append_cancel_left_eq] at hstream
    rw [hstream,reassemble_encoded]

theorem switched_nil_iff (law : Lawful (receiver env) hello.object register.object Greeting
      (Awaiting .onServerRegistrationFinished) Sound) (hs : Greeting s)
    (hbuf : s.m_jsonClient.m_dataBuffer = []) {chunks : List QByteArray}
    (hstream : chunks.flatten = stream [hello.object,register.object])
    (hcausal : Causal (receiver env) hello.object [] s chunks) :
    Switched env s chunks [] ↔ Uncut hello.object register.object chunks := by
  have hsound := hs.awaiting.sound
  have hpre : chunks.flatten <+: stream [hello.object,register.object] := by rw [hstream]
  have hwhole : answered hello.object register.object <+: chunks.flatten := by
    rw [hstream,stream_two]
    exact List.prefix_append _ _
  have hiff := (ready_iff law hsound hs hbuf hpre hcausal).trans (and_iff_right hwhole)
  constructor
  · intro h
    apply hiff.mp
    rw [← receive_eq]
    exact decide_eq_true h.running
  · intro h
    obtain ⟨pre,post,rfl,hr,hfirst⟩ := switch (law.greeting s hs).1 (hiff.mpr h)
    rw [switched_iff_rest law hs hr hfirst]
    rw [List.flatten_append] at hstream
    have hans := ((ready_iff law hsound hs hbuf ⟨post.flatten,hstream⟩
      (hcausal.take (List.prefix_append _ _))).mp hr).1
    obtain ⟨rest,hrest⟩ := hans
    rw [stream_two,← hrest,List.append_assoc,List.append_cancel_left_eq] at hstream
    have hclean : ProtocolByteEnd ∉ post.flatten := by
      intro hm
      have hin : ProtocolByteEnd ∈ rest ++ post.flatten := List.mem_append_right _ hm
      rw [hstream] at hin
      exact absurd hin (by decide)
    rw [reassemble_body hclean]

/-- The server comes to run and handles every frame exactly when no chunk ends behind a closing brace
inside a response and, where frames follow, a chunk ends with the second response and none between
its closing brace and its line break. -/
theorem server_switch_iff (hello register : Response env)
    (haccepted : env.toString ((register.dataMap.value "params").toMap.value "tunnelProxyError") =
      "TunnelProxyErrorNoError")
    (hs : s.m_jsonClient = .new) (ht : Connected env s t) {frames : List Frame}
    (hframes : ∀ frame ∈ frames, frame ≠ ⟨0,[]⟩) {chunks : List QByteArray}
    (hstream : chunks.flatten = stream [hello.object,register.object] ++ encoded frames)
    (hcausal : Causal (receiver env) hello.object [] t chunks) :
    Switched env t chunks frames ↔
      Uncut hello.object register.object chunks ∧
      (frames ≠ [] → ¬Boundary chunks (answered hello.object register.object) ∧
        Boundary chunks (stream [hello.object,register.object])) := by
  have law := (talks hello haccepted).lawful
  obtain ⟨hgreeting,hbuf⟩ := ht.greeting hs
  by_cases hne : frames = []
  · subst hne
    rw [switched_nil_iff law hgreeting hbuf (hstream.trans (List.append_nil _)) hcausal]
    simp
  · rw [switched_frames_iff law hgreeting hbuf hne hframes hstream hcausal]
    exact and_congr_right fun _ => (imp_iff_right hne).symm

end Switch

section Run

def registerServerResponse : QVariantMap :=
  [("id",.number 0 0),("params",.map [("slipEnabled",.bool true),
    ("tunnelProxyError",.string "TunnelProxyErrorNoError")]),("status",.string "success")]

def helloLine : Response (Qt.onDocuments [helloResponse,registerServerResponse]) :=
  .onDocuments (CompactObject.ofMap helloResponse helloResponse_compact) helloResponse
    rfl (by decide +kernel) rfl rfl

def registerLine : Response (Qt.onDocuments [helloResponse,registerServerResponse]) :=
  .onDocuments (CompactObject.ofMap registerServerResponse (by decide +kernel))
    registerServerResponse rfl (by decide +kernel) rfl rfl

instance : DecidablePred (receiver env).requested := fun s =>
  inferInstanceAs (Decidable (Sent "RegisterServer" s.m_jsonClient))

def greeted : TunnelProxySocketServer :=
  (new ⟨1⟩ "server").onConnectionChanged
    (Qt.onDocuments [helloResponse,registerServerResponse]) true

def separateChunks : List QByteArray :=
  [stream [helloLine.object],stream [registerLine.object],encoded [⟨1,[0x41]⟩]]

def coalescedChunks : List QByteArray :=
  [stream [helloLine.object],stream [registerLine.object] ++ encoded [⟨1,[0x41]⟩]]

theorem server_switch_iff_separate :
    Switched (Qt.onDocuments [helloResponse,registerServerResponse]) greeted separateChunks
        [⟨1,[0x41]⟩] ↔
      Uncut helloLine.object registerLine.object separateChunks ∧
      (([⟨1,[0x41]⟩] : List Frame) ≠ [] →
        ¬Boundary separateChunks (answered helloLine.object registerLine.object) ∧
        Boundary separateChunks (stream [helloLine.object,registerLine.object])) := by
  apply server_switch_iff helloLine registerLine rfl rfl (.inl rfl) (by decide) (by decide +kernel)
  rw [causal_iff]
  decide +kernel

theorem server_coalesced_lost :
    coalescedChunks.flatten =
      stream [helloLine.object,registerLine.object] ++ encoded [⟨1,[0x41]⟩] ∧
    Causal (receiver (Qt.onDocuments [helloResponse,registerServerResponse])) helloLine.object []
      greeted coalescedChunks ∧
    ¬Switched (Qt.onDocuments [helloResponse,registerServerResponse]) greeted coalescedChunks
      [⟨1,[0x41]⟩] := by
  refine ⟨by decide +kernel,?_,fun h => ?_⟩
  · rw [causal_iff]
    decide +kernel
  · have hstate : (receive (Qt.onDocuments [helloResponse,registerServerResponse]) greeted
        coalescedChunks).m_state = .StateRegister := by decide +kernel
    exact absurd (hstate.symm.trans h.running) (by decide)

end Run

end RemoteProxy.TunnelProxySocketServer
