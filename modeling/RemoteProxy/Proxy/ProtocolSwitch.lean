import RemoteProxy.Proxy.Registered

namespace RemoteProxy.TunnelProxyServer

open JsonPackets SlipDataProcessor

variable {env : Environment} {o : ObjectId} {uuids : List QUuid} {s t : TunnelProxyServer}
  {b : QByteArray}

theorem RegistersClient.congr {r : Request} {server : ObjectId} {b' : QByteArray}
    (hs : t.standing o (r.askedFor env) =
      { s.standing o (r.askedFor env) with m_dataBuffer := b' })
    (h : r.RegistersClient env s o server) : r.RegistersClient env t o server := by
  simp only [standing,Standing.mk.injEq,Request.askedFor,List.map_cons,List.map_nil,
    List.cons.injEq] at hs
  obtain ⟨h1,-,h3,-,-,-,-,-,⟨hs1,hs2,-⟩,⟨hc1,-,-⟩,-⟩ := hs
  exact ⟨h.name,h.serverValid,h.clientValid,h1.trans h.known,h3.trans h.unregistered,
    hc1.trans h.notClient,hs1.trans h.notServer,hs2.trans h.found⟩

theorem RegistersServer.congr {r : Request} {uuid : QUuid} {b' : QByteArray}
    (hs : t.standing o (r.askedFor env) =
      { s.standing o (r.askedFor env) with m_dataBuffer := b' })
    (h : r.RegistersServer env s o uuid) : r.RegistersServer env t o uuid := by
  simp only [standing,Standing.mk.injEq,Request.askedFor,List.map_cons,List.map_nil,
    List.cons.injEq] at hs
  obtain ⟨h1,-,h3,-,-,-,-,-,⟨-,hs2,-⟩,⟨-,hc2,-⟩,-⟩ := hs
  have huuid := h.serverUuid
  refine ⟨h.name,h.serverUuid,h.valid,h1.trans h.known,h3.trans h.unregistered,?_,?_⟩
  · rw [← huuid]
    exact hs2.trans (by rw [huuid]; exact h.notServer)
  · rw [← huuid]
    exact hc2.trans (by rw [huuid]; exact h.notClient)

theorem handsOn_of_unheard {pre post : List Arrival} {a : Arrival} {b' x w : QByteArray}
    (h : Unheard env o uuids s pre b') (hw : Waiting s o b)
    (hu : LeftAlone env o uuids s (pre ++ a :: post)) (hcut : cut (b' ++ a.chunk) = (w,[x]))
    (hroom : w.length ≤ 1024 * 10) :
    ∃ v, Waiting v o w ∧ v.standing o uuids = { s.standing o uuids with m_dataBuffer := w } ∧
      v.output = ((arrived env o s pre).before env a).output ∧
      arrived env o s (pre ++ [a]) = JsonRpcServer.processDataPacket env v o x ∧
      heard env o s (pre ++ a :: post) =
        x :: heard env o (arrived env o s (pre ++ [a])) post ∧
      framesRead env o s (pre ++ a :: post) =
        framesRead env o (arrived env o s (pre ++ [a])) post := by
  have hbefore := (LeftAlone.append hu).2.1
  have hwait : Waiting ((arrived env o s pre).before env a) o b' :=
    hw.congr (hbefore.trans h.standing)
  have hstep := hwait.dataAvailable env a.chunk
  have htaken := hwait.taken a.chunk
  rw [hcut,if_neg (not_lt.mpr hroom)] at hstep htaken
  have hcutUp := hwait.cutUp a.chunk
  rw [hcut] at hcutUp
  refine ⟨_,hcutUp,?_,rfl,?_,?_,?_⟩
  · rw [hwait.cutUp_standing,hbefore,h.standing,hcut]
  · rw [arrived_append]
    exact hstep
  · rw [heard_append,h.heard,heard_cons,htaken,arrived_append]
    rfl
  · rw [framesRead_append,h.framesRead,framesRead_cons,htaken,arrived_append]
    rfl

theorem ends_of_shift {r : QByteArray} (hends : endsPacket r = true) (x : UInt8) :
    x :: r ≠ r ++ [newline] := by
  intro h
  rw [endsPacket,Bool.or_eq_true,QByteArray.endsWith_iff,QByteArray.endsWith_iff] at hends
  rcases hends with ⟨init,rfl⟩ | ⟨init,rfl⟩
  · have hsplit : (x :: init) ++ [closing,newline] = (init ++ [closing]) ++ [newline,newline] := by
      simpa using h
    exact absurd (List.append_inj' hsplit rfl).2 (by decide)
  · have hsplit : (x :: init) ++ [closing] = (init ++ [closing]) ++ [newline] := h
    exact absurd (List.append_inj' hsplit rfl).2 (by decide)

def IsRequest (r x : QByteArray) : Prop := x = r ∨ x = r ++ [newline]

theorem IsRequest.length_le {r x : QByteArray} (h : IsRequest r x) : r.length ≤ x.length := by
  rcases h with rfl | rfl
  · exact Nat.le_refl _
  · simp

theorem whole_line {r x lead : QByteArray} (hx : IsRequest r x) (hends : endsPacket x = true)
    (h : lead ++ x = r ++ [newline]) : lead = [] ∧ x = r ++ [newline] := by
  rcases hx with rfl | rfl
  · have hlen := congrArg List.length h
    simp only [List.length_append,List.length_cons,List.length_nil] at hlen
    match lead,hlen with
    | [y],_ => exact absurd h (ends_of_shift hends y)
    | [],hlen => simp at hlen
    | y :: z :: lead,hlen =>
      simp only [List.length_cons] at hlen
      omega
  · refine ⟨?_,rfl⟩
    have hlen := congrArg List.length h
    rw [List.length_append] at hlen
    exact List.length_eq_zero_iff.mp (by omega)

section Client

/-- The JSON-RPC server is handed the request and nothing else, and the server connection is sent
exactly `p`, in frames with the client's address. -/
structure ForwardsExactly (env : Environment) (o : ObjectId) (s : TunnelProxyServer)
    (arrivals : List Arrival) (r p : QByteArray) (server : ObjectId) : Prop where
  request : ∃ x, IsRequest r x ∧ heard env o s arrivals = [x]
  payload : ∃ parts : List QByteArray, parts.flatten = p ∧
    forwarded env o s arrivals = parts.map (tunnelFrame (arrived env o s arrivals) o server)

/-- A chunk ends exactly behind the line of the request, which is one packet, and the chunks before
it are calm. -/
def SwitchesCleanly (env : Environment) (o : ObjectId) (s : TunnelProxyServer)
    (arrivals : List Arrival) (r : QByteArray) : Prop :=
  ∃ pre a post, arrivals = pre ++ a :: post ∧ bytes (pre ++ [a]) = r ++ [newline] ∧
    Calm env o s [] pre ∧ Cuts (r ++ [newline]) (r ++ [newline]) []

theorem client_run {pre post : List Arrival} {a : Arrival} {b' x w : QByteArray} {r : Request}
    {server : ObjectId} (hw : Waiting s o []) (hr : r.RegistersClient env s o server)
    (hx : JsonRpcServer.request env x = some r)
    (hu : LeftAlone env o (r.askedFor env) s (pre ++ a :: post))
    (h : Unheard env o (r.askedFor env) s pre b') (hcut : cut (b' ++ a.chunk) = (w,[x]))
    (hroom : w.length ≤ 1024 * 10) :
    heard env o s (pre ++ a :: post) = [x] ∧
      forwarded env o s (pre ++ a :: post) = (post.map Arrival.chunk).map
        (tunnelFrame (arrived env o s (pre ++ a :: post)) o server) := by
  obtain ⟨v,hv,hstanding,hout,harrived,hheard,-⟩ := handsOn_of_unheard h hw hu hcut hroom
  obtain ⟨htunnel,new,hnew,hq⟩ := hv.registersClient hx (RegistersClient.congr hstanding hr)
  rw [← harrived] at htunnel hnew
  have hsplit : pre ++ a :: post = (pre ++ [a]) ++ post := by simp
  have hpost := (LeftAlone.append (hsplit ▸ hu)).2
  have hmem : env.toUuid (r.params.value "clientUuid") ∈ r.askedFor env := List.mem_cons_self ..
  obtain ⟨-,hnone,hsent⟩ := htunnel.run hmem hpost
  have hlast : arrived env o s (pre ++ a :: post) =
      arrived env o (arrived env o s (pre ++ [a])) post := by
    rw [← arrived_append]
    simp
  refine ⟨by rw [hheard,hnone],?_⟩
  rw [arrived_append] at hnew hsent
  rw [hout] at hnew
  rw [forwarded_append,h.forwarded,forwarded_cons _ a post hnew,hq,List.nil_append,List.nil_append,
    hlast,List.map_map,arrived_append]
  exact hsent

theorem forwards_iff {arrivals : List Arrival} {r p : QByteArray} {req : Request}
    {server : ObjectId} (hw : Waiting s o []) (hr : req.RegistersClient env s o server)
    (hx : ∀ x, IsRequest r x → JsonRpcServer.request env x = some req)
    (hu : LeftAlone env o (req.askedFor env) s arrivals)
    (hbytes : bytes arrivals = r ++ newline :: p) :
    ForwardsExactly env o s arrivals r p server ↔ SwitchesCleanly env o s arrivals r := by
  constructor
  · rintro ⟨⟨x,hrequest,hheard⟩,parts,hparts,hsent⟩
    obtain ⟨pre,a,post,w,rfl,⟨b',hun,hcut,⟨lead,hlead⟩,hcalm⟩,hroom⟩ :=
      handsOn_of_heard hw hu hheard
    obtain ⟨-,hforwarded⟩ := client_run hw hr (hx x hrequest) hu hun hcut hroom
    rw [hforwarded] at hsent
    have hinj : Function.Injective (tunnelFrame (arrived env o s (pre ++ a :: post)) o server) := by
      intro d d' he
      simp only [tunnelFrame,Output.sent.injEq,Message.tunnelData.injEq] at he
      exact he.2.1.2.2
    have hpost : bytes post = p := by
      rw [← hparts,← List.map_injective_iff.mpr hinj hsent,bytes,List.flatMap_def]
    have hline : bytes (pre ++ [a]) = r ++ [newline] := by
      have hall : bytes (pre ++ [a]) ++ bytes post = (r ++ [newline]) ++ bytes post := by
        rw [← bytes_append,List.append_assoc,List.singleton_append,hbytes,hpost]
        simp
      exact List.append_cancel_right hall
    have hsplit : lead ++ (b' ++ a.chunk) = r ++ [newline] := by
      rw [← hline,bytes_append,← List.nil_append (bytes pre),← hlead]
      simp
    rw [cuts_iff] at hcut
    generalize b' ++ a.chunk = e at hcut hsplit
    cases hcut with
    | whole hsep hends =>
      obtain ⟨rfl,rfl⟩ := whole_line hrequest hends hsplit
      exact ⟨pre,a,post,rfl,hline,hcalm hlead,.whole hsep hends⟩
    | @apart z y _ _ =>
      have hlen := congrArg List.length hsplit
      have hle := hrequest.length_le
      simp only [separator,List.length_append,List.length_cons,List.length_nil] at hlen hle
      omega
  · rintro ⟨pre,a,post,rfl,hline,hcalm,hcuts⟩
    have hun := unheard_of_calm hw (LeftAlone.append hu).1 hcalm
    have hcut : cut ([] ++ bytes pre ++ a.chunk) = ([],[r ++ [newline]]) := by
      rw [cuts_iff,List.nil_append]
      have he : bytes pre ++ a.chunk = r ++ [newline] := by simpa using hline
      rw [he]
      exact hcuts
    obtain ⟨hheard,hforwarded⟩ := client_run hw hr (hx _ (.inr rfl)) hu hun hcut (by simp)
    refine ⟨⟨_,.inr rfl,hheard⟩,post.map Arrival.chunk,?_,hforwarded⟩
    have hall : bytes (pre ++ [a]) ++ bytes post = bytes (pre ++ [a]) ++ p := by
      rw [← bytes_append,List.append_assoc,List.singleton_append,hbytes,hline]
      simp
    rw [← List.append_cancel_left hall,bytes,List.flatMap_def]

end Client

section Server

/-- Frame by frame the chunk is handed to `processFrame`, packet by packet to `processDataPacket`. -/
def HandlesTaken (env : Environment) (o : ObjectId) (t : TunnelProxyServer) (chunk : QByteArray) :
    Prop :=
  t.m_proxyClients.value o = some o → t.step env (.dataAvailable o chunk) =
    (taken o t chunk).foldl (handle env o) ((t.received o chunk).buffered env o chunk)

/-- The JSON-RPC server is handed the request and nothing else, and the proxy reads exactly the
frames that follow and handles what it reads of each chunk, one after the other. -/
structure HandlesExactly (env : Environment) (o : ObjectId) (s : TunnelProxyServer)
    (arrivals : List Arrival) (r : QByteArray) (frames : List Frame) : Prop where
  request : ∃ x, IsRequest r x ∧ heard env o s arrivals = [x]
  frames : framesRead env o s arrivals = frames
  handled : ∀ pre a post, arrivals = pre ++ a :: post →
    HandlesTaken env o ((arrived env o s pre).before env a) a.chunk

/-- The request is cut out by the first chunk that ends behind something taken for a packet; what
this chunk leaves in the buffer is a part of the first frame; `o` is known wherever a later frame
ends, and nothing of the frames is escaped. -/
def SwitchesToFrames (env : Environment) (o : ObjectId) (s : TunnelProxyServer)
    (arrivals : List Arrival) (r : QByteArray) (frames : List Frame) : Prop :=
  ∃ pre a post x w, arrivals = pre ++ a :: post ∧ IsRequest r x ∧ Calm env o s [] pre ∧
    Cuts (bytes (pre ++ [a])) x w ∧ w.length ≤ 1024 * 10 ∧
    (frames = [] ∨ bytes (pre ++ [a]) = r ++ newline :: w ∧ ProtocolByteEnd ∉ w) ∧
    Undropped env o (arrived env o s (pre ++ [a])) post ∧
    ∀ frame ∈ frames, Stuffing.Clean alphabet (buildFrame frame)

theorem server_run {pre post : List Arrival} {a : Arrival} {b' x w : QByteArray} {r : Request}
    {uuid : QUuid} (hw : Waiting s o []) (hr : r.RegistersServer env s o uuid)
    (hx : JsonRpcServer.request env x = some r)
    (hu : LeftAlone env o (r.askedFor env) s (pre ++ a :: post))
    (h : Unheard env o (r.askedFor env) s pre b') (hcut : cut (b' ++ a.chunk) = (w,[x]))
    (hroom : w.length ≤ 1024 * 10) :
    heard env o s (pre ++ a :: post) = [x] ∧
      framesRead env o s (pre ++ a :: post) =
        framesRead env o (arrived env o s (pre ++ [a])) post ∧
      Framed (arrived env o s (pre ++ [a])) o w ∧
      LeftAlone env o (r.askedFor env) (arrived env o s (pre ++ [a])) post := by
  obtain ⟨v,hv,hstanding,-,harrived,hheard,hframes⟩ := handsOn_of_unheard h hw hu hcut hroom
  have hframed := hv.registersServer hx (RegistersServer.congr hstanding hr)
  rw [← harrived] at hframed
  have hsplit : pre ++ a :: post = (pre ++ [a]) ++ post := by simp
  have hpost := (LeftAlone.append (hsplit ▸ hu)).2
  exact ⟨by rw [hheard,heard_framed hframed hpost],hframes,hframed,hpost⟩

theorem framed_shift (frame : Frame) (frames : List Frame)
    (h : (TunnelProxyClient.processSlip [] (newline :: encode (frame :: frames))).2.map parseFrame =
      frame :: frames) : False := by
  have hv : ProtocolByteEnd ∉ newline :: escape (buildFrame frame) := by
    rw [List.mem_cons,not_or]
    exact ⟨by decide,end_not_mem_escape _⟩
  have hlen := congrArg List.length h
  rw [encode_cons,← List.cons_append,List.length_map] at hlen
  rw [encode_cons,← List.cons_append,TunnelProxyClient.processSlip_first hv
    (by rw [hlen,count_encode,List.length_cons]),List.nil_append,List.map_cons] at h
  have hread := (List.cons.inj h).1
  have htwo := two_le_length_escape frame
  have hbuild : buildFrame frame = newline :: escape (buildFrame frame) := by
    have hlong : 2 ≤ (newline :: escape (buildFrame frame)).length := by
      rw [List.length_cons]
      omega
    have hb := buildFrame_parseFrame hlong
    rw [hread] at hb
    exact hb
  have hle := Stuffing.length_le_stuff alphabet (buildFrame frame)
  have hlong := congrArg List.length hbuild
  rw [List.length_cons] at hlong
  change (buildFrame frame).length ≤ (escape (buildFrame frame)).length at hle
  omega

theorem not_zero_behind {x : QByteArray} (hends : endsPacket x = true) (lead : QByteArray) :
    ¬[0] <:+ lead ++ x := by
  rintro ⟨init,hinit⟩
  rw [endsPacket,Bool.or_eq_true,QByteArray.endsWith_iff,QByteArray.endsWith_iff] at hends
  rcases hends with ⟨y,rfl⟩ | ⟨y,rfl⟩
  · have hsplit : init ++ [0] = (lead ++ y ++ [closing]) ++ [newline] := by simpa using hinit
    exact absurd (List.append_inj' hsplit rfl).2 (by decide)
  · have hsplit : init ++ [0] = (lead ++ y) ++ [closing] := by simpa using hinit
    exact absurd (List.append_inj' hsplit rfl).2 (by decide)

theorem framed_aligned {frame : Frame} {frames : List Frame} {m v w : QByteArray}
    (hm : escape (buildFrame frame) = m ++ v) (hsuf : w <:+ m)
    (hmark : opening ∈ w ∨ w = [] ∧ ¬[0] <:+ m)
    (h : (TunnelProxyClient.processSlip w (v ++ ProtocolByteEnd :: encode frames)).2.map parseFrame =
      frame :: frames) :
    w = m ∧ ∀ f ∈ frame :: frames, Stuffing.Clean alphabet (buildFrame f) := by
  have hv : ProtocolByteEnd ∉ v := fun hmem =>
    end_not_mem_escape (buildFrame frame) (by rw [hm]; exact List.mem_append_right m hmem)
  have hlen := congrArg List.length h
  rw [List.length_map] at hlen
  rw [TunnelProxyClient.processSlip_first hv (by rw [hlen,count_encode,List.length_cons]),
    TunnelProxyClient.processSlip_encode,List.map_cons,List.map_map] at h
  obtain ⟨hfirst,hrest⟩ := List.cons.inj h
  have hlater : ∀ f ∈ frames, Stuffing.Clean alphabet (buildFrame f) := by
    intro f hf
    rw [← parseFrame_escape_iff]
    have hid : frames.map (parseFrame ∘ fun f => escape (buildFrame f)) = frames.map id := by
      rw [hrest,List.map_id]
    exact List.map_inj_left.mp hid f hf
  have hu : w ++ v <:+ escape (buildFrame frame) := by
    rw [hm,List.suffix_append_self_iff]
    exact hsuf
  by_cases htwo : 2 ≤ (w ++ v).length
  · obtain ⟨hwhole,hclean⟩ := parseFrame_suffix hu htwo hfirst
    rw [hm] at hwhole
    refine ⟨List.append_cancel_right hwhole,?_⟩
    rw [List.forall_mem_cons]
    exact ⟨hclean,hlater⟩
  · have hzero : frame = ⟨0,[]⟩ := by
      rw [← hfirst]
      match w ++ v,htwo with
      | [],_ => rfl
      | [x],_ => rfl
      | x :: y :: rest,htwo => simp at htwo
    have hzeros : m ++ v = [0,0] := by
      rw [← hm,hzero]
      decide
    rcases hmark with hopen | ⟨rfl,hnot⟩
    · have hmem : opening ∈ m ++ v := List.mem_append_left v (hsuf.subset hopen)
      rw [hzeros] at hmem
      exact absurd hmem (by decide)
    · refine absurd ?_ hnot
      rw [List.nil_append] at htwo
      match v,htwo,hzeros with
      | [],_,hzeros =>
        rw [List.append_nil] at hzeros
        rw [hzeros]
        exact ⟨[0],rfl⟩
      | [x],_,hzeros =>
        have hsplit : m ++ [x] = [0] ++ [0] := hzeros
        rw [(List.append_inj' hsplit rfl).1]
      | x :: y :: rest,htwo,_ => simp at htwo

theorem switch_aligned {lead e x w m z r : QByteArray} {frames : List Frame} (hx : IsRequest r x)
    (hcut : Cuts e x w) (he : lead ++ e = (r ++ [newline]) ++ m)
    (hz : encode frames = m ++ z)
    (hread : (TunnelProxyClient.processSlip w z).2.map parseFrame = frames) :
    lead = [] ∧ (frames = [] ∨ e = r ++ newline :: w ∧ ProtocolByteEnd ∉ w) ∧
      ∀ f ∈ frames, Stuffing.Clean alphabet (buildFrame f) := by
  have hle := hx.length_le
  cases frames with
  | nil =>
    obtain ⟨rfl,rfl⟩ := List.append_eq_nil_iff.mp hz.symm
    rw [List.append_nil] at he
    cases hcut with
    | whole _ hends => exact ⟨(whole_line hx hends he).1,.inl rfl,by simp⟩
    | @apart y y' _ _ =>
      have hlen := congrArg List.length he
      simp only [separator,List.length_append,List.length_cons,List.length_nil] at hlen hle
      omega
  | cons frame frames =>
    have hclean : ProtocolByteEnd ∉ m := by
      have hcount := congrArg (List.count ProtocolByteEnd) hz
      have hfew := TunnelProxyClient.length_processSlip_le w z
      have hlen := congrArg List.length hread
      rw [List.length_map] at hlen
      rw [count_encode,List.count_append] at hcount
      exact List.count_eq_zero.mp (by omega)
    obtain ⟨v,hm,hv⟩ : ∃ v, escape (buildFrame frame) = m ++ v ∧
        z = v ++ ProtocolByteEnd :: encode frames := by
      rw [encode_cons] at hz
      rcases List.append_eq_append_iff.mp hz with ⟨m',hm,hv⟩ | h
      · cases m' with
        | nil => exact ⟨[],by simpa using hm.symm,by simpa using hv.symm⟩
        | cons y m' =>
          obtain ⟨rfl,-⟩ := List.cons.inj hv
          exact absurd (by rw [hm]; simp) hclean
      · exact h
    rw [hv] at hread
    cases hcut with
    | whole _ hends =>
      have hmark : ¬[0] <:+ m := by
        intro hzero
        apply not_zero_behind hends lead
        rw [he]
        exact hzero.trans (List.suffix_append _ m)
      obtain ⟨rfl,hall⟩ := framed_aligned hm (by simp) (.inr ⟨rfl,hmark⟩) hread
      rw [List.append_nil] at he
      obtain ⟨hnil,hline⟩ := whole_line hx hends he
      exact ⟨hnil,.inr ⟨hline,by simp⟩,hall⟩
    | @apart y y' _ _ =>
      have hsuf : opening :: y' <:+ m := by
        have hlen := congrArg List.length he
        simp only [separator,List.length_append,List.length_cons,List.length_nil] at hlen hle
        have hwhole : opening :: y' <:+ lead ++ (y ++ separator ++ y') :=
          ⟨lead ++ y ++ [closing,newline],by simp [separator]⟩
        refine List.suffix_of_suffix_length_le hwhole ?_ ?_
        · rw [he]
          exact List.suffix_append _ m
        · rw [List.length_cons]
          omega
      obtain ⟨rfl,hall⟩ := framed_aligned hm hsuf (.inl (by simp)) hread
      have hsplit : (lead ++ (y ++ [closing])) ++ (newline :: opening :: y') =
          r ++ (newline :: opening :: y') := by
        simpa [separator] using he
      have hr := List.append_cancel_right hsplit
      have hlen := congrArg List.length hr
      simp only [List.length_append,List.length_cons,List.length_nil] at hlen hle
      have hnil : lead = [] := List.length_eq_zero_iff.mp (by omega)
      refine ⟨hnil,.inr ⟨?_,hclean⟩,hall⟩
      rw [hnil,List.nil_append] at hr
      rw [← hr]
      simp [separator]

theorem switch_early {lead e x w m r : QByteArray} {y : UInt8} (hx : IsRequest r x)
    (hcut : Cuts e x w) (he : r ++ [newline] = (lead ++ e) ++ y :: m) :
    lead = [] ∧ y :: m = [newline] ∧ w = [] := by
  have hle := hx.length_le
  cases hcut with
  | @apart z z' _ _ =>
    have hlen := congrArg List.length he
    simp only [separator,List.length_append,List.length_cons,List.length_nil] at hlen hle
    omega
  | whole _ _ =>
    have hlen := congrArg List.length he
    simp only [List.length_append,List.length_cons,List.length_nil] at hlen
    have hnil : lead = [] := List.length_eq_zero_iff.mp (by omega)
    rcases hx with rfl | rfl
    · rw [hnil,List.nil_append] at he
      exact ⟨hnil,(List.append_cancel_left he).symm,rfl⟩
    · simp only [List.length_append,List.length_cons,List.length_nil] at hlen
      omega

theorem handles_taken (env : Environment) (t : TunnelProxyServer) (chunk : QByteArray) :
    HandlesTaken env o t chunk := by
  intro hknown
  rw [step,onClientDataAvailable_eq env hknown,taken,if_pos hknown]

theorem handles_iff {arrivals : List Arrival} {r : QByteArray} {frames : List Frame}
    {req : Request} {uuid : QUuid} (hw : Waiting s o []) (hr : req.RegistersServer env s o uuid)
    (hx : ∀ x, IsRequest r x → JsonRpcServer.request env x = some req)
    (hu : LeftAlone env o (req.askedFor env) s arrivals)
    (hbytes : bytes arrivals = r ++ newline :: encode frames) :
    HandlesExactly env o s arrivals r frames ↔ SwitchesToFrames env o s arrivals r frames := by
  have hstream : ∀ pre a post, arrivals = pre ++ a :: post →
      bytes (pre ++ [a]) ++ bytes post = (r ++ [newline]) ++ encode frames := by
    rintro pre a post rfl
    rw [← bytes_append,List.append_assoc,List.singleton_append,hbytes]
    simp
  constructor
  · rintro ⟨⟨x,hrequest,hheard⟩,hframes,-⟩
    obtain ⟨pre,a,post,w,he,⟨b',hun,hcut,⟨lead,hlead⟩,hcalm⟩,hroom⟩ :=
      handsOn_of_heard hw hu hheard
    have hall := hstream pre a post he
    subst he
    obtain ⟨-,hread,hframed,hpost⟩ := server_run hw hr (hx x hrequest) hu hun hcut hroom
    rw [hread] at hframes
    obtain ⟨hfew,hundropped⟩ := length_framesRead hframed hpost
    rw [hframes] at hfew hundropped
    have hbehind : bytes (pre ++ [a]) = lead ++ (b' ++ a.chunk) := by
      rw [bytes_append,← List.nil_append (bytes pre),← hlead]
      simp
    have hcuts := (cuts_iff _ _ _).mp hcut
    -- once nothing is lost before the request, the bytes so far are what the splitter went through
    have hdone : lead = [] → Undropped env o (arrived env o s (pre ++ [a])) post →
        (frames = [] ∨ b' ++ a.chunk = r ++ newline :: w ∧ ProtocolByteEnd ∉ w) →
        (∀ frame ∈ frames, Stuffing.Clean alphabet (buildFrame frame)) →
        SwitchesToFrames env o s (pre ++ a :: post) r frames := by
      intro hnil hd hplace hclean
      rw [hnil,List.nil_append] at hbehind
      refine ⟨pre,a,post,x,w,rfl,hrequest,hcalm ?_,?_,hroom,?_,hd,hclean⟩
      · rw [hnil] at hlead
        exact hlead
      · rw [hbehind]
        exact hcuts
      · rw [hbehind]
        exact hplace
    rw [hbehind] at hall
    rcases List.append_eq_append_iff.mp hall with ⟨m,hm,hp⟩ | ⟨m,hm,hp⟩
    · cases m with
      | nil =>
        rw [List.append_nil] at hm
        rw [List.nil_append] at hp
        have hd := hundropped (by rw [hp,count_encode])
        have hz := framesRead_eq hframed hpost hd
        rw [hframes] at hz
        obtain ⟨h1,h2,h3⟩ := switch_aligned (m := []) hrequest hcuts
          (by rw [List.append_nil]; exact hm.symm) (by rw [hp]; rfl) hz.symm
        exact hdone h1 hd h2 h3
      | cons y m =>
        obtain ⟨hnil,hnewline,hw'⟩ := switch_early hrequest hcuts hm
        rw [hnewline,List.singleton_append] at hp
        have hd := hundropped (by
          rw [hp,List.count_cons_of_ne (by decide),count_encode])
        cases frames with
        | nil => exact hdone hnil hd (.inl rfl) (by simp)
        | cons frame frames =>
          have hz := framesRead_eq hframed hpost hd
          rw [hframes,hw',hp] at hz
          exact (framed_shift frame frames hz.symm).elim
    · have hcount := congrArg (List.count ProtocolByteEnd) hp
      rw [count_encode,List.count_append] at hcount
      have hd := hundropped (by omega)
      have hz := framesRead_eq hframed hpost hd
      rw [hframes] at hz
      obtain ⟨h1,h2,h3⟩ := switch_aligned hrequest hcuts hm hp hz.symm
      exact hdone h1 hd h2 h3
  · rintro ⟨pre,a,post,x,w,rfl,hrequest,hcalm,hcuts,hroom,hplace,hd,hclean⟩
    have hun := unheard_of_calm hw (LeftAlone.append hu).1 hcalm
    have hbehind : [] ++ bytes pre ++ a.chunk = bytes (pre ++ [a]) := by simp
    have hcut : cut ([] ++ bytes pre ++ a.chunk) = (w,[x]) := by
      rw [cuts_iff,hbehind]
      exact hcuts
    obtain ⟨hheard,hread,hframed,hpost⟩ := server_run hw hr (hx x hrequest) hu hun hcut hroom
    refine ⟨⟨x,hrequest,hheard⟩,?_,fun pre a post _ => handles_taken env _ a.chunk⟩
    rw [hread,framesRead_eq hframed hpost hd]
    have hall := hstream pre a post rfl
    rcases hplace with rfl | ⟨hplace,hnot⟩
    · have hshort : bytes post <:+ [newline] := by
        have hrest : bytes post <:+ r ++ [newline] := by
          refine ⟨bytes (pre ++ [a]),?_⟩
          rw [hall]
          simp [encode]
        apply List.suffix_of_suffix_length_le hrest (List.suffix_append _ _)
        have hlen := congrArg List.length hall
        have hle := hrequest.length_le.trans hcuts.length_le
        simp only [encode,List.flatMap_nil,List.length_append,List.length_cons,
          List.length_nil] at hlen ⊢
        omega
      have hnone : (bytes post).count ProtocolByteEnd = 0 :=
        List.count_eq_zero.mpr fun hm => absurd (hshort.subset hm) (by decide)
      have hfew := TunnelProxyClient.length_processSlip_le w (bytes post)
      rw [hnone,Nat.le_zero,List.length_eq_zero_iff] at hfew
      rw [hfew]
      rfl
    · rw [hplace] at hall
      have hrest : encode frames = w ++ bytes post := by
        have hboth : (r ++ [newline]) ++ encode frames = (r ++ [newline]) ++ (w ++ bytes post) := by
          rw [← hall]
          simp
        exact List.append_cancel_left hboth
      have hwhole := congrArg Prod.snd (TunnelProxyClient.processSlip_append [] w (bytes post))
      rw [TunnelProxyClient.processSlip_body w hnot,← hrest,TunnelProxyClient.processSlip_encode] at hwhole
      have hpackets : (TunnelProxyClient.processSlip w (bytes post)).2 =
          frames.map fun frame => escape (buildFrame frame) := by
        simpa using hwhole.symm
      rw [hpackets,List.map_map]
      refine (List.map_congr_left fun frame hf => ?_).trans (List.map_id frames)
      exact (parseFrame_escape_iff frame).mpr (hclean frame hf)

end Server

/-- The proxy switches its protocol cleanly exactly when a chunk ends where the request does. -/
theorem protocol_switch_iff {arrivals : List Arrival} {r : QByteArray} {req : Request}
    (hw : Waiting s o []) (hx : ∀ x, IsRequest r x → JsonRpcServer.request env x = some req)
    (hu : LeftAlone env o (req.askedFor env) s arrivals) :
    (∀ server p, req.RegistersClient env s o server → bytes arrivals = r ++ newline :: p →
      (ForwardsExactly env o s arrivals r p server ↔ SwitchesCleanly env o s arrivals r)) ∧
    ∀ uuid frames, req.RegistersServer env s o uuid →
      bytes arrivals = r ++ newline :: encode frames →
        (HandlesExactly env o s arrivals r frames ↔ SwitchesToFrames env o s arrivals r frames) :=
  ⟨fun _ _ hr hb => forwards_iff hw hr hx hu hb,fun _ _ hr hb => handles_iff hw hr hx hu hb⟩

section Sample

def accepting : TunnelProxyServer :=
  new.run (sampleEnvironment true) [.clientConnected ⟨1⟩ "10.0.0.1"]

def listening : TunnelProxyServer :=
  new.run (sampleEnvironment true)
    [.clientConnected ⟨1⟩ "10.0.0.1",.dataAvailable ⟨1⟩ (request true registerServerRequest),
      .clientConnected ⟨2⟩ "10.0.0.2"]

def requestText (m : QVariantMap) : QByteArray := (sampleEnvironment true).toJson m

def clientRequest : Request :=
  (JsonRpcServer.request (sampleEnvironment true) (requestText registerClientRequest)).get
    (by decide +kernel)

def serverRequest : Request :=
  (JsonRpcServer.request (sampleEnvironment true) (requestText registerServerRequest)).get
    (by decide +kernel)

theorem request_line (r : QByteArray) :
    JsonRpcServer.request (sampleEnvironment true) (r ++ [newline]) =
      JsonRpcServer.request (sampleEnvironment true) r := by
  have hfilter : (r ++ [newline]).filter (· != 0x0A) = r.filter (· != 0x0A) := by
    rw [List.filter_append]
    exact List.append_nil _
  have hjson : (sampleEnvironment true).fromJson (r ++ [newline]) =
      (sampleEnvironment true).fromJson r := by
    simp only [sampleEnvironment,Qt.onDocuments,hfilter]
  simp only [JsonRpcServer.request,hjson]

theorem request_isRequest {r x : QByteArray} {req : Request}
    (h : JsonRpcServer.request (sampleEnvironment true) r = some req) (hx : IsRequest r x) :
    JsonRpcServer.request (sampleEnvironment true) x = some req := by
  rcases hx with rfl | rfl
  · exact h
  · rw [request_line]
    exact h

theorem clientRequest_registers :
    clientRequest.RegistersClient (sampleEnvironment true) listening ⟨2⟩ ⟨1⟩ := by
  decide +kernel

theorem serverRequest_registers :
    serverRequest.RegistersServer (sampleEnvironment true) accepting ⟨1⟩ ⟨5⟩ := by
  decide +kernel

theorem listening_waiting : Waiting listening ⟨2⟩ [] := by decide +kernel

theorem accepting_waiting : Waiting accepting ⟨1⟩ [] := by decide +kernel

/-- Another connection comes in between the line of the request and what follows it. -/
def arrivalsOf (m : QVariantMap) (rest : QByteArray) : List Arrival :=
  [⟨[],requestText m ++ [newline]⟩,⟨[.clientConnected ⟨3⟩ "10.0.0.3"],rest⟩]

theorem protocol_switch_iff_sample :
    (ForwardsExactly (sampleEnvironment true) ⟨2⟩ listening
        (arrivalsOf registerClientRequest (ascii "hello")) (requestText registerClientRequest)
        (ascii "hello") ⟨1⟩ ↔
      SwitchesCleanly (sampleEnvironment true) ⟨2⟩ listening
        (arrivalsOf registerClientRequest (ascii "hello")) (requestText registerClientRequest)) ∧
    (HandlesExactly (sampleEnvironment true) ⟨1⟩ accepting
        (arrivalsOf registerServerRequest (encode [⟨1,ascii "hello"⟩]))
        (requestText registerServerRequest) [⟨1,ascii "hello"⟩] ↔
      SwitchesToFrames (sampleEnvironment true) ⟨1⟩ accepting
        (arrivalsOf registerServerRequest (encode [⟨1,ascii "hello"⟩]))
        (requestText registerServerRequest) [⟨1,ascii "hello"⟩]) := by
  have hclient : LeftAlone (sampleEnvironment true) ⟨2⟩
      (clientRequest.askedFor (sampleEnvironment true)) listening
      (arrivalsOf registerClientRequest (ascii "hello")) :=
    ⟨by decide +kernel,by decide +kernel,trivial⟩
  have hserver : LeftAlone (sampleEnvironment true) ⟨1⟩
      (serverRequest.askedFor (sampleEnvironment true)) accepting
      (arrivalsOf registerServerRequest (encode [⟨1,ascii "hello"⟩])) :=
    ⟨by decide +kernel,by decide +kernel,trivial⟩
  constructor
  · refine (protocol_switch_iff listening_waiting (fun _ hx => request_isRequest ?_ hx) hclient).1
      _ _ clientRequest_registers (by decide +kernel)
    exact (Option.some_get (by decide +kernel)).symm
  · refine (protocol_switch_iff accepting_waiting (fun _ hx => request_isRequest ?_ hx) hserver).2
      _ _ serverRequest_registers (by decide +kernel)
    exact (Option.some_get (by decide +kernel)).symm

theorem payload_lost :
    (Waiting listening ⟨2⟩ [] ∧
      clientRequest.RegistersClient (sampleEnvironment true) listening ⟨2⟩ ⟨1⟩ ∧
      ¬ForwardsExactly (sampleEnvironment true) ⟨2⟩ listening
        [⟨[],requestText registerClientRequest ++ newline :: ascii "hello"⟩]
        (requestText registerClientRequest) (ascii "hello") ⟨1⟩) ∧
    heard (sampleEnvironment true) ⟨2⟩ listening
        [⟨[],requestText registerClientRequest ++ newline :: ascii "\x7b\x7d"⟩] =
      [requestText registerClientRequest,ascii "\x7b\x7d"] := by
  refine ⟨⟨listening_waiting,clientRequest_registers,?_⟩,by decide +kernel⟩
  rintro ⟨⟨x,-,hx⟩,-⟩
  have hnone : heard (sampleEnvironment true) ⟨2⟩ listening
      [⟨[],requestText registerClientRequest ++ newline :: ascii "hello"⟩] = [] := by decide +kernel
  rw [hnone] at hx
  simp at hx

end Sample

end RemoteProxy.TunnelProxyServer
