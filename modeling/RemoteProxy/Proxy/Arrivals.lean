import RemoteProxy.Proxy.Framing

namespace RemoteProxy.TunnelProxyServer

open JsonPackets

/-- A chunk of a connection's stream, with what happens at the proxy before it arrives. -/
structure Arrival where
  others : List Event
  chunk : QByteArray

def bytes (arrivals : List Arrival) : QByteArray := arrivals.flatMap Arrival.chunk

/-- What the proxy goes by when a chunk of `o` arrives, where `uuids` are those it looks up. -/
structure Standing where
  known : Option ObjectId
  listed : Bool
  m_type : ClientType
  m_uuid : QUuid
  m_dataBuffer : QByteArray
  m_killConnectionRequested : Bool
  m_slipAfterResponseEnabled : Bool
  m_slipEnabled : Bool
  servers : List (Option ObjectId)
  clients : List (Option ObjectId)
  link : Option (ObjectId × ObjectId × UInt16)
  deriving DecidableEq

def standing (s : TunnelProxyServer) (o : ObjectId) (uuids : List QUuid) : Standing where
  known := s.m_proxyClients.value o
  listed := s.m_clients.contains o
  m_type := (s.client o).m_type
  m_uuid := (s.client o).m_uuid
  m_dataBuffer := (s.client o).m_dataBuffer
  m_killConnectionRequested := (s.client o).m_killConnectionRequested
  m_slipAfterResponseEnabled := (s.client o).m_slipAfterResponseEnabled
  m_slipEnabled := (s.client o).m_slipEnabled
  servers := uuids.map s.m_tunnelProxyServerConnections.value
  clients := uuids.map s.m_tunnelProxyClientConnections.value
  link := (s.clientConnection o).m_serverConnection.map fun server =>
    (server,(s.serverConnection server).m_transportClient,(s.clientConnection o).m_socketAddress)

/-- A connection that has not registered, with `b` in its buffer. -/
structure Waiting (s : TunnelProxyServer) (o : ObjectId) (b : QByteArray) : Prop where
  known : s.m_proxyClients.value o = some o
  listed : s.m_clients.contains o = true
  unregistered : (s.client o).m_type = .TypeNone
  buffer : (s.client o).m_dataBuffer = b
  unkilled : (s.client o).m_killConnectionRequested = false
  unannounced : (s.client o).m_slipAfterResponseEnabled = false
  plain : (s.client o).m_slipEnabled = false

instance (s : TunnelProxyServer) (o : ObjectId) (b : QByteArray) : Decidable (Waiting s o b) :=
  decidable_of_iff (s.m_proxyClients.value o = some o ∧ s.m_clients.contains o = true ∧
      (s.client o).m_type = .TypeNone ∧ (s.client o).m_dataBuffer = b ∧
      (s.client o).m_killConnectionRequested = false ∧
      (s.client o).m_slipAfterResponseEnabled = false ∧ (s.client o).m_slipEnabled = false)
    ⟨fun ⟨h1,h2,h3,h4,h5,h6,h7⟩ => ⟨h1,h2,h3,h4,h5,h6,h7⟩,
      fun ⟨h1,h2,h3,h4,h5,h6,h7⟩ => ⟨h1,h2,h3,h4,h5,h6,h7⟩⟩

def Item.packet? : Item → Option QByteArray
  | .packet data => some data
  | _ => none

def Item.frame? : Item → Option SlipDataProcessor.Frame
  | .frame f => some f
  | _ => none

def Output.tunnelled : Output → Bool
  | .sent _ (.tunnelData _ _ _) _ => true
  | _ => false

section Run

variable (env : Environment) (o : ObjectId)

def before (s : TunnelProxyServer) (a : Arrival) : TunnelProxyServer := s.run env a.others

def arrive (s : TunnelProxyServer) (a : Arrival) : TunnelProxyServer :=
  (s.before env a).step env (.dataAvailable o a.chunk)

def arrived (s : TunnelProxyServer) (arrivals : List Arrival) : TunnelProxyServer :=
  arrivals.foldl (arrive env o) s

def LeftAlone (uuids : List QUuid) : TunnelProxyServer → List Arrival → Prop
  | _, [] => True
  | s, a :: arrivals =>
    (s.before env a).standing o uuids = s.standing o uuids ∧
      LeftAlone uuids (arrive env o s a) arrivals

def along {α : Type} (f : TunnelProxyServer → QByteArray → List α) :
    TunnelProxyServer → List Arrival → List α
  | _, [] => []
  | s, a :: arrivals => f (s.before env a) a.chunk ++ along f (arrive env o s a) arrivals

def taken (s : TunnelProxyServer) (data : QByteArray) : List Item :=
  if s.m_proxyClients.value o = some o then (s.received o data).items o data else []

def heard : TunnelProxyServer → List Arrival → List QByteArray :=
  along env o fun s data => (taken o s data).filterMap Item.packet?

def framesRead : TunnelProxyServer → List Arrival → List SlipDataProcessor.Frame :=
  along env o fun s data => (taken o s data).filterMap Item.frame?

def forwarded : TunnelProxyServer → List Arrival → List Output :=
  along env o fun s data =>
    (((s.step env (.dataAvailable o data)).output.drop s.output.length).filter Output.tunnelled)

/-- None of these chunks ends behind what is taken for a packet, and none leaves too many bytes in
the buffer, unless the kill this brings is reported later. -/
def Calm : TunnelProxyServer → QByteArray → List Arrival → Prop
  | _, _, [] => True
  | s, b, a :: arrivals =>
    Pending (b ++ a.chunk) ∧
      (1024 * 10 < (b ++ a.chunk).length →
        env.reportsAtOnce (s.before env a).killCount = false) ∧
      Calm (arrive env o s a) (b ++ a.chunk) arrivals

end Run

variable {env : Environment} {o : ObjectId} {uuids : List QUuid} {s t : TunnelProxyServer}
  {b : QByteArray}

@[simp] theorem bytes_nil : bytes [] = [] := rfl

@[simp] theorem bytes_cons (a : Arrival) (arrivals : List Arrival) :
    bytes (a :: arrivals) = a.chunk ++ bytes arrivals := rfl

@[simp] theorem bytes_append (xs ys : List Arrival) : bytes (xs ++ ys) = bytes xs ++ bytes ys :=
  List.flatMap_append

theorem arrived_append (s : TunnelProxyServer) (xs ys : List Arrival) :
    arrived env o s (xs ++ ys) = arrived env o (arrived env o s xs) ys := List.foldl_append

theorem along_append {α : Type} (f : TunnelProxyServer → QByteArray → List α)
    (s : TunnelProxyServer) (xs ys : List Arrival) :
    along env o f s (xs ++ ys) = along env o f s xs ++ along env o f (arrived env o s xs) ys := by
  induction xs generalizing s with
  | nil => rfl
  | cons a xs ih =>
    rw [List.cons_append,along,along,ih,List.append_assoc]
    rfl

theorem heard_cons (s : TunnelProxyServer) (a : Arrival) (arrivals : List Arrival) :
    heard env o s (a :: arrivals) =
      (taken o (s.before env a) a.chunk).filterMap Item.packet? ++
        heard env o (arrive env o s a) arrivals := rfl

theorem framesRead_cons (s : TunnelProxyServer) (a : Arrival) (arrivals : List Arrival) :
    framesRead env o s (a :: arrivals) =
      (taken o (s.before env a) a.chunk).filterMap Item.frame? ++
        framesRead env o (arrive env o s a) arrivals := rfl

theorem forwarded_cons (s : TunnelProxyServer) (a : Arrival) (arrivals : List Arrival)
    {new : List Output} (h : (arrive env o s a).output = (s.before env a).output ++ new) :
    forwarded env o s (a :: arrivals) =
      new.filter Output.tunnelled ++ forwarded env o (arrive env o s a) arrivals := by
  have hdrop : (arrive env o s a).output.drop (s.before env a).output.length = new := by
    rw [h,List.drop_left]
  exact congrArg (fun l => l.filter Output.tunnelled ++ _) hdrop

theorem heard_append (s : TunnelProxyServer) (xs ys : List Arrival) :
    heard env o s (xs ++ ys) = heard env o s xs ++ heard env o (arrived env o s xs) ys :=
  along_append _ s xs ys

theorem framesRead_append (s : TunnelProxyServer) (xs ys : List Arrival) :
    framesRead env o s (xs ++ ys) =
      framesRead env o s xs ++ framesRead env o (arrived env o s xs) ys :=
  along_append _ s xs ys

theorem forwarded_append (s : TunnelProxyServer) (xs ys : List Arrival) :
    forwarded env o s (xs ++ ys) =
      forwarded env o s xs ++ forwarded env o (arrived env o s xs) ys :=
  along_append _ s xs ys

theorem LeftAlone.append {xs ys : List Arrival} (h : LeftAlone env o uuids s (xs ++ ys)) :
    LeftAlone env o uuids s xs ∧ LeftAlone env o uuids (arrived env o s xs) ys := by
  induction xs generalizing s with
  | nil => exact ⟨trivial,h⟩
  | cons a xs ih =>
    obtain ⟨hx,hy⟩ := ih h.2
    exact ⟨⟨h.1,hx⟩,hy⟩

section Standing

theorem Waiting.congr {b' : QByteArray} (hw : Waiting s o b)
    (h : t.standing o uuids = { s.standing o uuids with m_dataBuffer := b' }) :
    Waiting t o b' := by
  simp only [standing,Standing.mk.injEq] at h
  obtain ⟨h1,h2,h3,-,h5,h6,h7,h8,-⟩ := h
  exact ⟨h1.trans hw.known,h2.trans hw.listed,h3.trans hw.unregistered,h5,h6.trans hw.unkilled,
    h7.trans hw.unannounced,h8.trans hw.plain⟩

theorem standing_received (s : TunnelProxyServer) (o : ObjectId) (data : QByteArray)
    (uuids : List QUuid) : (s.received o data).standing o uuids = s.standing o uuids := by
  rw [received,addRxDataCount_eq]
  simp [standing]

theorem registerClient_rest (s : TunnelProxyServer) :
    (JsonRpcServer.registerClient s o).client = s.client ∧
      (JsonRpcServer.registerClient s o).m_proxyClients = s.m_proxyClients ∧
      (JsonRpcServer.registerClient s o).m_clients.contains o = true := by
  unfold JsonRpcServer.registerClient
  split
  · next h => exact ⟨rfl,rfl,h⟩
  · exact ⟨rfl,rfl,by simp⟩

theorem connected_waiting (h : Reachable env s) {address : String} (hfresh : o ∉ s.clientIds) :
    Waiting (s.step env (.clientConnected o address)) o [] := by
  have hc := reachable_consistent h
  have hnone : s.m_proxyClients.value o = none := by
    refine Option.eq_none_iff_forall_ne_some.mpr fun x hx => hfresh ?_
    have hx' := hc.named o x hx
    subst hx'
    exact hc.announced x (.inl hx)
  have hcontains : s.m_proxyClients.contains o = false := by
    rw [QHash.contains_eq_false]
    exact hnone
  simp only [step,onClientConnected,hcontains]
  obtain ⟨hclient,hproxy,hlisted⟩ := registerClient_rest (o := o)
    { ({ s with clientIds := o :: s.clientIds } : TunnelProxyServer).setClient o
        (TunnelProxyClient.new address env.inactiveTimeout s.now) with
      m_proxyClients := s.m_proxyClients.insert o o }
  refine ⟨?_,hlisted,?_,?_,?_,?_,?_⟩
  · exact (congrArg (QHash.value · o) hproxy).trans (by simp [QHash.value_insert])
  all_goals
    refine (congrArg _ (congrFun hclient o)).trans ?_
    rw [setClient_client,Function.update_self]
    rfl

end Standing

section Waiting

/-- The state in which the first packet of a chunk of a waiting connection is handled. -/
def cutUp (s : TunnelProxyServer) (o : ObjectId) (data : QByteArray) : TunnelProxyServer :=
  (s.received o data).setClient o (((s.received o data).client o).processData data).1

theorem Waiting.received (hw : Waiting s o b) (data : QByteArray) :
    Waiting (s.received o data) o b :=
  hw.congr (t := s.received o data) <| by
    have hstanding := standing_received s o data []
    rw [hstanding,standing,hw.buffer]

theorem Waiting.processData (hw : Waiting s o b) (data : QByteArray) :
    ((s.client o).processData data).1 = { s.client o with m_dataBuffer := (cut (b ++ data)).1 } ∧
      ((s.client o).processData data).2 = (cut (b ++ data)).2 := by
  have hjson : TunnelProxyClient.processJson (s.client o).m_dataBuffer data = cut (b ++ data) := by
    rw [hw.buffer]
    rfl
  simp only [TunnelProxyClient.processData,hw.plain,hjson]
  exact ⟨rfl,rfl⟩

theorem Waiting.cutUp_standing (hw : Waiting s o b) (data : QByteArray) :
    (s.cutUp o data).standing o uuids =
      { s.standing o uuids with m_dataBuffer := (cut (b ++ data)).1 } := by
  rw [cutUp,((hw.received data).processData data).1,← standing_received s o data uuids]
  simp [standing]

theorem Waiting.cutUp (hw : Waiting s o b) (data : QByteArray) :
    Waiting (s.cutUp o data) o (cut (b ++ data)).1 :=
  have hstanding : (s.cutUp o data).standing o [] =
      { s.standing o [] with m_dataBuffer := (cut (b ++ data)).1 } := hw.cutUp_standing data
  hw.congr hstanding

theorem Waiting.overflows (hw : Waiting s o b) (data : QByteArray) :
    s.overflows o data = decide (1024 * 10 < (cut (b ++ data)).1.length) := by
  rw [TunnelProxyServer.overflows,(hw.processData data).1]
  rfl

theorem Waiting.dataAvailable (env : Environment) (hw : Waiting s o b) (data : QByteArray) :
    s.step env (.dataAvailable o data) =
      if 1024 * 10 < (cut (b ++ data)).1.length then
        killConnection env (s.cutUp o data) o "Data buffer size violation."
      else (cut (b ++ data)).2.foldl
        (fun s packet => JsonRpcServer.processDataPacket env s o packet) (s.cutUp o data) := by
  have hr := hw.received data
  have hnone : ((s.received o data).client o).m_type ≠ .TypeClient := by
    rw [hr.unregistered]
    decide
  have hframed : (s.received o data).framed o = false := by simp [framed,hr.unregistered]
  rw [step,onClientDataAvailable_eq env hw.known,← processData_items env hnone hframed,
    processData_eq,hr.listed,hr.overflows,(hr.processData data).2,List.foldl_map]
  simp only [Bool.not_true,Bool.false_eq_true,if_false,decide_eq_true_eq]
  rfl

theorem Waiting.taken (hw : Waiting s o b) (data : QByteArray) :
    taken o s data =
      if 1024 * 10 < (cut (b ++ data)).1.length then [] else (cut (b ++ data)).2.map .packet := by
  have hr := hw.received data
  rw [TunnelProxyServer.taken,if_pos hw.known,items,framed,hr.unregistered,hr.listed,hr.overflows,
    (hr.processData data).2]
  simp

theorem Waiting.silent (env : Environment) (uuids : List QUuid) (hw : Waiting s o b)
    {data : QByteArray}
    (h : (cut (b ++ data)).2 = [] ∨ 1024 * 10 < (cut (b ++ data)).1.length) :
    ((s.step env (.dataAvailable o data)).m_proxyClients.value o = none ∧
        1024 * 10 < (cut (b ++ data)).1.length ∧ env.reportsAtOnce s.killCount = true) ∨
      ((1024 * 10 < (cut (b ++ data)).1.length → env.reportsAtOnce s.killCount = false) ∧
        (s.step env (.dataAvailable o data)).standing o uuids =
          { s.standing o uuids with m_dataBuffer := (cut (b ++ data)).1 } ∧
        ∃ new, (s.step env (.dataAvailable o data)).output = s.output ++ new ∧
          new.filter Output.tunnelled = []) := by
  rw [hw.dataAvailable]
  by_cases hlong : 1024 * 10 < (cut (b ++ data)).1.length
  · rw [if_pos hlong]
    cases honce : env.reportsAtOnce s.killCount with
    | true => exact .inl ⟨killConnection_gone env (s.cutUp o data) o _ honce,hlong,rfl⟩
    | false =>
      refine .inr ⟨fun _ => rfl,?_⟩
      have hlater : env.reportsAtOnce (s.cutUp o data).killCount = false := honce
      rw [killConnection,killConnectionWith,hlater]
      exact ⟨hw.cutUp_standing data,[.killed o "Data buffer size violation."],rfl,rfl⟩
  · rw [if_neg hlong,h.resolve_right hlong]
    exact .inr ⟨fun hl => absurd hl hlong,hw.cutUp_standing data,[],(List.append_nil _).symm,rfl⟩

end Waiting

section Before

theorem gone_along {α : Type} {f : TunnelProxyServer → QByteArray → List α}
    (hf : ∀ t data, t.m_proxyClients.value o = none → f t data = []) {arrivals : List Arrival}
    (hgone : s.m_proxyClients.value o = none) (hu : LeftAlone env o uuids s arrivals) :
    along env o f s arrivals = [] := by
  induction arrivals generalizing s with
  | nil => rfl
  | cons a arrivals ih =>
    have hbefore : (s.before env a).m_proxyClients.value o = none :=
      (congrArg Standing.known hu.1).trans hgone
    have hstep : arrive env o s a = s.before env a := by
      simp only [arrive,step,onClientDataAvailable,hbefore]
    rw [along,hf _ _ hbefore,List.nil_append]
    exact ih (by rw [hstep]; exact hbefore) hu.2

theorem gone_taken (t : TunnelProxyServer) (data : QByteArray)
    (h : t.m_proxyClients.value o = none) : taken o t data = [] := by
  simp [taken,h]

theorem gone_heard {arrivals : List Arrival} (hgone : s.m_proxyClients.value o = none)
    (hu : LeftAlone env o uuids s arrivals) : heard env o s arrivals = [] :=
  gone_along (fun t data ht => by rw [gone_taken t data ht]; rfl) hgone hu

/-- What has been read and sent before the request is handed on: nothing. -/
structure Unheard (env : Environment) (o : ObjectId) (uuids : List QUuid) (s : TunnelProxyServer)
    (arrivals : List Arrival) (b : QByteArray) : Prop where
  standing : (arrived env o s arrivals).standing o uuids =
    { s.standing o uuids with m_dataBuffer := b }
  heard : heard env o s arrivals = []
  framesRead : framesRead env o s arrivals = []
  forwarded : forwarded env o s arrivals = []

theorem Unheard.nil (hw : Waiting s o b) : Unheard env o uuids s [] b :=
  ⟨by rw [← hw.buffer]; rfl,rfl,rfl,rfl⟩

theorem Unheard.cons {a : Arrival} {arrivals : List Arrival} {b' : QByteArray}
    (hbefore : (s.before env a).standing o uuids = s.standing o uuids)
    (hstep : (arrive env o s a).standing o uuids =
      { (s.before env a).standing o uuids with m_dataBuffer := b' })
    (htaken : taken o (s.before env a) a.chunk = [])
    (hout : ∃ new, (arrive env o s a).output = (s.before env a).output ++ new ∧
      new.filter Output.tunnelled = [])
    (h : Unheard env o uuids (arrive env o s a) arrivals b) :
    Unheard env o uuids s (a :: arrivals) b := by
  obtain ⟨new,hnew,hq⟩ := hout
  refine ⟨?_,?_,?_,?_⟩
  · apply h.standing.trans
    rw [hstep,hbefore]
  · rw [heard_cons,h.heard,htaken]
    rfl
  · rw [framesRead_cons,h.framesRead,htaken]
    rfl
  · rw [forwarded_cons s a arrivals hnew,h.forwarded,hq]
    rfl

theorem unheard_of_calm {arrivals : List Arrival} (hw : Waiting s o b)
    (hu : LeftAlone env o uuids s arrivals) (hc : Calm env o s b arrivals) :
    Unheard env o uuids s arrivals (b ++ bytes arrivals) := by
  induction arrivals generalizing s b with
  | nil =>
    rw [bytes_nil,List.append_nil]
    exact Unheard.nil hw
  | cons a arrivals ih =>
    obtain ⟨hpending,hlate,hc⟩ := hc
    have hcut := cut_of_pending hpending
    have hwait : Waiting (s.before env a) o b :=
      hw.congr (hu.1.trans (by rw [← hw.buffer]; rfl))
    have hnone : (cut (b ++ a.chunk)).2 = [] := by rw [hcut]
    rcases hwait.silent env uuids (.inl hnone) with
      ⟨-,hlong,honce⟩ | ⟨-,hstep,hout⟩
    · rw [hcut] at hlong
      rw [hlate hlong] at honce
      exact absurd honce (by decide)
    · rw [hcut] at hstep
      have htaken : taken o (s.before env a) a.chunk = [] := by
        rw [hwait.taken,hnone]
        simp
      have hrest := ih (hwait.congr hstep) hu.2 hc
      rw [List.append_assoc] at hrest
      exact Unheard.cons hu.1 hstep htaken hout hrest

/-- The chunk with which the one packet `x` is handed on, and what is left behind it. -/
structure HandsOn (env : Environment) (o : ObjectId) (uuids : List QUuid) (s : TunnelProxyServer)
    (b : QByteArray) (x w : QByteArray) (pre : List Arrival) (a : Arrival) : Prop where
  unheard : ∃ b', Unheard env o uuids s pre b' ∧ cut (b' ++ a.chunk) = (w,[x]) ∧
    b' <:+ b ++ bytes pre ∧ (b' = b ++ bytes pre → Calm env o s b pre)
  room : w.length ≤ 1024 * 10

theorem handsOn_of_heard {arrivals : List Arrival} {x : QByteArray} (hw : Waiting s o b)
    (hu : LeftAlone env o uuids s arrivals) (hh : heard env o s arrivals = [x]) :
    ∃ pre a post w, arrivals = pre ++ a :: post ∧ HandsOn env o uuids s b x w pre a := by
  induction arrivals generalizing s b with
  | nil => simp [heard,along] at hh
  | cons a arrivals ih =>
    have hwait : Waiting (s.before env a) o b :=
      hw.congr (hu.1.trans (by rw [← hw.buffer]; rfl))
    by_cases hsilent : (cut (b ++ a.chunk)).2 = [] ∨ 1024 * 10 < (cut (b ++ a.chunk)).1.length
    · have htaken : taken o (s.before env a) a.chunk = [] := by
        rw [hwait.taken]
        split
        · rfl
        · next hlong => rw [hsilent.resolve_right hlong,List.map_nil]
      have hrest : heard env o (arrive env o s a) arrivals = [x] := by
        rw [heard_cons,htaken] at hh
        exact hh
      rcases hwait.silent env uuids hsilent with
        ⟨hgone,-⟩ | ⟨hlate,hstep,hout⟩
      · rw [gone_heard (s := arrive env o s a) hgone hu.2] at hrest
        simp at hrest
      · obtain ⟨pre,a',post,w,rfl,⟨b',hun,hcut,hsuf,hcalm⟩,hroom⟩ :=
          ih (hwait.congr hstep) hu.2 hrest
        refine ⟨a :: pre,a',post,w,rfl,⟨b',Unheard.cons hu.1 hstep htaken hout hun,hcut,?_,?_⟩,hroom⟩
        · apply hsuf.trans
          rw [bytes_cons,← List.append_assoc,List.suffix_append_self_iff]
          exact cut_suffix _
        · intro he
          have hkept : (cut (b ++ a.chunk)).1 = b ++ a.chunk := by
            refine (cut_suffix _).eq_of_length_le ?_
            have hle := hsuf.length_le
            rw [he,bytes_cons] at hle
            simp only [List.length_append] at hle ⊢
            omega
          rw [hkept] at hcalm hlate
          refine ⟨pending_of_kept hkept,hlate,hcalm ?_⟩
          rw [he,bytes_cons,List.append_assoc]
    · rw [not_or,not_lt] at hsilent
      obtain ⟨hsome,hroom⟩ := hsilent
      refine ⟨[],a,arrivals,(cut (b ++ a.chunk)).1,rfl,
        ⟨b,Unheard.nil hw,?_,by simp,fun _ => trivial⟩,hroom⟩
      have hpackets : (cut (b ++ a.chunk)).2 = [x] := by
        rw [heard_cons,hwait.taken,if_neg (not_lt.mpr hroom),List.filterMap_map] at hh
        have hid : Item.packet? ∘ Item.packet = some := rfl
        rw [hid,List.filterMap_some] at hh
        match hp : (cut (b ++ a.chunk)).2,hsome with
        | [y],_ =>
          rw [hp] at hh
          rw [(List.cons.inj hh).1]
        | y :: z :: more,_ =>
          rw [hp] at hh
          simp at hh
      exact Prod.ext rfl hpackets

end Before

end RemoteProxy.TunnelProxyServer
