import RemoteProxy.Common.JsonObjects
import RemoteProxy.Proxy.Description
import RemoteProxy.Proxy.Isolation
import RemoteProxy.Proxy.Registered

namespace RemoteProxy.TunnelProxyServer

open JsonPackets JsonTypes

section Visitors

def visitorParams (i : Nat) : QVariantMap :=
  [("clientName",.string "visitor"),("clientUuid",.string (uuidText (i + 6))),
    ("serverUuid",.string (uuidText 5))]

def visitorRequest (i : Nat) : QVariantMap :=
  [("id",.ofNat 0),("method",.string "TunnelProxy.RegisterClient"),
    ("params",.map (visitorParams i))]

def crowdEnvironment : Environment :=
  { sampleEnvironment true with
    toQt := Qt.onDocuments (registerServerRequest :: (List.range 100).map visitorRequest) }

def visitorLine (i : Nat) : QByteArray := crowdEnvironment.toJson (visitorRequest i)

/-- The texts of the request before the uuid of the client and behind it, but for the last brace. -/
def visitorLead : QByteArray :=
  ascii "\x7b" ++ (QJsonDocument.quoted "id" ++ (ascii ":" ++
    (QJsonDocument.toJson (.ofNat 0) ++ (ascii "," ++ (QJsonDocument.quoted "method" ++
      (ascii ":" ++ (QJsonDocument.quoted "TunnelProxy.RegisterClient" ++ (ascii "," ++
        (QJsonDocument.quoted "params" ++ (ascii ":" ++ (ascii "\x7b" ++
          (QJsonDocument.quoted "clientName" ++ (ascii ":" ++ (QJsonDocument.quoted "visitor" ++
            (ascii "," ++ (QJsonDocument.quoted "clientUuid" ++
              (ascii ":" ++ ascii "\"")))))))))))))))))

def visitorTail : QByteArray :=
  ascii "\"" ++ (ascii "," ++ (QJsonDocument.quoted "serverUuid" ++ (ascii ":" ++
    (QJsonDocument.quoted (uuidText 5) ++ ascii "\x7d"))))

theorem visitorLine_eq (i : Nat) :
    visitorLine i = visitorLead ++ (ascii (uuidText (i + 6)) ++ (visitorTail ++ [closing])) := by
  change QJsonDocument.toJson (.map (visitorRequest i)) = _
  rw [visitorRequest,visitorParams,visitorLead,visitorTail]
  generalize uuidText (i + 6) = clientUuid
  have hquoted : QJsonDocument.quoted clientUuid =
      ascii "\"" ++ (ascii clientUuid ++ ascii "\"") := List.append_assoc _ _ _
  have hmethod : QJsonDocument.keyLe "id" "method" = true := by decide
  have hparams : QJsonDocument.keyLe "method" "params" = true := by decide
  have hclient : QJsonDocument.keyLe "clientName" "clientUuid" = true := by decide
  have hserver : QJsonDocument.keyLe "clientUuid" "serverUuid" = true := by decide
  have hbrace : [closing] = ascii "\x7d" := by decide
  simp only [QJsonDocument.toJson,QJsonDocument.toJsonEntries,QJsonDocument.object,List.foldr,
    QJsonDocument.insertEntry,hmethod,hparams,hclient,hserver,if_pos,List.map,QJsonDocument.joined,
    hquoted,hbrace,List.append_assoc]

theorem visitorLine_inj {i j : Nat} (h : visitorLine i = visitorLine j) : i = j := by
  rw [visitorLine_eq,visitorLine_eq] at h
  have htext := congrArg (List.map fun x : UInt8 => Char.ofNat x.toNat)
    (List.append_cancel_right (List.append_cancel_left h))
  rw [chars_ascii (uuidText_printable _),chars_ascii (uuidText_printable _)] at htext
  have huuid := congrArg uuidOf (String.toList_inj.mp htext)
  rw [uuidOf_uuidText,uuidOf_uuidText] at huuid
  exact Nat.add_right_cancel (congrArg QUuid.toNat huuid)

theorem visitorParams_valid (i : Nat) :
    (tunnelProxyHandler.validateParams crowdEnvironment.toQt "RegisterClient"
      (visitorParams i)).1 = true := by
  have hstring : ∀ s, (validateVariant crowdEnvironment.toQt (JsonHandler.basic .String)
      (.string s)).1 = true := string_valid ⟨fun _ => rfl,fun _ => rfl,fun _ => rfl,fun _ => rfl⟩
  have huuid : ∀ s, (validateVariant crowdEnvironment.toQt (JsonHandler.basic .Uuid)
      (.string s)).1 = true := fun s => validateVariant_basic (by decide) rfl
  have htemplate : tunnelProxyHandler.m_params.lookup "RegisterClient" =
      some [("clientName",JsonHandler.basic .String),("clientUuid",JsonHandler.basic .Uuid),
        ("serverUuid",JsonHandler.basic .Uuid)] := rfl
  rw [JsonHandler.validateParams,htemplate,Option.getD_some]
  refine validateMap_of_matches ?_ (by simp [visitorParams,QVariantMap.keys])
  exact .cons ⟨rfl,by decide,hstring _⟩ (.cons ⟨rfl,by decide,huuid _⟩
    (.cons ⟨rfl,by decide,huuid _⟩ .nil))

theorem newline_not_mem_visitorLine (i : Nat) : newline ∉ visitorLine i := by
  have hlead : newline ∉ visitorLead := by decide +kernel
  have htail : newline ∉ visitorTail := by decide +kernel
  have htext : newline ∉ ascii (uuidText (i + 6)) := by
    intro hn
    obtain ⟨c,hc,he⟩ := List.mem_map.mp hn
    have hprintable := uuidText_printable _ c hc
    have hten : c.toNat = 10 := (printable_toNat hprintable).symm.trans (congrArg UInt8.toNat he)
    exact absurd hprintable.1 (by omega)
  have hbrace : newline ∉ [closing] := by decide
  rw [visitorLine_eq]
  simp only [List.mem_append,hlead,htext,htail,hbrace,or_self,not_false_eq_true]

theorem visitor_found {i : Nat} (hi : i < 100) :
    (registerServerRequest :: (List.range 100).map visitorRequest).find?
      (fun m => QJsonDocument.toJson (.map m) == visitorLine i) = some (visitorRequest i) := by
  have hserver : (QJsonDocument.toJson (.map registerServerRequest) == visitorLine i) = false := by
    rw [beq_eq_false_iff_ne]
    intro he
    have htake := congrArg (List.take visitorLead.length) he
    rw [visitorLine_eq,List.take_left] at htake
    exact absurd htake (by decide +kernel)
  rw [List.find?_cons_of_neg (by simp [hserver]),List.find?_map]
  have hfirst : (List.range 100).find?
      ((fun m => QJsonDocument.toJson (.map m) == visitorLine i) ∘ visitorRequest) = some i := by
    rw [List.find?_range_eq_some]
    refine ⟨beq_self_eq_true (visitorLine i),List.mem_range.mpr hi,fun j hj => ?_⟩
    have hne : (visitorLine j == visitorLine i) = false :=
      beq_eq_false_iff_ne.mpr fun he => hj.ne (visitorLine_inj he)
    exact (congrArg Bool.not hne).trans rfl
  rw [hfirst]
  rfl

theorem visitor_request {i : Nat} (hi : i < 100) {x : QByteArray}
    (hx : x.filter (· != 0x0A) = visitorLine i) :
    JsonRpcServer.request crowdEnvironment x =
      some ⟨0,"TunnelProxy","RegisterClient",tunnelProxyHandler,visitorParams i⟩ := by
  have hjson : crowdEnvironment.fromJson x = .ok (.map (visitorRequest i)) := by
    simp only [crowdEnvironment,Qt.onDocuments,hx,visitor_found hi]
  have hid : crowdEnvironment.toInt ((QVariant.map (visitorRequest i)).toMap.value "id") =
      some 0 := rfl
  have hname : crowdEnvironment.toString ((QVariant.map (visitorRequest i)).toMap.value "method") =
      "TunnelProxy.RegisterClient" := rfl
  have hsplit : QString.split '.' "TunnelProxy.RegisterClient" =
      ["TunnelProxy","RegisterClient"] := by
    have hparts : "TunnelProxy.RegisterClient".toList.splitOn '.' =
        ["TunnelProxy".toList,"RegisterClient".toList] := by decide +kernel
    simp only [QString.split,hparts,List.map,String.ofList_toList]
  have hparams : ((QVariant.map (visitorRequest i)).toMap.value "params").toMap =
      visitorParams i := rfl
  have hhandler : m_handlers.lookup "TunnelProxy" = some tunnelProxyHandler := rfl
  have hmethod : tunnelProxyHandler.hasMethod "RegisterClient" = true := by decide +kernel
  simp only [JsonRpcServer.request,hjson,hid,hname,hsplit,hparams,hhandler,hmethod,visitorParams_valid]
  rfl

theorem visitorLine_filter (i : Nat) :
    (visitorLine i ++ [newline]).filter (· != 0x0A) = visitorLine i := by
  have hkept : (visitorLine i).filter (· != 0x0A) = visitorLine i := by
    refine List.filter_eq_self.mpr fun x hx => bne_iff_ne.mpr ?_
    rintro rfl
    exact newline_not_mem_visitorLine i hx
  rw [List.filter_append,hkept]
  exact List.append_nil _

theorem visitorLine_cut (i : Nat) :
    cut (visitorLine i ++ [newline]) = ([],[visitorLine i ++ [newline]]) := by
  have hsep : ¬separator <:+: visitorLine i ++ [newline] := fun h =>
    newline_not_mem_visitorLine i ((separator_infix_concat h).subset (by simp))
  have hends : endsPacket (visitorLine i ++ [newline]) = true := by
    have hsuffix : [closing,newline] <:+ visitorLine i ++ [newline] :=
      ⟨visitorLead ++ (ascii (uuidText (i + 6)) ++ visitorTail),by
        simp [visitorLine_eq,List.append_assoc]⟩
    rw [endsPacket,(QByteArray.endsWith_iff _ _).mpr hsuffix,Bool.true_or]
  rw [cut_none hsep,hends]
  rfl

theorem visitor_clientUuid (i : Nat) :
    crowdEnvironment.toUuid ((visitorParams i).value "clientUuid") = ⟨i + 6⟩ := by
  have hvalue : (visitorParams i).value "clientUuid" = .string (uuidText (i + 6)) := rfl
  have hread : ∀ text, crowdEnvironment.toUuid (.string text) = uuidOf text := fun _ => rfl
  rw [hvalue,hread,uuidOf_uuidText]

theorem visitor_serverUuid (i : Nat) :
    crowdEnvironment.toUuid ((visitorParams i).value "serverUuid") = ⟨5⟩ := by
  have hvalue : (visitorParams i).value "serverUuid" = .string (uuidText 5) := rfl
  have hread : ∀ text, crowdEnvironment.toUuid (.string text) = uuidOf text := fun _ => rfl
  rw [hvalue,hread,uuidOf_uuidText]

end Visitors

section Crowd

/-- The only server has given away `n` addresses, and clients hold the first `k`. -/
structure Crowd (k n : Nat) (s : TunnelProxyServer) : Prop where
  registered : ∀ u, s.m_tunnelProxyServerConnections.value u = if u = ⟨5⟩ then some ⟨1⟩ else none
  limit : (s.serverConnection ⟨1⟩).m_connectionLimit = 100
  counter : (s.serverConnection ⟨1⟩).m_currentAddressCounter = UInt16.ofNat n
  held : ∀ a, (s.serverConnection ⟨1⟩).getClientConnection a =
    if a = 0 ∨ k < a.toNat then none else some ⟨a.toNat + 1⟩
  named : ∀ i, k ≤ i → s.m_tunnelProxyClientConnections.value ⟨i + 6⟩ = none

variable {k n i : Nat} {s t : TunnelProxyServer} {o : ObjectId} {b : QByteArray}

theorem Crowd.congr (h : Crowd k n s)
    (hservers : t.m_tunnelProxyServerConnections = s.m_tunnelProxyServerConnections)
    (hclients : t.m_tunnelProxyClientConnections = s.m_tunnelProxyClientConnections)
    (hserver : t.serverConnection = s.serverConnection) : Crowd k n t := by
  refine ⟨?_,?_,?_,?_,?_⟩
  · rw [hservers]
    exact h.registered
  · rw [hserver]
    exact h.limit
  · rw [hserver]
    exact h.counter
  · rw [hserver]
    exact h.held
  · rw [hclients]
    exact h.named

theorem Crowd.same (h : Crowd k n s) (hs : SameRegistry s t) : Crowd k n t :=
  h.congr hs.serverConnections hs.clientConnections hs.serverConnection

theorem Crowd.next (h : Crowd k n s) (hk : k ≤ n) (hn : n < 0xFFFE) :
    (s.serverConnection ⟨1⟩).getFreeAddress.2 = UInt16.ofNat (n + 1) := by
  have hnext : (s.serverConnection ⟨1⟩).m_currentAddressCounter + 1 = UInt16.ofNat (n + 1) := by
    rw [h.counter,UInt16.ofNat_add]
    rfl
  have hnat : (UInt16.ofNat (n + 1)).toNat = n + 1 :=
    UInt16.toNat_ofNat_of_lt (show n + 1 < 65536 by omega)
  have hfree : (s.serverConnection ⟨1⟩).blocked (UInt16.ofNat (n + 1)) = false := by
    refine TunnelProxyServerConnection.blocked_eq_false.mpr ⟨?_,?_,?_⟩
    · rw [h.held]
      exact if_pos (.inr (by omega))
    · intro he
      rw [he] at hnat
      simp at hnat
    · intro he
      rw [he] at hnat
      simp at hnat
      omega
  rw [← hnext] at hfree
  rw [TunnelProxyServerConnection.getFreeAddress_of_free hfree,hnext]

/-- The hundred addresses from 0xFFFF on are in use or reserved, and so is the one behind them. -/
theorem Crowd.last (h : Crowd 99 0xFFFE s) : (s.serverConnection ⟨1⟩).getFreeAddress.2 = 99 := by
  have hcount : (s.serverConnection ⟨1⟩).m_currentAddressCounter + 1 = 0xFFFF := by
    rw [h.counter]
    rfl
  have hblocked : ∀ j < (s.serverConnection ⟨1⟩).m_connectionLimit.toNat,
      (s.serverConnection ⟨1⟩).blocked
        ((s.serverConnection ⟨1⟩).m_currentAddressCounter + 1 + UInt16.ofNat j) = true := by
    intro j hj
    have hj : j < 100 := by simpa [h.limit] using hj
    rw [hcount]
    by_contra hb
    obtain ⟨hnone,hzero,hmax⟩ :=
      TunnelProxyServerConnection.blocked_eq_false.mp (by simpa using hb)
    have h0 : j ≠ 0 := by
      rintro rfl
      exact hmax rfl
    have hnat : ((0xFFFF : UInt16) + UInt16.ofNat j).toNat = j - 1 := by
      rw [UInt16.toNat_add,UInt16.toNat_ofNat']
      simp only [UInt16.reduceToNat,Nat.reducePow]
      omega
    rw [h.held,if_neg (not_or.mpr ⟨hzero,by omega⟩)] at hnone
    cases hnone
  rw [TunnelProxyServerConnection.getFreeAddress_of_blocked hblocked,hcount,h.limit]
  rfl

theorem Crowd.full (h : Crowd 99 0xFFFE s) : ¬AddressFree s ⟨1⟩ := by
  intro hfree
  rw [AddressFree,h.last,h.held,if_neg (by decide)] at hfree
  cases hfree

theorem cutUp_same (hw : Waiting s o b) (data : QByteArray) : SameRegistry s (s.cutUp o data) := by
  refine (received_own (X := o) s data).same.trans ?_
  rw [cutUp,((hw.received data).processData data).1]
  exact SameRegistry.setClient _ rfl rfl

theorem Crowd.registers (h : Crowd k n s) (hw : Waiting s o b) :
    Request.RegistersClient crowdEnvironment s o
      ⟨0,"TunnelProxy","RegisterClient",tunnelProxyHandler,visitorParams k⟩ ⟨1⟩ := by
  have hclient := visitor_clientUuid k
  have hserver := visitor_serverUuid k
  have hne : (⟨k + 6⟩ : QUuid) ≠ ⟨5⟩ := by simp
  refine ⟨⟨rfl,rfl⟩,?_,?_,hw.known,hw.unregistered,?_,?_,?_⟩
  · rw [hserver]
    rfl
  · rw [hclient]
    rfl
  · rw [hclient]
    exact h.named k le_rfl
  · rw [hclient,h.registered,if_neg hne]
  · rw [hserver,h.registered,if_pos rfl]

/-- A visitor of the crowd `s` has been given the next address. -/
structure Joined (k : Nat) (o : ObjectId) (s t : TunnelProxyServer) : Prop where
  servers : t.m_tunnelProxyServerConnections = s.m_tunnelProxyServerConnections
  clients : t.m_tunnelProxyClientConnections = s.m_tunnelProxyClientConnections.insert ⟨k + 6⟩ o
  limit : (t.serverConnection ⟨1⟩).m_connectionLimit = (s.serverConnection ⟨1⟩).m_connectionLimit
  counter : (t.serverConnection ⟨1⟩).m_currentAddressCounter =
    (s.serverConnection ⟨1⟩).m_currentAddressCounter + 1
  found : ∀ a, (t.serverConnection ⟨1⟩).getClientConnection a =
    if a = (s.serverConnection ⟨1⟩).getFreeAddress.2 then some o
    else (s.serverConnection ⟨1⟩).getClientConnection a
  address : (t.clientConnection o).m_socketAddress = (s.serverConnection ⟨1⟩).getFreeAddress.2
  ids : t.clientIds = s.clientIds
  tunnelling : Tunnelling t o ⟨1⟩ ⟨k + 6⟩

theorem Crowd.joins (h : Crowd k n s) (hw : Waiting s o []) (hk : k < 100) : Joined k o s
      (s.step crowdEnvironment (.dataAvailable o (visitorLine k ++ [newline]))) := by
  have hcut := visitorLine_cut k
  have hx := visitor_request hk (visitorLine_filter k)
  have hsame := cutUp_same hw (visitorLine k ++ [newline])
  have hread := hw.cutUp (visitorLine k ++ [newline])
  have hstep : s.step crowdEnvironment (.dataAvailable o (visitorLine k ++ [newline])) =
      JsonRpcServer.processDataPacket crowdEnvironment (s.cutUp o (visitorLine k ++ [newline])) o
        (visitorLine k ++ [newline]) := by
    rw [hw.dataAvailable,List.nil_append,hcut,if_neg (by simp),List.foldl_cons,List.foldl_nil]
  rw [hstep]
  generalize s.cutUp o (visitorLine k ++ [newline]) = u at hsame hread
  have hu := h.same hsame
  have hr := hu.registers hread
  have hclient := visitor_clientUuid k
  have haccepted := (hread.accepted hx hr).same
  have htunnelling := (hread.registersClient hx hr).1
  rw [hclient] at haccepted htunnelling
  generalize JsonRpcServer.processDataPacket crowdEnvironment u o (visitorLine k ++ [newline]) = t
    at haccepted htunnelling
  have hattached : SameRegistry (u.attachClient o ⟨k + 6⟩ "visitor" ⟨1⟩) t :=
    (SameRegistry.sendNotification _ _ _ _ _ _).trans haccepted
  obtain ⟨hservers,hclients⟩ := attachClient_tables (s := u) o ⟨k + 6⟩ "visitor" ⟨1⟩
  have hserver : t.serverConnection ⟨1⟩ = (u.registered o ⟨k + 6⟩ "visitor" ⟨1⟩).1 := by
    rw [hattached.serverConnection,attachClient_serverConnection,Function.update_self]
  refine ⟨?_,?_,?_,?_,?_,?_,?_,htunnelling⟩
  · rw [hattached.serverConnections,hservers,hsame.serverConnections]
  · rw [hattached.clientConnections,hclients,hsame.clientConnections]
  · rw [hserver,← hsame.serverConnection]
    rfl
  · rw [hserver,← hsame.serverConnection]
    rfl
  · intro a
    rw [hserver,← hsame.serverConnection]
    exact TunnelProxyServerConnection.getClientConnection_register _ _ _ _ a
  · rw [hattached.clientConnection,attachClient_clientConnection,Function.update_self,
      ← hsame.serverConnection]
    rfl
  · rw [hattached.clientIds,(attachClient_entered (s := u) o ⟨k + 6⟩ "visitor" ⟨1⟩).clientIds,
      hsame.clientIds]

theorem Crowd.stays (h : Crowd k k s) (hk : k < 99) (hj : Joined k ⟨k + 2⟩ s t) :
    Crowd (k + 1) (k + 1) t := by
  have hnat : (UInt16.ofNat (k + 1)).toNat = k + 1 :=
    UInt16.toNat_ofNat_of_lt (show k + 1 < 65536 by omega)
  refine ⟨hj.servers ▸ h.registered,hj.limit.trans h.limit,?_,fun a => ?_,fun i hi => ?_⟩
  · rw [hj.counter,h.counter,UInt16.ofNat_add]
    rfl
  · rw [hj.found,h.next le_rfl (by omega),h.held]
    by_cases he : a = UInt16.ofNat (k + 1)
    · have hzero : a ≠ 0 := by
        rintro rfl
        rw [← he] at hnat
        exact absurd hnat (by simp)
      rw [if_pos he,if_neg (not_or.mpr ⟨hzero,by rw [he,hnat]; omega⟩),he,hnat]
    · have hother : a.toNat ≠ k + 1 := fun hk => he (by rw [← hk,UInt16.ofNat_toNat])
      have hlarge : k < a.toNat ↔ k + 1 < a.toNat := by omega
      rw [if_neg he]
      simp only [hlarge]
  · have hne : (⟨i + 6⟩ : QUuid) ≠ ⟨k + 6⟩ := by simp; omega
    rw [hj.clients,QHash.value_insert,if_neg hne]
    exact h.named i (by omega)

theorem unregisterClient_tables (s : TunnelProxyServer) (o : ObjectId) :
    (JsonRpcServer.unregisterClient s o).m_tunnelProxyServerConnections =
        s.m_tunnelProxyServerConnections ∧
      (JsonRpcServer.unregisterClient s o).m_tunnelProxyClientConnections =
        s.m_tunnelProxyClientConnections ∧
      (JsonRpcServer.unregisterClient s o).clientIds = s.clientIds := by
  unfold JsonRpcServer.unregisterClient
  split
  · exact ⟨rfl,rfl,rfl⟩
  · exact ⟨rfl,rfl,rfl⟩

theorem Crowd.leaves (h : Crowd 99 n s) (hn : 99 ≤ n) (hn' : n < 0xFFFE) (hj : Joined 99 o s t)
    (hr : Reachable crowdEnvironment t) :
    Crowd 99 (n + 1) (t.step crowdEnvironment (.clientDisconnected o)) ∧
      (t.step crowdEnvironment (.clientDisconnected o)).clientIds = s.clientIds := by
  have hnat : (UInt16.ofNat (n + 1)).toNat = n + 1 :=
    UInt16.toNat_ofNat_of_lt (show n + 1 < 65536 by omega)
  have hleft := clientDisconnected_take crowdEnvironment (reachable_consistent hr)
    hj.tunnelling.known hj.tunnelling.role
  rw [hj.tunnelling.attached] at hleft
  have hstep : t.step crowdEnvironment (.clientDisconnected o) =
      JsonRpcServer.unregisterClient (detachClient crowdEnvironment (t.takeClient o) ⟨1⟩ o) o := by
    rw [step,onClientDisconnected_eq,hj.tunnelling.known]
    have hclient : (t.take o).isClient o := hj.tunnelling.role
    exact (disconnected_client hclient).trans
      (congrArg (fun u => JsonRpcServer.unregisterClient u o) hleft)
  have hsame := detachClient_same crowdEnvironment (t.takeClient o) ⟨1⟩ o
  rw [hstep]
  generalize detachClient crowdEnvironment (t.takeClient o) ⟨1⟩ o = u at hsame
  obtain ⟨hservers,hclients,hids⟩ := unregisterClient_tables u o
  have hheap : (JsonRpcServer.unregisterClient u o).serverConnection ⟨1⟩ =
      ((t.serverConnection ⟨1⟩).unregisterClientConnection (t.clientConnection o)).1 := by
    rw [(unregisterClient_heaps u o).2.1,hsame.serverConnection]
    simp only [unregisterClientConnection,setClientConnection,setServerConnection]
    exact Function.update_self _ _ _
  refine ⟨⟨?_,?_,?_,fun a => ?_,fun i hi => ?_⟩,?_⟩
  · rw [hservers,hsame.serverConnections]
    exact hj.servers ▸ h.registered
  · rw [hheap]
    exact hj.limit.trans h.limit
  · rw [hheap,UInt16.ofNat_add,← h.counter]
    exact hj.counter
  · rw [hheap,TunnelProxyServerConnection.getClientConnection_unregister,hj.address,hj.found,
      h.next hn hn']
    split
    · next he =>
      rw [he,if_pos (.inr (by omega))]
    · exact h.held a
  · rw [hclients,hsame.clientConnections]
    have hrest : (t.takeClient o).m_tunnelProxyClientConnections =
        t.m_tunnelProxyClientConnections.remove ⟨99 + 6⟩ :=
      congrArg t.m_tunnelProxyClientConnections.remove hj.tunnelling.named
    change (t.takeClient o).m_tunnelProxyClientConnections.value ⟨i + 6⟩ = none
    rw [hrest,hj.clients,QHash.value_remove,QHash.value_insert]
    split
    · rfl
    · exact h.named i hi
  · rw [hids,hsame.clientIds]
    exact hj.ids

def founding : List Event :=
  [.clientConnected ⟨1⟩ "10.0.0.1",
    .dataAvailable ⟨1⟩ (crowdEnvironment.toJson registerServerRequest ++ [newline])]

/-- The visitor with the object `n + 2` connects and registers as the `k`th client. -/
def visiting (k n : Nat) : List Event :=
  [.clientConnected ⟨n + 2⟩ "10.0.0.2",.dataAvailable ⟨n + 2⟩ (visitorLine k ++ [newline])]

def settling (k : Nat) : List Event := (List.range k).flatMap fun i => visiting i i

def passing (n : Nat) : List Event :=
  (List.range n).flatMap fun i => visiting 99 (99 + i) ++ [.clientDisconnected ⟨99 + i + 2⟩]

/-- Ninety-nine clients register and stay, more come and go one by one until the last address given
away is 0xFFFE, and one more connects. -/
def crowded : TunnelProxyServer :=
  (new.run crowdEnvironment (founding ++ (settling 99 ++ passing 65435))).step crowdEnvironment
    (.clientConnected ⟨65536⟩ "10.0.0.2")

theorem crowd_append (s : TunnelProxyServer) (xs ys : List Event) :
    s.run crowdEnvironment (xs ++ ys) =
      (s.run crowdEnvironment xs).run crowdEnvironment ys := List.foldl_append

theorem crowd_event (s : TunnelProxyServer) (event : Event) :
    s.run crowdEnvironment [event] = s.step crowdEnvironment event := rfl

structure Crowded (k n : Nat) (s : TunnelProxyServer) : Prop where
  reachable : Reachable crowdEnvironment s
  crowd : Crowd k n s
  announced : ∀ o ∈ s.clientIds, o.toNat ≤ n + 1

theorem Crowded.connects (h : Crowded k n s) :
    Reachable crowdEnvironment (s.step crowdEnvironment (.clientConnected ⟨n + 2⟩ "10.0.0.2")) ∧
      Crowd k n (s.step crowdEnvironment (.clientConnected ⟨n + 2⟩ "10.0.0.2")) ∧
      Waiting (s.step crowdEnvironment (.clientConnected ⟨n + 2⟩ "10.0.0.2")) ⟨n + 2⟩ [] ∧
      (s.step crowdEnvironment (.clientConnected ⟨n + 2⟩ "10.0.0.2")).clientIds =
        ⟨n + 2⟩ :: s.clientIds := by
  have hfresh : (⟨n + 2⟩ : ObjectId) ∉ s.clientIds := fun hm => by
    have : n + 2 ≤ n + 1 := h.announced _ hm
    omega
  have hstep := onClientConnected_eq crowdEnvironment (reachable_consistent h.reachable) hfresh "10.0.0.2"
  refine ⟨h.reachable.step hfresh,?_,connected_waiting h.reachable hfresh,?_⟩
  · rw [step,hstep]
    exact h.crowd.congr rfl rfl rfl
  · rw [step,hstep]

theorem Crowded.visited (h : Crowded k n s) (hk : k < 100) :
    ∃ t, Reachable crowdEnvironment (s.run crowdEnvironment (visiting k n)) ∧ Crowd k n t ∧
      t.clientIds = ⟨n + 2⟩ :: s.clientIds ∧
      Joined k ⟨n + 2⟩ t (s.run crowdEnvironment (visiting k n)) := by
  obtain ⟨hr,hc,hw,hids⟩ := h.connects
  generalize hu : s.step crowdEnvironment (.clientConnected ⟨n + 2⟩ "10.0.0.2") = u at hr hc hw hids
  have hrun : s.run crowdEnvironment (visiting k n) =
      u.step crowdEnvironment (.dataAvailable ⟨n + 2⟩ (visitorLine k ++ [newline])) := hu ▸ rfl
  have hfresh : u.Fresh (.dataAvailable ⟨n + 2⟩ (visitorLine k ++ [newline])) := trivial
  rw [hrun]
  exact ⟨u,hr.step hfresh,hc,hids,hc.joins hw hk⟩

theorem Crowded.stays (h : Crowded k k s) (hk : k < 99) :
    Crowded (k + 1) (k + 1) (s.run crowdEnvironment (visiting k k)) := by
  obtain ⟨t,hr,hc,hids,hj⟩ := h.visited (by omega)
  refine ⟨hr,hc.stays hk hj,fun o ho => ?_⟩
  rw [hj.ids,hids] at ho
  rcases List.mem_cons.mp ho with rfl | ho
  · exact le_rfl
  · exact (h.announced o ho).trans (Nat.le_succ _)

theorem Crowded.passes (h : Crowded 99 n s) (hn : 99 ≤ n) (hn' : n < 0xFFFE) :
    Crowded 99 (n + 1)
      (s.run crowdEnvironment (visiting 99 n ++ [.clientDisconnected ⟨n + 2⟩])) := by
  obtain ⟨t,hr,hc,hids,hj⟩ := h.visited (by omega)
  obtain ⟨hleft,hleftIds⟩ := hc.leaves hn hn' hj hr
  have hfresh : (s.run crowdEnvironment (visiting 99 n)).Fresh (.clientDisconnected ⟨n + 2⟩) := trivial
  rw [crowd_append,crowd_event]
  refine ⟨hr.step hfresh,hleft,fun o ho => ?_⟩
  rw [hleftIds,hids] at ho
  rcases List.mem_cons.mp ho with rfl | hold
  · exact le_rfl
  · exact (h.announced o hold).trans (Nat.le_succ _)

theorem founding_crowded : Crowded 0 0 (new.run crowdEnvironment founding) := by
  have hrun : FreshRun crowdEnvironment new founding ∧
      (new.run crowdEnvironment founding).m_tunnelProxyServerConnections.entries =
        ((∅ : QHash QUuid ObjectId).insert ⟨5⟩ ⟨1⟩).entries ∧
      (new.run crowdEnvironment founding).m_tunnelProxyClientConnections.entries = [] ∧
      ((new.run crowdEnvironment founding).serverConnection
        ⟨1⟩).m_clientConnectionsAddresses.entries = [] ∧
      ((new.run crowdEnvironment founding).serverConnection ⟨1⟩).m_connectionLimit = 100 ∧
      ((new.run crowdEnvironment founding).serverConnection ⟨1⟩).m_currentAddressCounter = 0 ∧
      (new.run crowdEnvironment founding).clientIds = [⟨1⟩] := by decide +kernel
  obtain ⟨hfresh,hservers,hclients,haddresses,hlimit,hcounter,hids⟩ := hrun
  refine ⟨Reachable.new.run hfresh,⟨fun u => ?_,hlimit,hcounter,fun a => ?_,fun i _ => ?_⟩,?_⟩
  · rw [AList.ext hservers,QHash.value_insert,QHash.value_empty]
  · have hany : a = 0 ∨ 0 < a.toNat :=
      (Nat.eq_zero_or_pos a.toNat).imp_left fun hzero => UInt16.toNat_inj.mp hzero
    rw [TunnelProxyServerConnection.getClientConnection,if_pos hany]
    have hempty : ((new.run crowdEnvironment founding).serverConnection
        ⟨1⟩).m_clientConnectionsAddresses = ∅ := AList.ext haddresses
    rw [hempty,QHash.value_empty]
  · have hempty : (new.run crowdEnvironment founding).m_tunnelProxyClientConnections = ∅ :=
      AList.ext hclients
    rw [hempty,QHash.value_empty]
  · intro o ho
    rw [hids,List.mem_singleton] at ho
    rw [ho]

theorem settling_crowded (hk : k ≤ 99) (h : Crowded 0 0 s) :
    Crowded k k (s.run crowdEnvironment (settling k)) := by
  induction k with
  | zero => exact h
  | succ k ih =>
    have hsplit : settling (k + 1) = settling k ++ visiting k k := by
      simp [settling,List.range_succ]
    rw [hsplit,crowd_append]
    exact (ih (by omega)).stays (by omega)

theorem passing_crowded (hn : 99 + n ≤ 0xFFFE) (h : Crowded 99 99 s) :
    Crowded 99 (99 + n) (s.run crowdEnvironment (passing n)) := by
  induction n with
  | zero => exact h
  | succ n ih =>
    have hsplit : passing (n + 1) =
        passing n ++ (visiting 99 (99 + n) ++ [.clientDisconnected ⟨99 + n + 2⟩]) := by
      simp [passing,List.range_succ]
    rw [hsplit,crowd_append]
    exact (ih (by omega)).passes (by omega) (by omega)

theorem Crowd.asks (h : Crowd k n s) (hw : Waiting s o []) (hk : k < 100) :
    During crowdEnvironment s o (visitorLine k ++ [newline]) fun t item =>
      RegistersClient crowdEnvironment t o item ⟨1⟩ := by
  have hcut := visitorLine_cut k
  have hr := hw.received (visitorLine k ++ [newline])
  have hitems := hw.taken (visitorLine k ++ [newline])
  rw [taken,if_pos hw.known,List.nil_append,hcut,if_neg (by simp)] at hitems
  have hbuffered : (s.received o (visitorLine k ++ [newline])).buffered crowdEnvironment o
      (visitorLine k ++ [newline]) = s.cutUp o (visitorLine k ++ [newline]) := by
    rw [buffered,framed,hr.unregistered,hr.listed,hr.overflows,List.nil_append,hcut]
    rfl
  refine ⟨[],.packet (visitorLine k ++ [newline]),[],hitems,?_⟩
  rw [List.foldl_nil,hbuffered]
  exact ⟨_,visitor_request hk (visitorLine_filter k),
    (h.same (cutUp_same hw _)).registers (hw.cutUp _)⟩

/-- The address that the new client is given is that of another client, whose entry is lost. -/
theorem registering_collides :
    Reachable crowdEnvironment crowded ∧
      (crowded.serverConnection ⟨1⟩).getClientConnection 99 = some ⟨100⟩ ∧
      ((crowded.step crowdEnvironment (.dataAvailable ⟨65536⟩
        (visitorLine 99 ++ [newline]))).serverConnection ⟨1⟩).getClientConnection 99 =
          some ⟨65536⟩ ∧
      ¬Isolated crowdEnvironment ⟨65536⟩ (visitorLine 99 ++ [newline]) crowded
        (crowded.step crowdEnvironment (.dataAvailable ⟨65536⟩ (visitorLine 99 ++ [newline]))) := by
  have hcrowded : Crowded 99 65534
      (new.run crowdEnvironment (founding ++ (settling 99 ++ passing 65435))) := by
    rw [crowd_append,crowd_append]
    exact passing_crowded (n := 65435) (by omega) (settling_crowded le_rfl founding_crowded)
  obtain ⟨hr,hc,hw,-⟩ := hcrowded.connects
  change Reachable crowdEnvironment crowded at hr
  change Crowd 99 0xFFFE crowded at hc
  change Waiting crowded ⟨65536⟩ [] at hw
  refine ⟨hr,?_,?_,fun hiso => ?_⟩
  · rw [hc.held,if_neg (by decide)]
    rfl
  · rw [(hc.joins hw (by decide)).found,hc.last,if_pos rfl]
  · exact hc.full (hiso.addressFree (reachable_consistent hr) hw.known (hc.asks hw (by decide)))

end Crowd

end RemoteProxy.TunnelProxyServer
