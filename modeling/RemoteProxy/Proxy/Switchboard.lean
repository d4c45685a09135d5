import RemoteProxy.Foundation.Switchboard
import RemoteProxy.Proxy.Isolation

namespace RemoteProxy.TunnelProxyServer

open Switchboard Relation

abbrev ProxyRole : Type := Role ObjectId QUuid UInt16

abbrev ProxyBoard : Type := Board ObjectId QUuid UInt16

def registeredRole (s : TunnelProxyServer) (o : ObjectId) : ProxyRole :=
  match (s.client o).m_type with
  | .TypeNone => .waiting
  | .TypeServer => .server (s.client o).m_uuid
  | .TypeClient =>
    match (s.clientConnection o).m_serverConnection with
    | none => .orphan (s.client o).m_uuid
    | some server =>
      .client (s.client o).m_uuid server (s.clientConnection o).m_socketAddress

def role (dying : List ObjectId) (s : TunnelProxyServer) (o : ObjectId) : ProxyRole :=
  if o ∈ dying then .leaving
  else if s.m_proxyClients.value o = some o then s.registeredRole o
  else if o ∈ s.clientIds then .gone
  else .unknown

variable {env : Environment} {dying dying' : List ObjectId} {s s' t : TunnelProxyServer}
  {o x : ObjectId}

section Role

theorem role_live (hlive : s.live o) (ho : o ∉ dying) : role dying s o = s.registeredRole o := by
  rw [role,if_neg ho]
  exact if_pos hlive

theorem role_dying (ho : o ∈ dying) : role dying s o = .leaving := if_pos ho

theorem registeredRole_present : (s.registeredRole o).Present := by
  unfold registeredRole
  split
  · trivial
  · trivial
  · split
    · trivial
    · trivial

theorem registeredRole_none (h : (s.client o).m_type = .TypeNone) :
    s.registeredRole o = .waiting := by
  rw [registeredRole,h]

theorem registeredRole_server (h : s.isServer o) :
    s.registeredRole o = .server (s.client o).m_uuid := by
  rw [registeredRole,show (s.client o).m_type = .TypeServer from h]

theorem registeredRole_client {server : ObjectId} (h : s.isClient o)
    (hto : (s.clientConnection o).m_serverConnection = some server) :
    s.registeredRole o =
      .client (s.client o).m_uuid server (s.clientConnection o).m_socketAddress := by
  rw [registeredRole,show (s.client o).m_type = .TypeClient from h,hto]

theorem registeredRole_orphan (h : s.isClient o)
    (hto : (s.clientConnection o).m_serverConnection = none) :
    s.registeredRole o = .orphan (s.client o).m_uuid := by
  rw [registeredRole,show (s.client o).m_type = .TypeClient from h,hto]

theorem registeredRole_name {u : QUuid} (h : (s.registeredRole o).name = some u) :
    (s.client o).m_uuid = u ∧ (s.isServer o ∨ s.isClient o) := by
  unfold registeredRole at h
  split at h
  · cases h
  · next htype => exact ⟨Option.some.inj h,.inl htype⟩
  · next htype =>
    split at h
    · exact ⟨Option.some.inj h,.inr htype⟩
    · exact ⟨Option.some.inj h,.inr htype⟩

theorem role_name {u : QUuid} (h : (role dying s o).name = some u) :
    s.live o ∧ (s.client o).m_uuid = u ∧ (s.isServer o ∨ s.isClient o) := by
  unfold role at h
  split at h
  · cases h
  · split at h
    · next hlive => exact ⟨hlive,registeredRole_name h⟩
    · split at h
      · cases h
      · cases h

theorem role_client {u : QUuid} {server : ObjectId} {a : UInt16}
    (h : role dying s o = .client u server a) :
    (s.clientConnection o).m_serverConnection = some server := by
  unfold role at h
  split at h
  · cases h
  · split at h
    · unfold registeredRole at h
      split at h
      · cases h
      · cases h
      · split at h
        · cases h
        · next server' hto =>
          cases h
          exact hto
    · split at h
      · cases h
      · cases h

structure SameLine (dying dying' : List ObjectId) (s s' : TunnelProxyServer) (o : ObjectId) :
    Prop where
  dying : o ∈ dying' ↔ o ∈ dying
  proxyClient : s'.m_proxyClients.value o = s.m_proxyClients.value o
  clientIds : o ∈ s'.clientIds ↔ o ∈ s.clientIds
  type : (s'.client o).m_type = (s.client o).m_type
  uuid : (s'.client o).m_uuid = (s.client o).m_uuid
  clientConnection : s'.clientConnection o = s.clientConnection o

theorem SameLine.role (h : SameLine dying dying' s s' o) :
    s'.role dying' o = s.role dying o := by
  simp only [TunnelProxyServer.role,registeredRole,h.dying,h.proxyClient,h.clientIds,h.type,h.uuid,
    h.clientConnection]

theorem SameLine.of_same (h : SameRegistry s s') : SameLine dying dying s s' o :=
  ⟨Iff.rfl,by rw [h.proxyClients],by rw [h.clientIds],h.type o,h.uuid o,by rw [h.clientConnection]⟩

theorem SameLine.trans {dying'' : List ObjectId} (h : SameLine dying dying' s s' o)
    (h' : SameLine dying' dying'' s' t o) : SameLine dying dying'' s t o :=
  ⟨h'.dying.trans h.dying,h'.proxyClient.trans h.proxyClient,h'.clientIds.trans h.clientIds,
    h'.type.trans h.type,h'.uuid.trans h.uuid,h'.clientConnection.trans h.clientConnection⟩

end Role

section Board

theorem Consistent.role_free (hc : Consistent dying s) {u : QUuid}
    (hserver : s.m_tunnelProxyServerConnections.value u = none)
    (hclient : s.m_tunnelProxyClientConnections.value u = none) (x : ObjectId) :
    (s.role dying x).name ≠ some u := by
  intro hname
  obtain ⟨hlive,huuid,htype | htype⟩ := role_name hname
  · rw [(hc.server_iff u x).mpr ⟨hlive,htype,huuid⟩] at hserver
    cases hserver
  · rw [(hc.client_iff u x).mpr ⟨hlive,htype,huuid⟩] at hclient
    cases hclient

def board (hc : Consistent dying s) : ProxyBoard where
  role := s.role dying
  named := by
    intro x y u hx hy
    obtain ⟨hlx,hux,hx⟩ := role_name hx
    obtain ⟨hly,huy,hy⟩ := role_name hy
    rcases hx with hx | hx
    · have hvx := (hc.server_iff u x).mpr ⟨hlx,hx,hux⟩
      rcases hy with hy | hy
      · exact Option.some.inj (hvx.symm.trans ((hc.server_iff u y).mpr ⟨hly,hy,huy⟩))
      · have hvy := (hc.client_iff u y).mpr ⟨hly,hy,huy⟩
        rcases hc.disjoint u with hn | hn
        · rw [hvx] at hn
          cases hn
        · rw [hvy] at hn
          cases hn
    · have hvx := (hc.client_iff u x).mpr ⟨hlx,hx,hux⟩
      rcases hy with hy | hy
      · have hvy := (hc.server_iff u y).mpr ⟨hly,hy,huy⟩
        rcases hc.disjoint u with hn | hn
        · rw [hvy] at hn
          cases hn
        · rw [hvx] at hn
          cases hn
      · exact Option.some.inj (hvx.symm.trans ((hc.client_iff u y).mpr ⟨hly,hy,huy⟩))
  attached := by
    intro x u server a hx
    obtain ⟨-,-,⟨hserver,hlive | hdying⟩,-⟩ := hc.attached x server (role_client hx)
    · refine .inl ⟨(s.client server).m_uuid,?_⟩
      rw [role_live hlive fun hd => hc.gone server hd hlive,registeredRole_server hserver]
    · exact .inr (role_dying hdying)

theorem board_empty : board new_consistent = Board.empty ObjectId QUuid UInt16 :=
  Board.eq_of_role (funext fun _ => rfl)

theorem step_of_line (hc : Consistent dying s) (hc' : Consistent dying' s') {r : ProxyRole}
    (hm : Board.Move (board hc) o r) (ho : s'.role dying' o = r)
    (hrest : ∀ x, x ≠ o → SameLine dying dying' s s' x) : Board.Step (board hc) (board hc') := by
  refine Board.Step.of_role hm (funext fun x => ?_)
  rcases eq_or_ne x o with rfl | hne
  · rw [Function.update_self]
    exact ho
  · rw [Function.update_of_ne hne]
    exact (hrest x hne).role

end Board

section Refinement

theorem Consistent.role_live (hc : Consistent dying s) (hlive : s.live o) :
    s.role dying o = s.registeredRole o :=
  TunnelProxyServer.role_live hlive fun hd => hc.gone o hd hlive

theorem SameLine.take (hne : x ≠ o) (h : s'.m_proxyClients = s.m_proxyClients.remove o)
    (hids : s'.clientIds = s.clientIds) (hc : s'.client = s.client)
    (hcc : s'.clientConnection = s.clientConnection) : SameLine dying (o :: dying) s s' x := by
  refine ⟨by simp [hne],?_,by rw [hids],by rw [hc],by rw [hc],by rw [hcc]⟩
  rw [h,QHash.value_remove,if_neg hne]

theorem SameLine.unregister (hne : x ≠ o) (server : ObjectId) :
    SameLine dying dying s (s.unregisterClientConnection server o) x :=
  ⟨Iff.rfl,rfl,Iff.rfl,rfl,rfl,Function.update_of_ne hne _ _⟩

theorem connected_refines (hc : Consistent dying s) (hid : o ∉ s.clientIds) (address : String)
    (hc' : Consistent dying (onClientConnected env s o address)) :
    Board.Step (board hc) (board hc') := by
  have hdying : o ∉ dying := fun hd => hid (hc.announced o (.inr hd))
  have hunknown : s.role dying o = .unknown := by
    have hlive : ¬s.m_proxyClients.value o = some o := fun hl => hid (hc.announced o (.inl hl))
    rw [role,if_neg hdying,if_neg hlive,if_neg hid]
  refine step_of_line hc hc' (.arrive hunknown) ?_ fun x hne => ?_
  · have hlive : (onClientConnected env s o address).live o := by
      rw [onClientConnected_eq env hc hid,live,QHash.value_insert,if_pos rfl]
    have hclient : (onClientConnected env s o address).client o =
        TunnelProxyClient.new address env.inactiveTimeout s.now := by
      rw [onClientConnected_eq env hc hid]
      exact Function.update_self ..
    rw [TunnelProxyServer.role_live hlive hdying]
    exact registeredRole_none (by rw [hclient]; rfl)
  · rw [onClientConnected_eq env hc hid]
    refine ⟨Iff.rfl,?_,?_,?_,?_,rfl⟩
    · rw [QHash.value_insert,if_neg hne]
    · simp [hne]
    · simp [hne]
    · simp [hne]

theorem entered_line {type : ClientType} {uuid : QUuid} (he : Entered s s' o type uuid)
    (hcc : ∀ x, x ≠ o → s'.clientConnection x = s.clientConnection x) (hne : x ≠ o) :
    SameLine dying dying s s' x :=
  ⟨Iff.rfl,by rw [he.proxyClients],by rw [he.clientIds],by rw [he.others x hne],
    by rw [he.others x hne],hcc x hne⟩

theorem serverAccepted_refines (hc : Consistent dying s) (hlive : s.live o)
    (htype : (s.client o).m_type = .TypeNone) {uuid : QUuid}
    (hserver : s.m_tunnelProxyServerConnections.value uuid = none)
    (hclient : s.m_tunnelProxyClientConnections.value uuid = none) (name : String)
    (hc' : Consistent dying (s.acceptServer o uuid name)) :
    Board.Step (board hc) (board hc') := by
  have he := acceptServer_entered s o uuid name
  have hwaiting : s.role dying o = .waiting :=
    (hc.role_live hlive).trans (registeredRole_none htype)
  refine step_of_line hc hc' (.serve hwaiting (hc.role_free hserver hclient)) ?_ fun x hne => ?_
  · rw [hc'.role_live ((he.live_iff o).mpr hlive),registeredRole_server he.type,he.uuid]
  · refine entered_line he (fun y _ => ?_) hne
    rw [acceptServer_clientConnection]

theorem clientAccepted_refines (hc : Consistent dying s) (hlive : s.live o)
    (htype : (s.client o).m_type = .TypeNone) {uuid serverUuid : QUuid} {server : ObjectId}
    (hserver : s.m_tunnelProxyServerConnections.value uuid = none)
    (hclient : s.m_tunnelProxyClientConnections.value uuid = none)
    (hfound : s.m_tunnelProxyServerConnections.value serverUuid = some server) (name : String)
    (hc' : Consistent dying (acceptClient env s o uuid name server)) :
    Board.Step (board hc) (board hc') := by
  have he := attachClient_entered s o uuid name server
  have hcc := attachClient_clientConnection s o uuid name server
  have hn : SameRegistry (s.attachClient o uuid name server) (acceptClient env s o uuid name server) :=
    SameRegistry.sendNotification env _ _ _ _ _
  have hwaiting : s.role dying o = .waiting :=
    (hc.role_live hlive).trans (registeredRole_none htype)
  obtain ⟨hsl,hss,-⟩ := (hc.server_iff _ server).mp hfound
  have hsrole : s.role dying server = .server (s.client server).m_uuid :=
    (hc.role_live hsl).trans (registeredRole_server hss)
  have hto : ((acceptClient env s o uuid name server).clientConnection o).m_serverConnection =
      some server := by
    rw [hn.clientConnection,hcc,Function.update_self]
    rfl
  refine step_of_line hc hc' (.attach (a := ((acceptClient env s o uuid name server).clientConnection
    o).m_socketAddress) hwaiting (hc.role_free hserver hclient) hsrole) ?_ fun x hne => ?_
  · have hlive' := (hn.live_iff o).mpr ((he.live_iff o).mpr hlive)
    have hclient' : (acceptClient env s o uuid name server).isClient o :=
      (hn.isClient_iff o).mpr he.type
    rw [hc'.role_live hlive',registeredRole_client hclient' hto,hn.uuid,he.uuid]
  · refine (entered_line he (fun y hy => ?_) hne).trans (.of_same hn)
    rw [hcc,Function.update_of_ne hy]

theorem dropped_refines (hc : Consistent dying s) {server : ObjectId} (hdying : server ∈ dying)
    (hlive : s.live o) (hclient : s.isClient o)
    (hto : (s.clientConnection o).m_serverConnection = some server)
    (hc' : Consistent dying (s.unregisterClientConnection server o)) :
    Board.Step (board hc) (board hc') := by
  have hrole : s.role dying o =
      .client (s.client o).m_uuid server (s.clientConnection o).m_socketAddress :=
    (hc.role_live hlive).trans (registeredRole_client hclient hto)
  have hdetached : ((s.unregisterClientConnection server o).clientConnection o).m_serverConnection =
      none := by
    simp [unregisterClientConnection]
  refine step_of_line hc hc' (.orphan hrole (role_dying hdying)) ?_ fun x hne =>
    .unregister hne server
  exact (hc'.role_live (o := o) hlive).trans (registeredRole_orphan hclient hdetached)

theorem finished_refines (hc : Consistent (o :: dying) s)
    (hdone : s.isServer o → ∀ u, (s.serverConnection o).m_clientConnections.value u = none)
    (hc' : Consistent dying (JsonRpcServer.unregisterClient s o)) :
    Board.Step (board hc) (board hc') := by
  have hnobody : ∀ x u a, s.role (o :: dying) x ≠ .client u o a := by
    intro x u a hx
    obtain ⟨-,-,hserves,hvalue⟩ := hc.attached x o (role_client hx)
    rw [hdone hserves.1] at hvalue
    cases hvalue
  have hrest : (JsonRpcServer.unregisterClient s o).m_proxyClients = s.m_proxyClients ∧
      (JsonRpcServer.unregisterClient s o).clientIds = s.clientIds ∧
      (JsonRpcServer.unregisterClient s o).client = s.client ∧
      (JsonRpcServer.unregisterClient s o).clientConnection = s.clientConnection := by
    unfold JsonRpcServer.unregisterClient
    split
    · exact ⟨rfl,rfl,rfl,rfl⟩
    · exact ⟨rfl,rfl,rfl,rfl⟩
  obtain ⟨hp,hids,hclient,hcc⟩ := hrest
  refine step_of_line hc hc' (.leave (role_dying List.mem_cons_self) hnobody) ?_ fun x hne => ?_
  · have hnot : o ∉ dying := (List.nodup_cons.mp hc.dying_nodup).1
    have hgone : ¬s.m_proxyClients.value o = some o := hc.gone o List.mem_cons_self
    have hknown : o ∈ s.clientIds := hc.announced o (.inr List.mem_cons_self)
    rw [role,if_neg hnot,hp,if_neg hgone,hids,if_pos hknown]
  · exact ⟨by simp [hne],by rw [hp],by rw [hids],by rw [hclient],by rw [hclient],by rw [hcc]⟩

theorem departed_refines (hc : Consistent dying s) (hlive : s.live o)
    (hc' : Consistent (o :: dying) s') (hrest : ∀ x, x ≠ o → SameLine dying (o :: dying) s s' x) :
    Board.Step (board hc) (board hc') := by
  have hpresent : (s.role dying o).Present := by
    rw [hc.role_live hlive]
    exact registeredRole_present
  exact step_of_line hc hc' (.depart hpresent) (role_dying List.mem_cons_self) hrest

theorem micro_refines {c c' : Config} (hc : Consistent c.1 c.2) (hc' : Consistent c'.1 c'.2)
    (hm : Micro env c c') : Board.Steps (board hc) (board hc') := by
  have hsame : ∀ {dying : List ObjectId} {s s' : TunnelProxyServer} (hc : Consistent dying s)
      (hc' : Consistent dying s'), SameRegistry s s' → Board.Steps (board hc) (board hc') := by
    intro dying s s' hc hc' hs
    have hrole : (board hc).role = (board hc').role :=
      funext fun x => (SameLine.of_same hs).role.symm
    rw [Board.eq_of_role hrole]
  cases hm with
  | quiet hq => exact hsame hc hc' hq.same
  | connected hid => exact .single (connected_refines hc hid _ hc')
  | serverAccepted hlive htype hserver hclient =>
    exact .single (serverAccepted_refines hc hlive htype hserver hclient _ hc')
  | clientAccepted hlive htype hserver hclient hfound =>
    exact .single (clientAccepted_refines hc hlive htype hserver hclient hfound _ hc')
  | tunnelled => exact hsame hc hc' (SameRegistry.tunnelToServer _ _ _)
  | taken hlive =>
    exact .single (departed_refines hc hlive hc' fun x hne => .take hne rfl rfl rfl rfl)
  | serverTaken hlive =>
    exact .single (departed_refines hc hlive hc' fun x hne => .take hne rfl rfl rfl rfl)
  | clientTaken hlive =>
    exact .single (departed_refines hc hlive hc' fun x hne => .take hne rfl rfl rfl rfl)
  | @clientDetached dying s o server hlive =>
    refine .single (departed_refines hc hlive hc' fun x hne => ?_)
    have htaken : SameLine dying (o :: dying) s (s.takeClient o) x := .take hne rfl rfl rfl rfl
    exact (htaken.trans (.unregister hne server)).trans
      (.of_same (detachClient_same env (s.takeClient o) server o))
  | dropped hdying hlive hclient hto =>
    exact .single (dropped_refines hc hdying hlive hclient hto hc')
  | finished hdone => exact .single (finished_refines hc hdone hc')

theorem micros_refine {c c' : Config} (hc : Consistent c.1 c.2) (hc' : Consistent c'.1 c'.2)
    (hm : ReflTransGen (Micro env) c c') : Board.Steps (board hc) (board hc') := by
  induction hm with
  | refl => exact .refl
  | tail hms hm ih =>
    have hmid := steps_consistent env hc hms
    exact (ih hmid).trans (micro_refines hmid hc' hm)

theorem run_refines {events : List Event} (h : Reachable env s) (hfresh : FreshRun env s events) :
    Board.Steps (board (reachable_consistent h)) (board (reachable_consistent (h.run hfresh))) := by
  induction events generalizing s with
  | nil => exact .refl
  | cons event events ih =>
    have hnext := h.step hfresh.1
    have hevent : Board.Steps (board (reachable_consistent h)) (board (reachable_consistent hnext)) :=
      micros_refine (c := ([],s)) (reachable_consistent h) (reachable_consistent hnext)
        ((step_does s event hfresh.1).leads (reachable_consistent h))
    exact hevent.trans (ih hnext hfresh.2)

theorem reachable_refines (h : Reachable env s) :
    Board.Steps (Board.empty ObjectId QUuid UInt16) (board (reachable_consistent h)) := by
  rw [← board_empty]
  exact micros_refine (c := ([],new)) new_consistent (reachable_consistent h) (reachable_steps h)

/-- Whatever the transports report, the proxy is a switchboard: its tables make up a board at every
event, and what happens between two events are moves on the board. -/
theorem proxy_refines_switchboard {events : List Event} (h : Reachable env s)
    (hfresh : FreshRun env s events) :
    ∃ b b' : ProxyBoard, b.role = s.role [] ∧ b'.role = (s.run env events).role [] ∧
      Board.Steps (Board.empty ObjectId QUuid UInt16) b ∧ Board.Steps b b' :=
  ⟨board (reachable_consistent h),board (reachable_consistent (h.run hfresh)),rfl,rfl,
    reachable_refines h,run_refines h hfresh⟩

theorem role_settled (o : ObjectId) : s.role [] o ≠ .leaving := by
  unfold role
  split
  · next ho => cases ho
  · split
    · unfold registeredRole
      split
      · simp
      · simp
      · split
        · simp
        · simp
    · split
      · simp
      · simp

theorem departed_gone (h : (s.role [] o).Departed) : s.role [] o = .gone :=
  h.resolve_left (role_settled o)

/-- A connection registers at most once and keeps what it has registered as; a client stays attached
to the same server at the same address until one of the two is gone. -/
theorem registrations_kept {events : List Event} (h : Reachable env s)
    (hfresh : FreshRun env s events) (o : ObjectId) :
    let t := s.run env events
    (s.role [] o).Precedes (t.role [] o) ∧
      ∀ uuid server a, s.role [] o = .client uuid server a →
        t.role [] o = .client uuid server a ∨ t.role [] server = .gone ∨ t.role [] o = .gone := by
  have hsteps := run_refines h hfresh
  refine ⟨Board.steps_precede hsteps o,fun uuid server a ho => ?_⟩
  exact (Board.steps_client hsteps ho).imp_right (Or.imp departed_gone departed_gone)

theorem proxy_refines_switchboard_sample :
    ∃ b b' : ProxyBoard, b.role = new.role [] ∧
      b'.role = (new.run (sampleEnvironment true)
        (sampleEvents true ++ [.clientDisconnected ⟨1⟩])).role [] ∧
      Board.Steps (Board.empty ObjectId QUuid UInt16) b ∧ Board.Steps b b' :=
  proxy_refines_switchboard .new (by decide +kernel)

theorem registrations_kept_sample :
    let s := new.run (sampleEnvironment true) (sampleEvents true)
    let t := s.run (sampleEnvironment true) [.clientDisconnected ⟨1⟩]
    (s.role [] ⟨2⟩).Precedes (t.role [] ⟨2⟩) ∧
      ∀ uuid server a, s.role [] ⟨2⟩ = .client uuid server a →
        t.role [] ⟨2⟩ = .client uuid server a ∨ t.role [] server = .gone ∨ t.role [] ⟨2⟩ = .gone :=
  registrations_kept (Reachable.run .new (by decide +kernel)) (by decide +kernel) ⟨2⟩

end Refinement

end RemoteProxy.TunnelProxyServer
