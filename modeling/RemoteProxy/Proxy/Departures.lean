import RemoteProxy.Proxy.Effects
import RemoteProxy.Proxy.Registry

namespace RemoteProxy.TunnelProxyServer

open Relation

/-- How many kills there are, and whose disconnects the transports report before these return. -/
def killsIn : List Output → Nat
  | [] => 0
  | .killed _ _ :: out => killsIn out + 1
  | _ :: out => killsIn out

def departures (env : Environment) : Nat → List Output → List ObjectId
  | _, [] => []
  | n, .killed o _ :: out =>
    if env.reportsAtOnce n then o :: departures env (n + 1) out else departures env (n + 1) out
  | n, _ :: out => departures env n out

variable {env : Environment} {up : Prop} {s s' t : TunnelProxyServer} {o : ObjectId}
  {gone gone' : List ObjectId}

theorem killsIn_append (out out' : List Output) : killsIn (out ++ out') = killsIn out + killsIn out' := by
  induction out with
  | nil => exact (Nat.zero_add _).symm
  | cons x out ih =>
    cases x with
    | killed o reason =>
      simp only [List.cons_append,killsIn,ih]
      omega
    | sent => exact ih
    | assertFailed => exact ih

theorem departures_append (n : Nat) (out out' : List Output) :
    departures env n (out ++ out') =
      departures env n out ++ departures env (n + killsIn out) out' := by
  induction out generalizing n with
  | nil => rfl
  | cons x out ih =>
    cases x with
    | killed o reason =>
      have hcount : n + (killsIn out + 1) = n + 1 + killsIn out := by omega
      simp only [List.cons_append,departures,killsIn,ih,hcount]
      split
      · rfl
      · rfl
    | sent => exact ih n
    | assertFailed => exact ih n

theorem departures_silent (env : Environment) {out : List Output}
    (h : ∀ o reason, .killed o reason ∉ out) (n : Nat) :
    killsIn out = 0 ∧ departures env n out = [] := by
  induction out with
  | nil => exact ⟨rfl,rfl⟩
  | cons x out ih =>
    have hrest : ∀ o reason, .killed o reason ∉ out :=
      fun o reason hx => h o reason (List.mem_cons_of_mem _ hx)
    cases x with
    | killed o reason => exact absurd List.mem_cons_self (h o reason)
    | sent => exact ih hrest
    | assertFailed => exact ih hrest

/-- Besides those in `gone`, the proxy forgets who was killed and reported at once, and nobody
else. -/
def Departs (env : Environment) (gone : List ObjectId) (s s' : TunnelProxyServer) : Prop :=
  ∃ new, s'.output = s.output ++ new ∧ s'.killCount = s.killCount + killsIn new ∧
    ∀ id, s'.m_proxyClients.value id =
      if id ∈ gone ++ departures env s.killCount new then none else s.m_proxyClients.value id

theorem Departs.silent {l : List Output} (hout : s'.output = s.output ++ l)
    (hnew : ∀ o reason, .killed o reason ∉ l) (hk : s'.killCount = s.killCount)
    (hp : s'.m_proxyClients = s.m_proxyClients) : Departs env [] s s' := by
  obtain ⟨hcount,hnone⟩ := departures_silent env hnew s.killCount
  refine ⟨l,hout,by rw [hk,hcount,Nat.add_zero],fun id => ?_⟩
  rw [hnone,hp]
  simp

theorem Departs.refl (s : TunnelProxyServer) : Departs env [] s s :=
  .silent (List.append_nil _).symm (by simp) rfl rfl

theorem Departs.trans (h : Departs env gone s s') (h' : Departs env gone' s' t) :
    Departs env (gone ++ gone') s t := by
  obtain ⟨new,hout,hk,hp⟩ := h
  obtain ⟨new',hout',hk',hp'⟩ := h'
  refine ⟨new ++ new',?_,?_,fun id => ?_⟩
  · rw [hout',hout,List.append_assoc]
  · rw [hk',hk,killsIn_append,Nat.add_assoc]
  · rw [hp',hp,departures_append,hk]
    simp only [List.mem_append]
    split
    · next h' =>
      rw [if_pos]
      tauto
    · split
      · next h =>
        rw [if_pos]
        tauto
      · rw [if_neg]
        tauto

theorem Departs.then (h : Departs env gone s s') (h' : Departs env [] s' t) :
    Departs env gone s t := by
  have hall := h.trans h'
  rwa [List.append_nil] at hall

theorem Departs.congr (h : Departs env gone s s') (hout : s.output = t.output)
    (hk : s.killCount = t.killCount) (hp : s.m_proxyClients = t.m_proxyClients) :
    Departs env gone t s' := by
  obtain ⟨new,hout',hk',hp'⟩ := h
  exact ⟨new,hout ▸ hout',hk ▸ hk',fun id => by rw [hp',hk,hp]⟩

theorem Departs.count_le (h : Departs env gone s s') : s'.count ≤ s.count := by
  obtain ⟨new,-,-,hp⟩ := h
  have hsub : s'.m_proxyClients.keys ⊆ s.m_proxyClients.keys := by
    intro id hid
    rw [QHash.mem_keys] at hid ⊢
    obtain ⟨o,ho⟩ := hid
    rw [hp] at ho
    split at ho
    · cases ho
    · exact ⟨o,ho⟩
  have hle := (List.subperm_of_subset s'.m_proxyClients.keys_nodup hsub).length_le
  have hlength : ∀ h : QHash QUuid ObjectId, h.keys.length = h.entries.length :=
    fun h => List.length_map _
  rwa [hlength,hlength] at hle

section Nested

variable {report : TunnelProxyServer → QUuid → TunnelProxyServer} {n : Nat}

def Reports (env : Environment) (n : Nat)
    (report : TunnelProxyServer → QUuid → TunnelProxyServer) : Prop :=
  ∀ s id, s.count ≤ n → Departs env [id] s (report s id)

theorem Departs.requestKill (s : TunnelProxyServer) (o : ObjectId) (reason : String)
    (honce : env.reportsAtOnce s.killCount = false) : Departs env [] s (s.requestKill o reason) := by
  refine ⟨[.killed o reason],rfl,rfl,fun id => ?_⟩
  simp [departures,honce,TunnelProxyServer.requestKill]

theorem Departs.reported (s : TunnelProxyServer) (reason : String)
    (honce : env.reportsAtOnce s.killCount = true)
    (h : Departs env [o] (s.requestKill o reason) s') : Departs env [] s s' := by
  obtain ⟨new,hout,hk,hp⟩ := h
  refine ⟨.killed o reason :: new,?_,?_,fun id => ?_⟩
  · rw [hout]
    exact List.append_assoc _ _ _
  · rw [hk]
    simp only [killsIn,TunnelProxyServer.requestKill]
    omega
  · rw [hp]
    simp only [departures,honce,if_true]
    rfl

theorem Reports.kill (h : Reports env n report) (o : ObjectId) (reason : String)
    (hs : s.count ≤ n) : Departs env [] s (killConnectionWith env report s o reason) := by
  simp only [killConnectionWith]
  split
  · next honce => exact .reported s reason honce (h (s.requestKill o reason) o hs)
  · next honce => exact .requestKill s o reason (by simpa using honce)

theorem Reports.drops (h : Reports env n report) (server : ObjectId) (clients : List ObjectId)
    (hs : s.count ≤ n) : Departs env [] s
      (clients.foldl (fun s client => dropClient env report s server client) s) := by
  induction clients generalizing s with
  | nil => exact .refl s
  | cons client clients ih =>
    have hdetached : Departs env [] s (s.unregisterClientConnection server client) :=
      .silent (List.append_nil _).symm (by simp) rfl rfl
    have hdropped : Departs env [] s (dropClient env report s server client) :=
      hdetached.then (h.kill _ _ (hs : (s.unregisterClientConnection server client).count ≤ n))
    exact hdropped.then (ih (hdropped.count_le.trans hs))

theorem Reports.serverDisconnected (h : Reports env n report) (o : ObjectId) (hs : s.count ≤ n) :
    Departs env [] s (serverDisconnected env report s o) := by
  simp only [TunnelProxyServer.serverDisconnected]
  split
  · exact .refl s
  · next server _ =>
    have htaken : Departs env [] s { s with
        m_tunnelProxyServerConnections :=
          s.m_tunnelProxyServerConnections.remove (s.client o).m_uuid } :=
      .silent (List.append_nil _).symm (by simp) rfl rfl
    exact htaken.then (h.drops server _ hs)

theorem clientDisconnected_departs (s : TunnelProxyServer) (o : ObjectId) :
    Departs env [] s (clientDisconnected env s o) := by
  simp only [clientDisconnected]
  split
  · exact .refl s
  · split
    · exact .silent (List.append_nil _).symm (by simp) rfl rfl
    · exact .silent (l := [_]) rfl (by simp) rfl rfl

theorem unregisterClient_departs (s : TunnelProxyServer) (o : ObjectId) :
    Departs env [] s (JsonRpcServer.unregisterClient s o) := by
  unfold JsonRpcServer.unregisterClient
  split
  · exact .refl s
  · exact .silent (List.append_nil _).symm (by simp) rfl rfl

theorem Reports.disconnected (h : Reports env n report) (o : ObjectId) (hs : s.count ≤ n) :
    Departs env [] s (disconnected env report s o) := by
  have hserver : Departs env [] s (if (s.client o).m_type = .TypeServer then
      TunnelProxyServer.serverDisconnected env report s o else s) := by
    split
    · exact h.serverDisconnected o hs
    · exact .refl s
  simp only [TunnelProxyServer.disconnected]
  generalize (if (s.client o).m_type = .TypeServer then
    TunnelProxyServer.serverDisconnected env report s o else s) = t at hserver ⊢
  refine hserver.then (Departs.then ?_ (unregisterClient_departs _ o))
  split
  · exact clientDisconnected_departs t o
  · exact .refl t

theorem take_departs (s : TunnelProxyServer) (id : QUuid) : Departs env [id] s (s.take id) := by
  refine ⟨[],(List.append_nil _).symm,rfl,fun x => ?_⟩
  rw [departures,List.append_nil,take,QHash.value_remove]
  simp only [List.mem_singleton]

theorem onClientDisconnected_departs (env : Environment) (s : TunnelProxyServer) (id : QUuid) :
    Departs env [id] s (onClientDisconnected env s id) := by
  induction hn : s.count using Nat.strong_induction_on generalizing s id with
  | _ n ih =>
    rw [onClientDisconnected_eq]
    cases hv : s.m_proxyClients.value id with
    | none =>
      refine ⟨[],(List.append_nil _).symm,rfl,fun x => ?_⟩
      rw [departures,List.append_nil]
      simp only [List.mem_singleton]
      split
      · next hx => rw [hx,hv]
      · rfl
    | some o =>
      have hcount := count_take hv
      have hreports : Reports env (s.take id).count (onClientDisconnected env) :=
        fun u x hu => ih u.count (by omega) u x rfl
      exact (take_departs s id).then (hreports.disconnected o (Nat.le_refl _))

theorem killConnection_departs (env : Environment) (s : TunnelProxyServer) (o : ObjectId)
    (reason : String) : Departs env [] s (killConnection env s o reason) :=
  Reports.kill (fun s id _ => onClientDisconnected_departs env s id) o reason (Nat.le_refl _)

end Nested

section Deeds

theorem effect_silent (hw : Effect env up s s') (hk : s'.killCount = s.killCount) :
    ∃ new, s'.output = s.output ++ new ∧ ∀ o reason, .killed o reason ∉ new := by
  have hsucc : s.killCount + 1 ≠ s.killCount := by omega
  cases hw with
  | tables hs => exact ⟨[],by rw [hs.output,List.append_nil],by simp⟩
  | overflowed => exact absurd hk hsucc
  | timedOut => exact absurd hk hsucc
  | killRequested => exact absurd hk hsucc
  | answered _ => exact ⟨[_],rfl,by simp⟩
  | notified => exact ⟨[_],rfl,by simp⟩
  | passedUp => exact ⟨[_],rfl,by simp⟩
  | passedDown => exact ⟨[_],rfl,by simp⟩
  | asserted _ => exact ⟨[_],rfl,by simp⟩
  | _ => exact ⟨[],(List.append_nil _).symm,by simp⟩

theorem deed_departs (h : Deed env up s s') : Departs env [] s s' := by
  cases h with
  | quiet hw hp hk =>
    obtain ⟨new,hout,hnew⟩ := effect_silent hw hk
    exact .silent hout hnew hk hp
  | @killed t o reason _ hp hk hout =>
    exact (killConnection_departs env t o reason).congr hout hk hp

theorem deeds_departs (h : Deeds env up s s') : Departs env [] s s' := by
  induction h with
  | refl => exact .refl _
  | tail _ hd ih => exact ih.then (deed_departs hd)

end Deeds

section Events

def Event.leavers : Event → List ObjectId
  | .clientDisconnected id => [id]
  | _ => []

def Event.arrivals : Event → List ObjectId
  | .clientConnected id _ => [id]
  | _ => []

theorem dataAvailable_departs (hc : Consistent [] s) (id : QUuid) (data : QByteArray) :
    Departs env [] s (onClientDataAvailable env s id data) := by
  cases hv : s.m_proxyClients.value id with
  | none =>
    simp only [onClientDataAvailable,hv]
    exact .refl s
  | some o =>
    obtain rfl := hc.named id o hv
    exact (deeds_departs (deeds_dataAvailable hc hv data)).congr rfl rfl rfl

theorem step_departs (env : Environment) (hc : Consistent [] s) {event : Event}
    (hfresh : s.Fresh event) :
    ∃ new, (s.step env event).output = s.output ++ new ∧
      ∀ id, (s.step env event).m_proxyClients.value id =
        if id ∈ event.leavers ++ departures env s.killCount new then none
        else if id ∈ event.arrivals then some id else s.m_proxyClients.value id := by
  have hplain : ∀ {t : TunnelProxyServer} {event : Event}, event.arrivals = [] →
      Departs env event.leavers s t → ∃ new, t.output = s.output ++ new ∧
        ∀ id, t.m_proxyClients.value id =
          if id ∈ event.leavers ++ departures env s.killCount new then none
          else if id ∈ event.arrivals then some id else s.m_proxyClients.value id := by
    rintro t event harrivals ⟨new,hout,-,hp⟩
    refine ⟨new,hout,fun id => ?_⟩
    rw [hp,harrivals]
    simp
  cases event with
  | clientConnected id address =>
    refine ⟨[],?_,fun x => ?_⟩
    · rw [step,onClientConnected_eq env hc hfresh,List.append_nil]
    · rw [step,onClientConnected_eq env hc hfresh,QHash.value_insert]
      simp only [Event.leavers,Event.arrivals,departures,List.append_nil,List.not_mem_nil,if_false,
        List.mem_singleton]
      split
      · next hx => rw [hx]
      · rfl
  | clientDisconnected id => exact hplain rfl (onClientDisconnected_departs env s id)
  | dataAvailable id data => exact hplain rfl (dataAvailable_departs hc id data)
  | inactiveTimeout id => exact hplain rfl (deeds_departs (deeds_inactiveTimeout s id))
  | elapse ms => exact hplain rfl (.silent (List.append_nil _).symm (by simp) rfl rfl)

end Events

end RemoteProxy.TunnelProxyServer
