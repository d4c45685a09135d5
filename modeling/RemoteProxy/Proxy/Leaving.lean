import RemoteProxy.Proxy.Acts

namespace RemoteProxy.TunnelProxyServer

variable {env : Environment} {R : TunnelProxyServer → TunnelProxyServer → Prop}
  {report : TunnelProxyServer → QUuid → TunnelProxyServer}

/-- What holds between the states before and after each piece of a disconnect holds for all of the
disconnect, and of those that it brings with it. -/
structure Leaving (env : Environment) (R : TunnelProxyServer → TunnelProxyServer → Prop) :
    Prop where
  refl : ∀ s, R s s
  trans : ∀ {s s' t}, R s s' → R s' t → R s t
  take : ∀ s id, R s (take s id)
  serverEntry : ∀ s uuid, R s { s with
    m_tunnelProxyServerConnections := s.m_tunnelProxyServerConnections.remove uuid }
  clientEntry : ∀ s uuid, R s { s with
    m_tunnelProxyClientConnections := s.m_tunnelProxyClientConnections.remove uuid }
  detach : ∀ s server o, R s (unregisterClientConnection s server o)
  kill : ∀ s o reason, R s (requestKill s o reason)
  notify : ∀ s nameSpace method params o,
    R s (JsonRpcServer.sendNotification env s nameSpace method params o)
  unregister : ∀ s o, R s (JsonRpcServer.unregisterClient s o)

namespace Leaving

theorem killConnectionWith (h : Leaving env R) (hreport : ∀ s id, R s (report s id))
    (s : TunnelProxyServer) (o : ObjectId) (reason : String) :
    R s (killConnectionWith env report s o reason) := by
  have hk : R s { s.emit (.killed o reason) with killCount := s.killCount + 1 } :=
    h.kill s o reason
  simp only [TunnelProxyServer.killConnectionWith]
  split
  · exact h.trans hk (hreport _ _)
  · exact hk

theorem dropClient (h : Leaving env R) (hreport : ∀ s id, R s (report s id))
    (s : TunnelProxyServer) (server o : ObjectId) : R s (dropClient env report s server o) :=
  h.trans (h.detach s server o) (h.killConnectionWith hreport _ _ _)

theorem serverDisconnected (h : Leaving env R) (hreport : ∀ s id, R s (report s id))
    (s : TunnelProxyServer) (o : ObjectId) : R s (serverDisconnected env report s o) := by
  have hdrops : ∀ (clients : List ObjectId) (server : ObjectId) (s : TunnelProxyServer),
      R s (clients.foldl
        (fun s client => TunnelProxyServer.dropClient env report s server client) s) := by
    intro clients server s
    induction clients generalizing s with
    | nil => exact h.refl s
    | cons client clients ih => exact h.trans (h.dropClient hreport s server client) (ih _)
  simp only [TunnelProxyServer.serverDisconnected]
  split
  · exact h.refl s
  · next server _ => exact h.trans (h.serverEntry s _) (hdrops _ server _)

theorem clientDisconnected (h : Leaving env R) (s : TunnelProxyServer) (o : ObjectId) :
    R s (clientDisconnected env s o) := by
  simp only [TunnelProxyServer.clientDisconnected]
  split
  · exact h.refl s
  · have hk := h.clientEntry s (s.client o).m_uuid
    split
    · exact hk
    · next server _ =>
      exact h.trans hk (h.trans (h.detach _ server _) (h.notify _ _ _ _ _))

theorem disconnected (h : Leaving env R) (hreport : ∀ s id, R s (report s id))
    (s : TunnelProxyServer) (o : ObjectId) : R s (disconnected env report s o) := by
  simp only [TunnelProxyServer.disconnected]
  have hserver : R s (if (s.client o).m_type = .TypeServer then
      TunnelProxyServer.serverDisconnected env report s o else s) := by
    split
    · exact h.serverDisconnected hreport s o
    · exact h.refl s
  generalize (if (s.client o).m_type = .TypeServer then
    TunnelProxyServer.serverDisconnected env report s o else s) = t at *
  refine h.trans hserver (h.trans ?_ (h.unregister _ o))
  split
  · exact h.clientDisconnected t o
  · exact h.refl t

theorem onClientDisconnectedWithin (h : Leaving env R) (fuel : Nat) (s : TunnelProxyServer)
    (id : QUuid) : R s (onClientDisconnectedWithin env fuel s id) := by
  induction fuel generalizing s id with
  | zero => exact h.refl s
  | succ fuel ih =>
    rw [TunnelProxyServer.onClientDisconnectedWithin]
    split
    · exact h.refl s
    · exact h.trans (h.take s id) (h.disconnected ih _ _)

theorem killConnection (h : Leaving env R) (s : TunnelProxyServer) (o : ObjectId)
    (reason : String) : R s (killConnection env s o reason) :=
  h.killConnectionWith (fun s id => h.onClientDisconnectedWithin _ s id) s o reason

end Leaving

theorem kept_leaving (env : Environment) : Leaving env Kept where
  refl := Kept.refl
  trans := Kept.trans
  take := Kept.take
  serverEntry _ _ := ⟨fun _ => rfl,fun _ _ h => h,fun _ _ h => value_remove_shrinks h,rfl⟩
  clientEntry _ _ := Kept.of_same rfl rfl rfl rfl
  detach := Kept.unregisterClientConnection
  kill := Kept.requestKill
  notify := Kept.sendNotification env
  unregister := Kept.unregisterClient

end RemoteProxy.TunnelProxyServer
