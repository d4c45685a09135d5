import RemoteProxy.Library.SupersededClient
import RemoteProxy.Library.SupersededServer

namespace RemoteProxy.Superseded

/-- What superseded connections and JSON clients emit is without effect exactly if all that they emit
is harmless. -/
theorem superseded_ignored_iff (env : Qt) :
    (∀ (serverUuid : QUuid) (serverName : String)
        (events : List TunnelProxySocketServer.Wired.Event),
      Runs.Along (TunnelProxySocketServer.Wired.step env)
          (TunnelProxySocketServer.Wired.Undisturbed env) (.new serverUuid serverName) events ↔
        Runs.Along (TunnelProxySocketServer.Wired.step env)
          (TunnelProxySocketServer.Wired.Mute env) (.new serverUuid serverName) events) ∧
    ∀ (clientUuid : QUuid) (clientName : String)
        (events : List TunnelProxyRemoteConnection.Wired.Event),
      Runs.Along (TunnelProxyRemoteConnection.Wired.step env)
          (TunnelProxyRemoteConnection.Wired.Undisturbed env) (.new clientUuid clientName) events ↔
        Runs.Along (TunnelProxyRemoteConnection.Wired.step env)
          (TunnelProxyRemoteConnection.Wired.Mute env) (.new clientUuid clientName) events :=
  ⟨fun _ _ _ => Runs.along_congr TunnelProxySocketServer.Wired.undisturbed_iff,
    fun _ _ _ => Runs.along_congr TunnelProxyRemoteConnection.Wired.undisturbed_iff⟩

def proxyUrl : QUrl := ⟨"tcp://127.0.0.1:2213",true⟩

/-- The server is started anew while it is connected, and the first socket is closed when its
connection is destroyed. -/
def restartedServer : List TunnelProxySocketServer.Wired.Event :=
  [.startServer proxyUrl,.emitted 0 (.connectedChanged true),.startServer proxyUrl,
    .emitted 0 (.connectedChanged false),.emitted 0 (.stateChanged .ClosingState)]

def reconnectedClient : List TunnelProxyRemoteConnection.Wired.Event :=
  [.connectServer proxyUrl ⟨2⟩,.emitted 0 (.connectedChanged true),.connectServer proxyUrl ⟨2⟩,
    .emitted 0 (.connectedChanged false),.emitted 0 (.stateChanged .ClosingState)]

theorem replaced_given_up :
    ¬Runs.Along (TunnelProxySocketServer.Wired.step (Qt.onDocuments []))
        (TunnelProxySocketServer.Wired.Undisturbed (Qt.onDocuments [])) (.new ⟨1⟩ "server")
        restartedServer ∧
      (Runs.run (TunnelProxySocketServer.Wired.step (Qt.onDocuments [])) (.new ⟨1⟩ "server")
        restartedServer).server.m_connection = none ∧
    ¬Runs.Along (TunnelProxyRemoteConnection.Wired.step (Qt.onDocuments []))
        (TunnelProxyRemoteConnection.Wired.Undisturbed (Qt.onDocuments [])) (.new ⟨1⟩ "client")
        reconnectedClient ∧
      (Runs.run (TunnelProxyRemoteConnection.Wired.step (Qt.onDocuments [])) (.new ⟨1⟩ "client")
        reconnectedClient).client.m_connection = none := by
  refine ⟨fun h => ?_,by decide +kernel,fun h => ?_,by decide +kernel⟩
  · have hlost := (h.2.2.2.1 (by decide +kernel) (by decide +kernel)).connection
    exact absurd hlost (by decide +kernel)
  · have hlost := (h.2.2.2.1 (by decide +kernel) (by decide +kernel)).connection
    exact absurd hlost (by decide +kernel)

end RemoteProxy.Superseded
