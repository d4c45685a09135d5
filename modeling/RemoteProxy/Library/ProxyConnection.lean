import RemoteProxy.Qt.Types

namespace RemoteProxy

inductive ConnectionType where
  | ConnectionTypeWebSocket | ConnectionTypeTcpSocket
  deriving DecidableEq, Repr

def QUrl.scheme (u : QUrl) : String :=
  String.ofList ((u.toString.toList.takeWhile (· ≠ ':')).map Char.toLower)

/-- A `TcpSocketConnection` or a `WebSocketConnection`, which never has `m_ssl`. -/
structure ProxyConnection where
  m_connected : Bool
  m_ssl : Bool
  deriving DecidableEq, Repr

namespace ProxyConnection

/-- A signal of the socket below; `encrypted` is one of TCP sockets only. -/
inductive SocketSignal where
  | stateChanged (state : SocketState)
  | encrypted
  | disconnected
  deriving DecidableEq, Repr

inductive Signal where
  | connectedChanged (connected : Bool)
  | stateChanged (state : SocketState)
  deriving DecidableEq, Repr

def connecting (connectionType : ConnectionType) (serverUrl : QUrl) : ProxyConnection where
  m_connected := false
  m_ssl := connectionType = .ConnectionTypeTcpSocket && serverUrl.scheme ≠ "tcp"

def setConnected (c : ProxyConnection) (connected : Bool) : ProxyConnection × List Signal :=
  if c.m_connected = connected then (c,[])
  else ({ c with m_connected := connected },[.connectedChanged connected])

def onStateChanged (c : ProxyConnection) (state : SocketState) : ProxyConnection × List Signal :=
  let r := match state with
    | .ConnectedState => if !c.m_ssl then c.setConnected true else (c,[])
    | _ => c.setConnected false
  (r.1,r.2 ++ [.stateChanged state])

def onSocketSignal (c : ProxyConnection) : SocketSignal → ProxyConnection × List Signal
  | .stateChanged state => c.onStateChanged state
  | .encrypted => c.setConnected true
  | .disconnected => c.setConnected false

variable {c : ProxyConnection}

theorem setConnected_m_connected (c : ProxyConnection) (connected : Bool) :
    (c.setConnected connected).1.m_connected = connected := by
  rw [setConnected]
  split
  · next h => exact h
  · rfl

theorem setConnected_m_ssl (c : ProxyConnection) (connected : Bool) :
    (c.setConnected connected).1.m_ssl = c.m_ssl := by
  rw [setConnected]
  split <;> rfl

theorem setConnected_cases (c : ProxyConnection) (connected : Bool) :
    c.m_connected = connected ∧ c.setConnected connected = (c,[]) ∨
      c.m_connected = !connected ∧ c.setConnected connected =
        ({ c with m_connected := connected },[.connectedChanged connected]) := by
  rw [setConnected]
  split
  · next h => exact .inl ⟨h,rfl⟩
  · next h => exact .inr ⟨Bool.eq_not_of_ne h,rfl⟩

theorem onStateChanged_m_ssl (c : ProxyConnection) (state : SocketState) :
    (c.onStateChanged state).1.m_ssl = c.m_ssl := by
  cases state with
  | ConnectedState =>
    simp only [onStateChanged]
    split
    · exact setConnected_m_ssl c true
    · rfl
  | _ => exact setConnected_m_ssl c false

theorem onStateChanged_m_connected (c : ProxyConnection) (state : SocketState) :
    (c.onStateChanged state).1.m_connected = true ↔
      state = .ConnectedState ∧ (c.m_ssl = false ∨ c.m_connected = true) := by
  cases state with
  | ConnectedState =>
    simp only [onStateChanged,true_and]
    split
    · next h => exact iff_of_true (setConnected_m_connected c true) (.inl (by simpa using h))
    · next h => exact ⟨.inr,fun hc => hc.elim (fun hf => absurd hf (by simpa using h)) id⟩
  | _ => simp [onStateChanged,setConnected_m_connected]

end ProxyConnection

end RemoteProxy
