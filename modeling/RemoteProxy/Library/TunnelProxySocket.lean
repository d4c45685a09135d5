import RemoteProxy.Common.SlipDataProcessor

namespace RemoteProxy

structure TunnelProxySocket where
  m_clientName : String
  m_clientUuid : QUuid
  m_clientPeerAddress : String
  m_socketAddress : UInt16
  m_connected : Bool

namespace TunnelProxySocket

def new (clientName : String) (clientUuid : QUuid) (clientPeerAddress : String)
    (socketAddress : UInt16) : TunnelProxySocket where
  m_clientName := clientName
  m_clientUuid := clientUuid
  m_clientPeerAddress := clientPeerAddress
  m_socketAddress := socketAddress
  m_connected := true

def setDisconnected (socket : TunnelProxySocket) : TunnelProxySocket :=
  { socket with m_connected := false }

def writeData (socket : TunnelProxySocket) (data : QByteArray) : QByteArray :=
  SlipDataProcessor.serializeData (SlipDataProcessor.buildFrame ⟨socket.m_socketAddress,data⟩)

end TunnelProxySocket

end RemoteProxy
