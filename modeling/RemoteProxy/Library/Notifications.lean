import RemoteProxy.Library.Correlation

namespace RemoteProxy

open JsonRpcClient

inductive Notification where
  | ClientConnected | ClientDisconnected
  deriving DecidableEq, Repr

namespace Notification

def method : Notification → String
  | .ClientConnected => "TunnelProxy.ClientConnected"
  | .ClientDisconnected => "TunnelProxy.ClientDisconnected"

def signal (env : Qt) (params : QVariantMap) : Notification → Signal
  | .ClientConnected =>
    .tunnelProxyClientConnected (env.toString (params.value "clientName"))
      (env.toUuid (params.value "clientUuid")) (env.toString (params.value "clientPeerAddress"))
      (UInt16.ofNat (env.toUInt (params.value "socketAddress")))
  | .ClientDisconnected =>
    .tunnelProxyClientDisonnected (UInt16.ofNat (env.toUInt (params.value "socketAddress")))

end Notification

/-- A client in an exchange with a proxy whose next notification is numbered `notificationId` or
higher, since those for other servers count too. -/
structure Subscription where
  exchange : Exchange
  notificationId : Nat

namespace Subscription

inductive Event where
  | exchange (e : Exchange.Event)
  | notify (id : Nat) (notification : Notification) (params : QVariantMap) (data : QByteArray)

def new : Subscription where
  exchange := .new
  notificationId := 0

def step (env : Qt) (s : Subscription) : Event → Subscription
  | .exchange e => { s with exchange := s.exchange.step env e }
  | .notify id _ _ data =>
    let r := processDataPacket env s.exchange.client data
    { exchange := { s.exchange with
        client := r.1
        finished := s.exchange.finished ++ finishes r }
      notificationId := id + 1 }

def Valid (env : Qt) (s : Subscription) : Event → Prop
  | .exchange e => s.exchange.Valid env e
  | .notify id notification params data =>
    s.notificationId ≤ id ∧ ∃ dataMap : QVariantMap, env.fromJson data = .ok (.map dataMap) ∧
      env.toInt (dataMap.value "id") = some id ∧ dataMap.contains "notification" ∧
      env.toString (dataMap.value "notification") = notification.method ∧
      (dataMap.value "params").toMap = params

def ValidRun (env : Qt) (s : Subscription) : List Event → Prop
  | [] => True
  | e :: events => Valid env s e ∧ ValidRun env (s.step env e) events

def Notified (env : Qt) (s : Subscription) : List Event → Prop
  | [] => True
  | e :: events =>
    (∀ id notification params data, e = .notify id notification params data →
      (processDataPacket env s.exchange.client data).2 = some (notification.signal env params) ∧
        finishes (processDataPacket env s.exchange.client data) = []) ∧
    Notified env (s.step env e) events

/-- The notification numbered 0 arrives, if at all, when no reply is awaited. -/
def Undisturbed (env : Qt) (s : Subscription) : List Event → Prop
  | [] => True
  | e :: events =>
    (∀ notification params data, e = .notify 0 notification params data →
      s.exchange.client.m_replies.value 0 = none) ∧
    Undisturbed env (s.step env e) events

variable {env : Qt} {s : Subscription}

theorem notificationSignal_of {dataMap : QVariantMap} {notification : Notification}
    (hcontains : dataMap.contains "notification")
    (hmethod : env.toString (dataMap.value "notification") = notification.method) :
    notificationSignal env dataMap =
      some (notification.signal env (dataMap.value "params").toMap) := by
  have hparts (method : String) (name : String)
      (hsplit : QString.split '.' method = ["TunnelProxy",name]) :
      (QString.split '.' method).head?.getD "" = "TunnelProxy" ∧
        (QString.split '.' method).getLast?.getD "" = name := by
    rw [hsplit]
    exact ⟨rfl,rfl⟩
  rw [notificationSignal,if_pos hcontains,hmethod]
  cases notification with
  | ClientConnected =>
    obtain ⟨h1,h2⟩ := hparts (Notification.method .ClientConnected) "ClientConnected" (by decide)
    simp only [h1,h2]
    rfl
  | ClientDisconnected =>
    obtain ⟨h1,h2⟩ :=
      hparts (Notification.method .ClientDisconnected) "ClientDisconnected" (by decide)
    simp only [h1,h2]
    rfl

theorem notify_iff (hs : OnlyZero s.exchange.client) {id : Nat} {notification : Notification}
    {params : QVariantMap} {data : QByteArray}
    (hv : Valid env s (.notify id notification params data)) :
    ((processDataPacket env s.exchange.client data).2 = some (notification.signal env params) ∧
        finishes (processDataPacket env s.exchange.client data) = []) ↔
      (id = 0 → s.exchange.client.m_replies.value 0 = none) := by
  obtain ⟨-,dataMap,hj,hid,hcontains,hmethod,rfl⟩ := hv
  have htold (h : s.exchange.client.m_replies.value id = none) :
      (processDataPacket env s.exchange.client data).2 =
          some (notification.signal env (dataMap.value "params").toMap) ∧
        finishes (processDataPacket env s.exchange.client data) = [] := by
    obtain ⟨he,hf⟩ := processDataPacket_unknown hj hid h
    rw [hf,he,notificationSignal_of hcontains hmethod]
    exact ⟨rfl,rfl⟩
  by_cases h0 : id = 0
  · subst h0
    cases hr : s.exchange.client.m_replies.value 0 with
    | none => exact iff_of_true (htold hr) fun _ => rfl
    | some reply =>
      obtain ⟨-,hf⟩ := processDataPacket_awaited hj hid hr
      refine iff_of_false (fun h => ?_) fun h => absurd (h rfl) (by simp)
      rw [hf] at h
      exact absurd h.2 (by simp)
  · exact iff_of_true (htold (hs.others _ (by exact_mod_cast h0))) fun h => absurd h h0

theorem notified_iff_from (hs : Exchange.Sound s.exchange) {events : List Event}
    (hv : ValidRun env s events) : Notified env s events ↔ Undisturbed env s events := by
  induction events generalizing s with
  | nil => exact Iff.rfl
  | cons e events ih =>
    have hnext : Exchange.Sound (s.step env e).exchange := by
      cases e with
      | exchange e => exact hs.step env e
      | notify id notification params data =>
        exact ⟨hs.onlyZero.processDataPacket env data,hs.commandId⟩
    refine and_congr ⟨fun h => ?_,fun h => ?_⟩ (ih hnext hv.2)
    · rintro notification params data rfl
      exact (notify_iff hs.onlyZero hv.1).mp (h _ _ _ _ rfl) rfl
    · rintro id notification params data rfl
      refine (notify_iff hs.onlyZero hv.1).mpr ?_
      rintro rfl
      exact h _ _ _ rfl

/-- Every notification is told of by its signal and finishes no reply exactly when the notification
numbered 0 never arrives while a reply is awaited. -/
theorem notified_iff_undisturbed {events : List Event} (hv : ValidRun env new events) :
    Notified env new events ↔ Undisturbed env new events :=
  notified_iff_from Exchange.idle_new.1 hv

section Run

def connectedParams : QVariantMap :=
  [("clientName",.string "client"),("clientPeerAddress",.string "10.0.0.1"),
    ("clientUuid",.string (uuidText 5)),("socketAddress",.number 1 0)]

def connectedNotification : QVariantMap :=
  [("id",.number 0 0),("notification",.string "TunnelProxy.ClientConnected"),
    ("params",.map connectedParams)]

def notifyConnected : Event :=
  .notify 0 .ClientConnected connectedParams (QJsonDocument.toJson (.map connectedNotification))

theorem notified_iff_undisturbed_answered :
    Notified (Qt.onDocuments [Exchange.pingResponse,connectedNotification]) new
        [.exchange (.call (.ping 7)),.exchange (Exchange.answer 0 Exchange.pingResponse),
          notifyConnected] ↔
      Undisturbed (Qt.onDocuments [Exchange.pingResponse,connectedNotification]) new
        [.exchange (.call (.ping 7)),.exchange (Exchange.answer 0 Exchange.pingResponse),
          notifyConnected] :=
  notified_iff_undisturbed ⟨trivial,⟨by decide,rfl,rfl⟩,
    ⟨by decide,connectedNotification,rfl,rfl,rfl,rfl,rfl⟩,trivial⟩

theorem first_notification_taken :
    ValidRun (Qt.onDocuments [connectedNotification]) new
      [.exchange (.call (.ping 7)),notifyConnected] ∧
    ¬Notified (Qt.onDocuments [connectedNotification]) new
      [.exchange (.call (.ping 7)),notifyConnected] := by
  refine ⟨⟨trivial,⟨by decide,connectedNotification,rfl,rfl,rfl,rfl,rfl⟩,trivial⟩,fun h => ?_⟩
  have hnone := (h.2.1 _ _ _ _ rfl).2
  exact absurd (congrArg List.length hnone) (by decide +kernel)

end Run

end Subscription

end RemoteProxy
