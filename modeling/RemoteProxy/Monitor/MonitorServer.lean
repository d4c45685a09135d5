import Mathlib.Logic.Function.Basic
import RemoteProxy.Common.JsonPackets
import RemoteProxy.Foundation.Runs

namespace RemoteProxy

/-- `written` is what each connection has been asked to write, and `closed` lists the connections
that have been closed. -/
structure MonitorServer where
  m_clients : List Nat
  written : Nat → QByteArray
  closed : List Nat

namespace MonitorServer

def new : MonitorServer where
  m_clients := []
  written := fun _ => []
  closed := []

def toBool : QVariant → Bool
  | .bool b => b
  | .number mantissa _ => mantissa ≠ 0
  | .string s => !(["","0","false"].contains s.toLower)
  | _ => false

variable (env : Qt)

def line (dataMap : QVariantMap) : QByteArray := env.toJson dataMap ++ [JsonPackets.newline]

def sendMonitorData (s : MonitorServer) (clientConnection : Nat) (dataMap : QVariantMap) :
    MonitorServer :=
  { s with
    written := Function.update s.written clientConnection
      (s.written clientConnection ++ line env dataMap) }

def onMonitorConnected (s : MonitorServer) (clientConnection : Nat) : MonitorServer :=
  { s with m_clients := s.m_clients ++ [clientConnection] }

def onMonitorDisconnected (s : MonitorServer) (clientConnection : Nat) : MonitorServer :=
  { s with m_clients := s.m_clients.filter (· != clientConnection) }

def close (s : MonitorServer) (clientConnection : Nat) : MonitorServer :=
  { s with closed := s.closed ++ [clientConnection] }

def printAll (request : QVariantMap) : Bool :=
  if request.contains "params" then
    let params := (request.value "params").toMap
    if params.contains "printAll" then toBool (params.value "printAll") else false
  else false

def processRequest (buildMonitorData : Bool → QVariantMap) (s : MonitorServer)
    (clientConnection : Nat) (request : QVariantMap) : MonitorServer :=
  if request.contains "method" && env.toString (request.value "method") = "refresh" then
    sendMonitorData env s clientConnection (buildMonitorData (printAll request))
  else s.close clientConnection

def onMonitorReadyRead (buildMonitorData : Bool → QVariantMap) (s : MonitorServer)
    (clientConnection : Nat) (data : QByteArray) : MonitorServer :=
  match env.fromJson data with
  | .error _ => s.close clientConnection
  | .ok jsonDoc => processRequest env buildMonitorData s clientConnection jsonDoc.toMap

def updateClients (s : MonitorServer) (dataMap : QVariantMap) : MonitorServer :=
  s.m_clients.foldl (fun s clientConnection => sendMonitorData env s clientConnection dataMap) s

/-- What the engine answers when it is asked for the monitor data may change from one request to the
next. -/
inductive Event where
  | connected (clientConnection : Nat)
  | disconnected (clientConnection : Nat)
  | readyRead (clientConnection : Nat) (data : QByteArray) (buildMonitorData : Bool → QVariantMap)
  | updateClients (dataMap : QVariantMap)

def step (s : MonitorServer) : Event → MonitorServer
  | .connected clientConnection => onMonitorConnected s clientConnection
  | .disconnected clientConnection => onMonitorDisconnected s clientConnection
  | .readyRead clientConnection data buildMonitorData =>
    onMonitorReadyRead env buildMonitorData s clientConnection data
  | .updateClients dataMap => updateClients env s dataMap

abbrev run : MonitorServer → List Event → MonitorServer := Runs.run (step env)

def lines (reports : List QVariantMap) : QByteArray := reports.flatMap (line env)

section Written

variable {env} {s t u : MonitorServer} {clientConnection : Nat}

theorem sendMonitorData_written (env : Qt) (s : MonitorServer) (clientConnection other : Nat)
    (dataMap : QVariantMap) : (sendMonitorData env s clientConnection dataMap).written other =
      s.written other ++ lines env (if other = clientConnection then [dataMap] else []) := by
  by_cases h : other = clientConnection
  · subst h
    rw [if_pos rfl,lines,List.flatMap_singleton]
    exact Function.update_self ..
  · rw [if_neg h]
    have hsame : (sendMonitorData env s clientConnection dataMap).written other =
        s.written other := Function.update_of_ne h _ _
    rw [hsame,lines,List.flatMap_nil,List.append_nil]

theorem sendMonitorData_fold (env : Qt) (reports : List QVariantMap) (s : MonitorServer)
    (clientConnection : Nat) :
    (reports.foldl (fun s dataMap => sendMonitorData env s clientConnection dataMap) s).written
        clientConnection = s.written clientConnection ++ lines env reports := by
  induction reports generalizing s with
  | nil => exact (List.append_nil _).symm
  | cons dataMap reports ih =>
    rw [List.foldl_cons,ih,sendMonitorData_written,if_pos rfl,List.append_assoc]
    simp only [lines,List.flatMap_cons,List.flatMap_nil,List.append_nil]

def Reported (env : Qt) (clientConnection : Nat) (s t : MonitorServer) : Prop :=
  ∃ reports, t.written clientConnection = s.written clientConnection ++ lines env reports

theorem Reported.trans (h : Reported env clientConnection s t)
    (h' : Reported env clientConnection t u) : Reported env clientConnection s u := by
  obtain ⟨reports,he⟩ := h
  obtain ⟨reports',he'⟩ := h'
  refine ⟨reports ++ reports',?_⟩
  rw [he',he,List.append_assoc,lines,lines,lines,List.flatMap_append]

theorem Reported.of_eq (h : t.written = s.written) : Reported env clientConnection s t :=
  ⟨[],by rw [h]; exact (List.append_nil _).symm⟩

theorem sendMonitorData_reported (s : MonitorServer) (other : Nat) (dataMap : QVariantMap) :
    Reported env clientConnection s (sendMonitorData env s other dataMap) :=
  ⟨_,sendMonitorData_written env s other clientConnection dataMap⟩

theorem step_reported (s : MonitorServer) (event : Event) :
    Reported env clientConnection s (step env s event) := by
  cases event with
  | connected other => exact .of_eq rfl
  | disconnected other => exact .of_eq rfl
  | readyRead other data buildMonitorData =>
    simp only [step,onMonitorReadyRead]
    split
    · exact .of_eq rfl
    · simp only [processRequest]
      split
      · exact sendMonitorData_reported s other _
      · exact .of_eq rfl
  | updateClients dataMap =>
    have hall : ∀ (clients : List Nat) (s : MonitorServer), Reported env clientConnection s
        (clients.foldl (fun s other => sendMonitorData env s other dataMap) s) := by
      intro clients
      induction clients with
      | nil => exact fun s => .of_eq rfl
      | cons other clients ih =>
        exact fun s => (sendMonitorData_reported s other dataMap).trans (ih _)
    exact hall s.m_clients s

theorem run_reported (events : List Event) (s : MonitorServer) :
    Reported env clientConnection s (run env s events) := by
  induction events generalizing s with
  | nil => exact .of_eq rfl
  | cons event events ih => exact (step_reported s event).trans (ih _)

end Written

end MonitorServer

end RemoteProxy
