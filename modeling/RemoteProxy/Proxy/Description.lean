import Mathlib.Algebra.GroupWithZero.Nat
import RemoteProxy.Proxy.Accounts
import RemoteProxy.Proxy.Messages
import RemoteProxy.Proxy.Templates

namespace RemoteProxy

structure Qt.Plain (q : Qt) : Prop where
  toString : ∀ s, q.toString (.string s) = s
  string : ∀ s, q.canConvert (.string s) .String = true
  bool : ∀ b, q.canConvert (.bool b) .Bool = true
  number : ∀ n : Nat, q.canConvert (.ofNat n) .UInt = true

namespace JsonTypes

variable {q : Qt} {templateMap map : QVariantMap}

/-- A required entry of a template, and the entry of that name that it accepts. -/
structure Matches (q : Qt) (template entry : String × QVariant) : Prop where
  key : template.1 = entry.1
  required : isOptional template.1 = false
  valid : (validateVariant q template.2 entry.2).1 = true

theorem keys_of_matches (h : List.Forall₂ (Matches q) templateMap map) :
    templateMap.keys = map.keys := by
  induction h with
  | nil => rfl
  | cons hm _ ih => exact congrArg₂ List.cons hm.key ih

theorem value_of_matches (h : List.Forall₂ (Matches q) templateMap map)
    (hnodup : map.keys.Nodup) {e : String × QVariant} (he : e ∈ templateMap) :
    isOptional e.1 = false ∧ (validateVariant q e.2 (map.value e.1)).1 = true := by
  induction h with
  | nil => cases he
  | @cons template entry templateMap map hm htail ih =>
    obtain ⟨hnot,hrest⟩ := List.nodup_cons.mp hnodup
    rcases List.mem_cons.mp he with rfl | he
    · refine ⟨hm.required,?_⟩
      have hval : QVariantMap.value (entry :: map) entry.1 = entry.2 := by
        rw [QVariantMap.value,List.lookup_cons_self,Option.getD_some]
      rw [hm.key,hval]
      exact hm.valid
    · obtain ⟨hreq,hval⟩ := ih hrest he
      refine ⟨hreq,?_⟩
      have hne : (e.1 == entry.1) = false := by
        rw [beq_eq_false_iff_ne]
        intro heq
        have hmem : e.1 ∈ QVariantMap.keys templateMap := List.mem_map_of_mem he
        rw [keys_of_matches htail,heq] at hmem
        exact hnot hmem
      have hlookup : QVariantMap.value (entry :: map) e.1 = QVariantMap.value map e.1 := by
        obtain ⟨key,v⟩ := entry
        simp only [QVariantMap.value,List.lookup_cons,hne]
      rw [hlookup]
      exact hval

theorem validateMap_of_parts (ht : (validateTemplate q templateMap map).1 = true)
    (ha : (validateAllowed q templateMap map).1 = true) :
    (validateMap q templateMap map).1 = true := by
  simp only [validateMap,ht,Bool.not_true,Bool.false_eq_true,if_false,ha]

theorem validateMap_of_matches (h : List.Forall₂ (Matches q) templateMap map)
    (hnodup : map.keys.Nodup) : (validateMap q templateMap map).1 = true := by
  have hkeys := keys_of_matches h
  have ht : (validateTemplate q templateMap map).1 = true := by
    rw [validateTemplate_iff]
    intro e he
    obtain ⟨hreq,hval⟩ := value_of_matches h hnodup he
    have hkey : strippedKey e.1 = e.1 := if_neg (by simp [hreq])
    rw [hkey]
    refine ⟨fun _ => ?_,fun _ => hval⟩
    have hmem : e.1 ∈ map.keys := hkeys ▸ List.mem_map_of_mem he
    obtain ⟨e',he',heq⟩ := List.mem_map.mp hmem
    exact contains_iff.mpr ⟨e',he',heq⟩
  have ha : (validateAllowed q templateMap map).1 = true := by
    rw [validateAllowed_iff]
    intro key hkey
    rw [← hkeys] at hkey
    obtain ⟨e,he,heq⟩ := List.mem_map.mp hkey
    exact .inl (contains_iff.mpr ⟨e,he,heq⟩)
  exact validateMap_of_parts ht ha

theorem validateVariant_basic {name : String} {value : QVariant}
    (href : (name.toList.take 5 == ['$','r','e','f',':']) = false)
    (h : (validateProperty q (.string name) value).1 = true) :
    (validateVariant q (.string name) value).1 = true := by
  rw [validateVariant_name,validateString,href]
  exact h

theorem validateTemplate_of_map (h : (validateMap q templateMap map).1 = true) :
    (validateTemplate q templateMap map).1 = true := by
  simp only [validateMap] at h
  split at h
  · next hf => exact h
  · next hf => simpa using hf

end JsonTypes

open JsonTypes

section Values

variable {q : Qt} (hq : q.Plain)

include hq

theorem string_valid (s : String) :
    (validateVariant q (JsonHandler.basic .String) (.string s)).1 = true := by
  refine validateVariant_basic (by decide) ?_
  simp [validateProperty,hq.toString,basicTypeToString,report,hq.string]

theorem bool_valid (b : Bool) :
    (validateVariant q (JsonHandler.basic .Bool) (.bool b)).1 = true := by
  refine validateVariant_basic (by decide) ?_
  simp [validateProperty,hq.toString,basicTypeToString,report,hq.bool]

theorem object_valid (v : QVariant) :
    (validateVariant q (JsonHandler.basic .Object) v).1 = true := by
  refine validateVariant_basic (by decide) ?_
  simp [validateProperty,hq.toString,basicTypeToString,report]

theorem uint_valid_iff (v : QVariant) :
    (validateVariant q (JsonHandler.basic .UInt) v).1 = true ↔ q.canConvert v .UInt = true := by
  have href : ("UInt".toList.take 5 == ['$','r','e','f',':']) = false := by decide
  rw [JsonHandler.basic,basicTypeToString,validateVariant_name,validateString,href]
  simp [validateProperty,hq.toString,basicTypeToString,report]

theorem error_valid (e : TunnelProxyError) :
    (validateVariant q (.string tunnelProxyErrorRef) (.string (tunnelProxyErrorToString e))).1 =
      true := by
  have href : (tunnelProxyErrorRef.toList.take 5 == ['$','r','e','f',':']) = true := by decide
  have hne : tunnelProxyErrorRef ≠ basicTypeRef := by decide
  rw [validateVariant_name,validateString,href,if_pos rfl,if_neg hne,if_pos rfl]
  have hmem : tunnelProxyErrorToString e ∈ tunnelProxyError.map q.toString := by
    simp only [tunnelProxyError,List.map_map,List.mem_map,Function.comp_apply,hq.toString]
    exact ⟨e,by cases e <;> decide,rfl⟩
  simp only [validateEnum,report,hq.toString,List.contains_iff_mem]
  exact hmem

end Values

namespace TunnelProxyServer

open Handlers Relation

section Returns

variable {env : Environment}

theorem ping_valid (s : TunnelProxyServer) {params : QVariantMap} (o : ObjectId)
    (hp : (tunnelProxyHandler.validateParams env.toQt "Ping" params).1 = true) :
    (tunnelProxyHandler.validateReturns env.toQt "Ping" (Ping s params o).2).1 = true := by
  have htemplate : tunnelProxyHandler.m_params.lookup "Ping" =
      some [("timestamp",JsonHandler.basic .UInt)] := rfl
  rw [JsonHandler.validateParams,htemplate,Option.getD_some] at hp
  have hrequired : isOptional "timestamp" = false := by decide
  have hkey : strippedKey "timestamp" = "timestamp" := if_neg (by simp [hrequired])
  obtain ⟨hpresent,hvalid⟩ := validateTemplate_iff.mp (validateTemplate_of_map hp) _
    (List.mem_singleton_self _)
  rw [hkey] at hpresent hvalid
  refine validateMap_of_matches (.cons ⟨rfl,hrequired,hvalid (hpresent hrequired)⟩ .nil) ?_
  simp [Ping,QVariantMap.keys]

variable (hq : env.toQt.Plain)

include hq

theorem hello_valid (s : TunnelProxyServer) (params : QVariantMap) (o : ObjectId) :
    (jsonRpcServerHandler.validateReturns env.toQt "Hello" (Hello env s params o).2).1 = true := by
  have hvalid := string_valid hq
  refine validateMap_of_matches ?_ (by simp [Hello,QVariantMap.keys])
  exact .cons ⟨rfl,by decide,hvalid _⟩ (.cons ⟨rfl,by decide,hvalid _⟩
    (.cons ⟨rfl,by decide,hvalid _⟩ (.cons ⟨rfl,by decide,hvalid _⟩ .nil)))

theorem introspect_valid (s : TunnelProxyServer) (params : QVariantMap) (o : ObjectId) :
    (jsonRpcServerHandler.validateReturns env.toQt "Introspect"
      (Introspect s params o).2).1 = true := by
  have hkeys : (Introspect s params o).2.keys = ["types","methods","notifications"] := rfl
  refine validateMap_of_parts (validateTemplate_iff.mpr fun e he => ?_)
    (validateAllowed_iff.mpr fun key hkey => ?_)
  · have htemplate : e ∈ [("methods",JsonHandler.basic .Object),("types",JsonHandler.basic .Object),
        ("notifications",JsonHandler.basic .Object)] := he
    simp only [List.mem_cons,List.not_mem_nil,or_false] at htemplate
    rcases htemplate with rfl | rfl | rfl
    · exact ⟨fun _ => rfl,fun _ => object_valid hq _⟩
    · exact ⟨fun _ => rfl,fun _ => object_valid hq _⟩
    · exact ⟨fun _ => rfl,fun _ => object_valid hq _⟩
  · rw [hkeys] at hkey
    simp only [List.mem_cons,List.not_mem_nil,or_false] at hkey
    rcases hkey with rfl | rfl | rfl
    · exact .inl rfl
    · exact .inl rfl
    · exact .inl rfl

theorem errorResponse_valid (e : TunnelProxyError) :
    (validateMap env.toQt [("tunnelProxyError",.string tunnelProxyErrorRef)]
      (errorResponse e)).1 = true := by
  refine validateMap_of_matches (.cons ⟨rfl,by decide,error_valid hq e⟩ .nil) ?_
  simp [errorResponse,QVariantMap.keys]

theorem registerServer_valid (s : TunnelProxyServer) (params : QVariantMap) (o : ObjectId) :
    (tunnelProxyHandler.validateReturns env.toQt "RegisterServer"
      (RegisterServer env s params o).2).1 = true := by
  refine validateMap_of_matches ?_ (by simp [RegisterServer,errorResponse,QVariantMap.keys])
  exact .cons ⟨rfl,by decide,error_valid hq _⟩ (.cons ⟨rfl,by decide,bool_valid hq _⟩ .nil)

theorem method_valid {targetNamespace name : String} {handler : JsonHandler}
    {method : Handlers.Method} {params : QVariantMap}
    (hhandler : m_handlers.lookup targetNamespace = some handler)
    (hmethod : Handlers.method? env targetNamespace name = some method)
    (hparams : (handler.validateParams env.toQt name params).1 = true)
    (s : TunnelProxyServer) (o : ObjectId) :
    (handler.validateReturns env.toQt name (method s params o).2).1 = true := by
  obtain ⟨before,after,hlist,-⟩ := List.lookup_eq_some_iff.mp hmethod
  have hmem := hlist ▸ List.mem_append_right before (List.mem_cons_self (a := _) (l := after))
  simp only [List.mem_cons,Prod.mk.injEq,List.not_mem_nil,or_false] at hmem
  rcases hmem with ⟨⟨rfl,rfl⟩,rfl⟩ | ⟨⟨rfl,rfl⟩,rfl⟩ | ⟨⟨rfl,rfl⟩,rfl⟩ | ⟨⟨rfl,rfl⟩,rfl⟩ |
    ⟨⟨rfl,rfl⟩,rfl⟩ | ⟨⟨rfl,rfl⟩,rfl⟩
  · obtain rfl : jsonRpcServerHandler = handler := Option.some.inj hhandler
    exact hello_valid hq s params o
  · obtain rfl : jsonRpcServerHandler = handler := Option.some.inj hhandler
    exact introspect_valid hq s params o
  · obtain rfl : tunnelProxyHandler = handler := Option.some.inj hhandler
    exact registerServer_valid hq s params o
  · obtain rfl : tunnelProxyHandler = handler := Option.some.inj hhandler
    exact errorResponse_valid hq _
  · obtain rfl : tunnelProxyHandler = handler := Option.some.inj hhandler
    exact ping_valid s o hparams
  · obtain rfl : tunnelProxyHandler = handler := Option.some.inj hhandler
    exact errorResponse_valid hq _

end Returns

section Notifications

/-- A notification of the description, with the parameters that it announces. -/
def Announced (q : Qt) (nameSpace method : String) (params : QVariantMap) : Prop :=
  ∃ handler, m_handlers.lookup nameSpace = some handler ∧ (method,.Signal) ∈ handler.methods ∧
    (handler.validateParams q method params).1 = true

/-- What a request can be answered with: the returns that the description has for its method. -/
def Returned (env : Environment) (commandId : Int) (params : QVariantMap) : Prop :=
  ∃ data r, JsonRpcServer.request env data = some r ∧ r.commandId = commandId ∧
    (r.handler.validateReturns env.toQt r.method params).1 = true

def Output.Described (env : Environment) : Output → Prop
  | .sent _ (.response commandId params) _ => Returned env commandId params
  | .sent _ (.notification _ nameSpace method params) _ =>
    Announced env.toQt nameSpace method params
  | .assertFailed place _ => place ≠ "validating return value"
  | _ => True

variable {env : Environment} {s s' : TunnelProxyServer}

theorem clientConnected_announced (hq : env.toQt.Plain) (s : TunnelProxyServer) (o : ObjectId) :
    Announced env.toQt "TunnelProxy" "ClientConnected" (clientConnectedParams env s o) := by
  refine ⟨tunnelProxyHandler,rfl,by decide,?_⟩
  refine validateMap_of_matches ?_ (by simp [clientConnectedParams,QVariantMap.keys])
  have hvalid := string_valid hq
  exact .cons ⟨rfl,by decide,hvalid _⟩ (.cons ⟨rfl,by decide,hvalid _⟩
    (.cons ⟨rfl,by decide,hvalid _⟩
      (.cons ⟨rfl,by decide,(uint_valid_iff hq _).mpr (hq.number _)⟩ .nil)))

theorem clientDisconnected_announced (hq : env.toQt.Plain) (s : TunnelProxyServer)
    (o : ObjectId) :
    Announced env.toQt "TunnelProxy" "ClientDisconnected" (clientDisconnectedParams s o) := by
  refine ⟨tunnelProxyHandler,rfl,by decide,?_⟩
  refine validateMap_of_matches ?_ (by simp [clientDisconnectedParams,QVariantMap.keys])
  exact .cons ⟨rfl,by decide,(uint_valid_iff hq _).mpr (hq.number _)⟩ .nil

def Output.announced (q : Qt) : Output → Prop
  | .sent _ (.notification _ nameSpace method params) _ => Announced q nameSpace method params
  | _ => True

theorem says_announced (hq : env.toQt.Plain) : Says env (Output.announced env.toQt) where
  quiet x hx := by
    cases x with
    | sent o m data =>
      cases m with
      | notification => exact hx.elim
      | _ => trivial
    | _ => trivial
  tunnelData _ _ _ _ _ := trivial
  connected s client _ _ _ := clientConnected_announced hq s client
  disconnected s client _ _ _ := clientDisconnected_announced hq s client

end Notifications

section Replies

variable {env : Environment} {up : Prop} {s s' : TunnelProxyServer}

def Output.checked (env : Environment) : Output → Prop
  | .sent _ (.response commandId params) _ => Returned env commandId params
  | .assertFailed place _ => place ≠ "validating return value"
  | _ => True

theorem request_valid {data : QByteArray} {r : Request}
    (hr : JsonRpcServer.request env data = some r) :
    (r.handler.validateParams env.toQt r.method r.params).1 = true := by
  simp only [JsonRpcServer.request] at hr
  split at hr
  · cases hr
  · split at hr
    · cases hr
    · split at hr
      · split at hr
        · cases hr
        · split at hr
          · cases hr
          · split at hr
            · cases hr
            · next hvalid =>
              obtain rfl := Option.some.inj hr
              simpa using hvalid
      · cases hr

theorem flaw_checked (hq : env.toQt.Plain) {place : String} (h : Flaw env place) :
    place ≠ "validating return value" := by
  cases h with
  | unattached => decide
  | noFreeAddress => decide
  | @misreturned s o data r method h =>
    have hvalid := method_valid hq (request_named h.request).2.1 h.found
      (request_valid h.request) s o
    rw [h.returns] at hvalid
    cases hvalid

theorem answer_checked (hq : env.toQt.Plain) {m : Message} (h : Answer env m) (o : ObjectId)
    (bytes : QByteArray) : Output.checked env (.sent o m bytes) := by
  cases h with
  | @response s x data r method hr hm =>
    exact ⟨data,r,hr,rfl,method_valid hq (request_named hr).2.1 hm (request_valid hr) s x⟩
  | errorResponse => trivial

theorem effect_checked (hq : env.toQt.Plain) (hw : Effect env up s s')
    (h : ∀ x ∈ s.output, Output.checked env x) : ∀ x ∈ s'.output, Output.checked env x := by
  have hmore : ∀ y, Output.checked env y → ∀ x ∈ s.output ++ [y], Output.checked env x := by
    intro y hy x hx
    rcases List.mem_append.mp hx with hx | hx
    · exact h x hx
    · rw [List.mem_singleton.mp hx]
      exact hy
  cases hw with
  | tables hs =>
    rw [hs.output]
    exact h
  | processed _ => exact h
  | overflowed => exact hmore (.killed _ _) trivial
  | doomed => exact h
  | registered _ _ => exact h
  | slipRequested => exact h
  | slipEnabled => exact h
  | timedOut => exact hmore (.killed _ _) trivial
  | answered hm => exact hmore (.sent _ _ _) (answer_checked hq hm _ _)
  | notified => exact hmore (.sent _ _ _) trivial
  | passedUp => exact hmore (.sent _ _ _) trivial
  | passedDown _ => exact hmore (.sent _ _ _) trivial
  | asserted hflaw => exact hmore (.assertFailed _ _) (flaw_checked hq hflaw)
  | killRequested => exact hmore (.killed _ _) trivial

theorem reachable_checked (hq : env.toQt.Plain) (h : Reachable env s) :
    ∀ x ∈ s.output, Output.checked env x := by
  refine reachable_of_effects (P := fun s => ∀ x ∈ s.output, Output.checked env x) ?_ ?_ ?_ ?_ ?_ h
  · exact fun x hx => by simp [new] at hx
  · exact fun s id address _ _ h => h
  · exact fun s o data h => h
  · exact fun s ms h => h
  · exact fun s s' h hw => effect_checked hq hw h

end Replies

theorem request_returns (hq : env.toQt.Plain) {data : QByteArray} {r : Request}
    (hr : JsonRpcServer.request env data = some r) (s : TunnelProxyServer) (o : ObjectId) :
    ∃ params bytes, (JsonRpcServer.processDataPacket env s o data).answers =
        s.answers ++ [.sent o (.response r.commandId params) bytes] ∧
      (r.handler.validateReturns env.toQt r.method params).1 = true := by
  obtain ⟨-,hhandler,hname⟩ := request_named hr
  obtain ⟨method,hm⟩ := method_found env hhandler hname
  rw [processDataPacket_request hr]
  exact ⟨_,_,invoke_answers hm s o,method_valid hq hhandler hm (request_valid hr) s o⟩

/-- The proxy keeps to the description that `Introspect` gives of it: no method returns anything but
what it says there, no notification is unknown to it or has other parameters, and the notifications
are numbered in the order in which they are sent, whatever the server, as far as an `int` goes. -/
theorem api_described (hq : env.toQt.Plain) {events : List Event}
    (hfresh : FreshRun env new events) :
    (∀ x ∈ (new.run env events).output, Output.Described env x) ∧
      (∀ (s : TunnelProxyServer) (o : ObjectId) (data : QByteArray) (r : Request),
        JsonRpcServer.request env data = some r →
          ∃ params bytes, (JsonRpcServer.processDataPacket env s o data).answers =
              s.answers ++ [.sent o (.response r.commandId params) bytes] ∧
            (r.handler.validateReturns env.toQt r.method params).1 = true) ∧
      ((new.run env events).notificationIds.length < 2 ^ 31 →
        (new.run env events).notificationIds.map Int32.toInt =
          (List.range (new.run env events).notificationIds.length).map Nat.cast) := by
  have h := Reachable.run .new hfresh
  refine ⟨fun x hx => ?_,fun s o data r hr => request_returns hq hr s o,
    notificationIds_toInt h⟩
  have hannounced := (says_announced hq).reachable h x hx
  have hchecked := reachable_checked hq h x hx
  cases x with
  | sent o m data =>
    cases m with
    | notification => exact hannounced
    | response => exact hchecked
    | _ => trivial
  | killed => trivial
  | assertFailed => exact hchecked

theorem sampleEnvironment_plain (atOnce : Bool) : (sampleEnvironment atOnce).toQt.Plain :=
  ⟨fun _ => rfl,fun _ => rfl,fun _ => rfl,fun _ => rfl⟩

theorem api_described_disconnect :
    let env := sampleEnvironment true
    let s := new.run env (sampleEvents true ++ [.clientDisconnected ⟨2⟩])
    (∀ x ∈ s.output, Output.Described env x) ∧
      (∀ (s : TunnelProxyServer) (o : ObjectId) (data : QByteArray) (r : Request),
        JsonRpcServer.request env data = some r →
          ∃ params bytes, (JsonRpcServer.processDataPacket env s o data).answers =
              s.answers ++ [.sent o (.response r.commandId params) bytes] ∧
            (r.handler.validateReturns env.toQt r.method params).1 = true) ∧
      (s.notificationIds.length < 2 ^ 31 → s.notificationIds.map Int32.toInt =
        (List.range s.notificationIds.length).map Nat.cast) :=
  api_described (sampleEnvironment_plain true) (by decide +kernel)

end TunnelProxyServer

end RemoteProxy
