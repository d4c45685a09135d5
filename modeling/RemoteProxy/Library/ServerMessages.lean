import RemoteProxy.Library.Passage
import RemoteProxy.Library.SlipMessages
import RemoteProxy.Proxy.Limits

namespace RemoteProxy.TunnelProxyServer

open Sessions SlipDataProcessor

variable {env : Environment} {up : Prop} {s s' : TunnelProxyServer}

/-- A notification is sent as the line of JSON that says it, and data as the frame of their
address. -/
def Output.spelled (env : Environment) : Output → Prop
  | .sent _ (.notification id nameSpace method params) bytes =>
    ∃ slipEnabled, bytes = lineFrame env slipEnabled [("id",.number id.toInt 0),
      ("notification",.string (nameSpace ++ "." ++ method)),("params",.map params)]
  | .sent _ (.tunnelData _ socketAddress data) bytes =>
    bytes = serializeData (buildFrame ⟨socketAddress,data⟩)
  | _ => True

theorem effect_spelled (hw : Effect env up s s') (h : ∀ x ∈ s.output, Output.spelled env x) :
    ∀ x ∈ s'.output, Output.spelled env x := by
  have hone : ∀ {t : TunnelProxyServer} {x : Output}, t.output = s.output ++ [x] →
      Output.spelled env x → ∀ x ∈ t.output, Output.spelled env x := by
    intro t x hout hx y hy
    rw [hout] at hy
    rcases List.mem_append.mp hy with hy | hy
    · exact h y hy
    · exact List.mem_singleton.mp hy ▸ hx
  cases hw with
  | tables hs =>
    rw [hs.output]
    exact h
  | processed _ => exact h
  | overflowed => exact hone rfl trivial
  | doomed => exact h
  | registered _ _ => exact h
  | slipRequested => exact h
  | slipEnabled => exact h
  | timedOut => exact hone rfl trivial
  | @answered _ m hm =>
    refine hone rfl ?_
    cases m with
    | notification => cases hm
    | tunnelData => cases hm
    | _ => trivial
  | notified => exact hone rfl ⟨_,rfl⟩
  | passedUp _ => exact hone rfl rfl
  | passedDown _ => exact hone rfl trivial
  | asserted _ => exact hone rfl trivial
  | killRequested => exact hone rfl trivial

theorem effects_spelled (hw : Effects env up s s') (h : ∀ x ∈ s.output, Output.spelled env x) :
    ∀ x ∈ s'.output, Output.spelled env x := by
  induction hw with
  | refl => exact h
  | tail _ hw ih => exact effect_spelled hw ih

theorem step_spelled (hc : Consistent [] s) {event : Event} (hfresh : s.Fresh event)
    (h : ∀ x ∈ s.output, Output.spelled env x) :
    ∀ x ∈ (s.step env event).output, Output.spelled env x := by
  have hstep := stepped env hc hfresh
  generalize s.step env event = t at hstep
  cases hstep with
  | admitted => exact h
  | @received o data _ _ hw =>
    have hreceived : (s.received o data).output = s.output := rfl
    exact effects_spelled hw (hreceived ▸ h)
  | ignored => exact h
  | left hw => exact effects_spelled hw h
  | timedOut hw => exact effects_spelled hw h
  | elapsed => exact h

theorem run_spelled {events : List Event} (hr : Reachable env s) (hfresh : FreshRun env s events)
    (h : ∀ x ∈ s.output, Output.spelled env x) :
    ∀ x ∈ (s.run env events).output, Output.spelled env x := by
  induction events generalizing s with
  | nil => exact h
  | cons event events ih =>
    exact ih (hr.step hfresh.1) hfresh.2 (step_spelled (reachable_consistent hr) hfresh.1 h)

theorem run_output {events : List Event} (hr : Reachable env s) (hfresh : FreshRun env s events) :
    ∃ new, (s.run env events).output = s.output ++ new := by
  induction events generalizing s with
  | nil => exact ⟨[],(List.append_nil _).symm⟩
  | cons event events ih =>
    obtain ⟨one,hone⟩ := step_output env (reachable_consistent hr) hfresh.1
    obtain ⟨new,hnew⟩ := ih (hr.step hfresh.1) hfresh.2
    refine ⟨one ++ new,?_⟩
    rw [← List.append_assoc,← hone]
    exact hnew

theorem freshRun_append {before after : List Event} (h : FreshRun env s (before ++ after)) :
    FreshRun env s before ∧ FreshRun env (s.run env before) after := by
  induction before generalizing s with
  | nil => exact ⟨trivial,h⟩
  | cons event before ih =>
    obtain ⟨hbefore,hafter⟩ := ih h.2
    exact ⟨⟨h.1,hbefore⟩,hafter⟩

/-- What a server is told about its clients is well bracketed and says what its bytes say; the data
it is sent are, chunk by chunk, those of the clients attached to it; from the moment on in which it
talks SLIP it is sent frames alone; and what it has been told adds up to the clients attached. -/
theorem server_stream {events : List Event} (hfresh : FreshRun env new events)
    (hfree : FreeAddresses (new.run env events)) {u : QUuid} {server : ObjectId}
    (hserver : (new.run env events).m_tunnelProxyServerConnections.value u = some server) :
    WellBracketed env.uuidToString (marksTo (new.run env events) server) ∧
      clientDataTo (new.run env events) server =
        Conduit.along (step env) (clientDataFrom server) new events ∧
      (∀ x ∈ (new.run env events).output, Output.spelled env x) ∧
      (∀ before after, events = before ++ after → Speaks server (new.run env before) →
        Frames env server (new.run env before) (new.run env events)) ∧
      ∀ a clientUuid, table (marksTo (new.run env events) server) a = some clientUuid ↔
        ∃ c, ((new.run env events).clientConnection c).m_serverConnection = some server ∧
          ((new.run env events).clientConnection c).m_socketAddress = a ∧
          env.uuidToString ((new.run env events).clientConnection c).m_clientUuid =
            clientUuid := by
  have hr : Reachable env (new.run env events) := Reachable.new.run hfresh
  refine ⟨?_,?_,?_,?_,marksTo_attached hr hfree hserver⟩
  · exact (steps_streams (reachable_steps hr) hfree).wellBracketed server
  · rw [run_clientDataTo _ Reachable.new hfresh]
    rfl
  · exact run_spelled Reachable.new hfresh (by simp [new])
  · rintro before after rfl hspeaks
    obtain ⟨hbefore,hafter⟩ := freshRun_append hfresh
    have hframes := run_frames (Reachable.new.run hbefore) hspeaks hafter
    have hrun : new.run env (before ++ after) = (new.run env before).run env after :=
      List.foldl_append
    exact hrun ▸ hframes

theorem server_stream_sample :
    let env := sampleEnvironment true
    let s := new.run env (sampleEvents true)
    WellBracketed env.uuidToString (marksTo s ⟨1⟩) ∧
      clientDataTo s ⟨1⟩ = Conduit.along (step env) (clientDataFrom ⟨1⟩) new (sampleEvents true) ∧
      (∀ x ∈ s.output, Output.spelled env x) ∧
      (∀ before after, sampleEvents true = before ++ after → Speaks ⟨1⟩ (new.run env before) →
        Frames env ⟨1⟩ (new.run env before) s) ∧
      ∀ a clientUuid, table (marksTo s ⟨1⟩) a = some clientUuid ↔
        ∃ c, (s.clientConnection c).m_serverConnection = some ⟨1⟩ ∧
          (s.clientConnection c).m_socketAddress = a ∧
          env.uuidToString (s.clientConnection c).m_clientUuid = clientUuid :=
  server_stream (u := ⟨5⟩) (by decide +kernel) (by decide +kernel) (by decide +kernel)

end RemoteProxy.TunnelProxyServer
