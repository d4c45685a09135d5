import RemoteProxy.Proxy.Effects
import RemoteProxy.Proxy.ServerStream

namespace RemoteProxy.TunnelProxyServer

open Relation

variable {env : Environment} {P : Output → Prop} {s : TunnelProxyServer}

/-- Besides what is quiet the proxy sends tunnel data and two kinds of notifications. -/
structure Says (env : Environment) (P : Output → Prop) : Prop where
  quiet : ∀ x, Output.quiet x → P x
  tunnelData : ∀ o clientUuid socketAddress data bytes,
    P (.sent o (.tunnelData clientUuid socketAddress data) bytes)
  connected : ∀ s client o id bytes, P (.sent o (.notification id "TunnelProxy" "ClientConnected"
    (clientConnectedParams env s client)) bytes)
  disconnected : ∀ s client o id bytes, P (.sent o (.notification id "TunnelProxy"
    "ClientDisconnected" (clientDisconnectedParams s client)) bytes)

theorem Says.micro (h : Says env P) {c c' : Config} (hc : Consistent c.1 c.2)
    (hm : Micro env c c') (hsaid : ∀ x ∈ c.2.output, P x) : ∀ x ∈ c'.2.output, P x := by
  have hmore : ∀ {l new : List Output}, (∀ x ∈ l, P x) → (∀ x ∈ new, P x) →
      ∀ x ∈ l ++ new, P x := by
    intro l new ho hn x hx
    exact (List.mem_append.mp hx).elim (ho x) (hn x)
  cases hm with
  | quiet hquiet =>
    obtain ⟨new,hout,hn⟩ := hquiet.output
    rw [hout]
    exact hmore hsaid fun x hx => h.quiet x (hn x hx)
  | connected hid =>
    rw [onClientConnected_eq env hc hid]
    exact hsaid
  | serverAccepted =>
    rw [acceptServer,enterAs_eq _ _ (by decide)]
    exact hsaid
  | @clientAccepted _ s o server uuid _ name =>
    have hattached : ∀ x ∈ (s.attachClient o uuid name server).output, P x := by
      rw [attachClient_output]
      refine hmore hsaid fun x hx => ?_
      split at hx
      · cases hx
      · rw [List.mem_singleton.mp hx]
        exact h.quiet _ trivial
    refine hmore hattached fun x hx => ?_
    rw [List.mem_singleton.mp hx]
    exact h.connected _ o _ _ _
  | tunnelled hlive hclient =>
    rcases tunnelToServer_eq hc hlive hclient _ with ⟨-,hown⟩ | ⟨server,-,hout⟩
    · obtain ⟨new,hout,hn⟩ := hown.output
      rw [hout]
      exact hmore hsaid fun x hx => h.quiet x (hn x hx).1
    · rw [hout]
      refine hmore hsaid fun x hx => ?_
      rw [List.mem_singleton.mp hx]
      exact h.tunnelData _ _ _ _ _
  | taken => exact hsaid
  | serverTaken => exact hsaid
  | clientTaken => exact hsaid
  | @clientDetached _ s o server =>
    refine hmore (l := s.output) hsaid fun x hx => ?_
    rw [List.mem_singleton.mp hx]
    exact h.disconnected _ o _ _ _
  | dropped => exact hsaid
  | finished =>
    rw [(unregisterClient_rest _ _).2]
    exact hsaid

theorem Says.reachable (h : Says env P) (hs : Reachable env s) : ∀ x ∈ s.output, P x := by
  have hall : ∀ {c : Config}, ReflTransGen (Micro env) ([],new) c → ∀ x ∈ c.2.output, P x := by
    intro c hc
    induction hc with
    | refl => exact fun x hx => by simp [new] at hx
    | tail hsteps hm ih => exact h.micro (steps_consistent env new_consistent hsteps) hm ih
  exact hall (reachable_steps hs)

end RemoteProxy.TunnelProxyServer
