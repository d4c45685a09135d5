import RemoteProxy.Library.JsonReassembly
import RemoteProxy.Library.TunnelProxySocketServer

namespace RemoteProxy.JsonPackets

/-- The `while` loop turn by turn, until the separator is not found any more: `packets` have been cut
off, and `rest` is left. -/
inductive Splits : QByteArray → List QByteArray → QByteArray → Prop where
  | done {m_dataBuffer : QByteArray} : QByteArray.indexOf separator m_dataBuffer = none →
      Splits m_dataBuffer [] m_dataBuffer
  | turn {m_dataBuffer rest : QByteArray} {splitIndex : Nat} {packets : List QByteArray} :
      QByteArray.indexOf separator m_dataBuffer = some splitIndex →
      Splits (QByteArray.right m_dataBuffer (m_dataBuffer.length - splitIndex - 2)) packets rest →
      Splits m_dataBuffer (QByteArray.left m_dataBuffer (splitIndex + 1) :: packets) rest

variable {b rest : QByteArray} {packets : List QByteArray}

theorem right_length_lt {splitIndex : Nat}
    (h : QByteArray.indexOf separator b = some splitIndex) :
    (QByteArray.right b (b.length - splitIndex - 2)).length < b.length := by
  have hlt := indexOf_lt h
  simp only [QByteArray.right,List.length_drop]
  omega

theorem splits_exists (b : QByteArray) : ∃ packets rest, Splits b packets rest := by
  induction hn : b.length using Nat.strong_induction_on generalizing b with
  | _ n ih =>
    cases hi : QByteArray.indexOf separator b with
    | none => exact ⟨[],b,.done hi⟩
    | some splitIndex =>
      subst hn
      obtain ⟨packets,rest,h⟩ := ih _ (right_length_lt hi) _ rfl
      exact ⟨_,rest,.turn hi h⟩

theorem Splits.unique (h : Splits b packets rest) {packets' : List QByteArray}
    {rest' : QByteArray} (h' : Splits b packets' rest') : packets' = packets ∧ rest' = rest := by
  induction h generalizing packets' rest' with
  | done hnone =>
    cases h' with
    | done _ => exact ⟨rfl,rfl⟩
    | turn hsome _ => rw [hnone] at hsome; cases hsome
  | turn hsome _ ih =>
    cases h' with
    | done hnone => rw [hnone] at hsome; cases hsome
    | turn hsome' hrest =>
      obtain rfl := Option.some.inj (hsome.symm.trans hsome')
      obtain ⟨rfl,rfl⟩ := ih hrest
      exact ⟨rfl,rfl⟩

theorem Splits.splitLoop (h : Splits b packets rest) {S : Type} (hand : QByteArray → S → S)
    {fuel : Nat} (hfuel : b.length ≤ fuel) (s : S) :
    splitLoop hand fuel b s = (rest,packets.foldl (fun s packet => hand packet s) s) := by
  induction h generalizing fuel s with
  | done hnone =>
    cases fuel with
    | zero => rfl
    | succ fuel =>
      simp only [JsonPackets.splitLoop,hnone]
      rfl
  | turn hsome _ ih =>
    have hlt := right_length_lt hsome
    cases fuel with
    | zero => omega
    | succ fuel =>
      simp only [JsonPackets.splitLoop,hsome]
      exact ih (by omega) _

/-- What has been cut is cut in front of the opening brace of a separator each time, and no byte but
the line breaks between is lost. -/
structure Conserved (b : QByteArray) (packets : List QByteArray) (rest : QByteArray) : Prop where
  bytes : b = packets.flatMap (fun packet => packet ++ [newline]) ++ rest
  unseparated : ∀ packet ∈ packets ++ [rest], ¬separator <:+: packet
  closed : ∀ packet ∈ packets, [closing] <:+ packet
  opened : packets ≠ [] → ∀ packet ∈ packets.tail ++ [rest], [opening] <+: packet

theorem turn_cases {splitIndex : Nat} (h : QByteArray.indexOf separator b = some splitIndex) :
    ∃ x y, b = x ++ separator ++ y ∧ ¬separator <:+: x ++ [closing,newline] ∧
      QByteArray.left b (splitIndex + 1) = x ++ [closing] ∧
      QByteArray.right b (b.length - splitIndex - 2) = opening :: y := by
  obtain ⟨x,y,rfl,hx⟩ := indexOf_first h
  have hone := splitLoop_some record hx y 0 []
  simp only [splitLoop,h] at hone
  obtain ⟨hright,hleft⟩ := Prod.mk.inj hone
  exact ⟨x,y,rfl,hx,(List.cons.inj hleft).1,hright⟩

theorem Splits.conserved (h : Splits b packets rest) : Conserved b packets rest := by
  induction h with
  | @done b hnone =>
    refine ⟨rfl,?_,fun _ hp => absurd hp List.not_mem_nil,fun hne => absurd rfl hne⟩
    intro packet hp
    obtain rfl := List.mem_singleton.mp hp
    exact fun hi => QByteArray.indexOf_ne_none hi hnone
  | @turn b rest splitIndex packets hsome _ ih =>
    obtain ⟨x,y,rfl,hx,hleft,hright⟩ := turn_cases hsome
    rw [hright] at ih
    rw [hleft]
    have hfirst : ¬separator <:+: x ++ [closing] := by
      refine fun hi => hx (hi.trans ?_)
      exact (List.prefix_append (x ++ [closing]) [newline]).isInfix.trans (by simp)
    have hnext : ∀ packet ∈ packets ++ [rest], [opening] <+: packet := by
      intro packet hp
      cases packets with
      | nil =>
        obtain rfl := List.mem_singleton.mp hp
        rw [show packet = opening :: y by simpa using ih.bytes.symm]
        exact ⟨y,rfl⟩
      | cons first packets =>
        rcases List.mem_cons.mp hp with rfl | hp
        · have hbytes := ih.bytes
          rw [List.flatMap_cons,List.append_assoc,List.append_assoc] at hbytes
          cases packet with
          | nil => exact absurd (ih.closed [] List.mem_cons_self).length_le (by simp)
          | cons a packet =>
            rw [List.cons_append] at hbytes
            exact ⟨packet,by rw [(List.cons.inj hbytes).1]; rfl⟩
        · exact ih.opened (List.cons_ne_nil _ _) packet hp
    refine ⟨?_,?_,?_,fun _ => hnext⟩
    · rw [List.flatMap_cons,List.append_assoc (x ++ [closing] ++ [newline]),← ih.bytes]
      simp [separator]
    · intro packet hp
      rcases List.mem_cons.mp hp with rfl | hp
      · exact hfirst
      · exact ih.unseparated packet hp
    · intro packet hp
      rcases List.mem_cons.mp hp with rfl | hp
      · exact ⟨x,rfl⟩
      · exact ih.closed packet hp

theorem endsPacket_iff (b : QByteArray) :
    endsPacket b = true ↔ [closing] <:+ b ∨ [closing,newline] <:+ b := by
  rw [endsPacket,Bool.or_eq_true,QByteArray.endsWith_iff,QByteArray.endsWith_iff,or_comm]

structure Finished (packets : List QByteArray) (rest : QByteArray) (handed : List QByteArray)
    (kept : QByteArray) : Prop where
  last : [closing] <:+ rest ∨ [closing,newline] <:+ rest → handed = packets ++ [rest] ∧ kept = []
  kept : ¬([closing] <:+ rest ∨ [closing,newline] <:+ rest) → handed = packets ∧ kept = rest

theorem Splits.processData (h : Splits b packets rest) {m_dataBuffer data : QByteArray}
    (hb : m_dataBuffer ++ data = b) : ∃ handed kept, Finished packets rest handed kept ∧
      JsonPackets.processData record m_dataBuffer data [] = (kept,handed) := by
  have hloop := h.splitLoop record (Nat.le_refl _) []
  rw [foldl_record,List.nil_append] at hloop
  simp only [JsonPackets.processData,hb,hloop,flush]
  split
  · next hends =>
    have hends := (endsPacket_iff rest).mp hends
    exact ⟨_,_,⟨fun _ => ⟨rfl,rfl⟩,fun hnot => absurd hends hnot⟩,rfl⟩
  · next hends =>
    have hends := mt (endsPacket_iff rest).mpr hends
    exact ⟨_,_,⟨fun hin => absurd hin hends,fun _ => ⟨rfl,rfl⟩⟩,rfl⟩

section Main

variable {S : Type} {env : Qt} {owner : JsonRpcClient.Owner S}

/-- Both functions take the buffer and the chunk apart alike: the loop terminates, nothing is lost,
and they hand on the same packets and keep the same buffer. -/
theorem splitting_conserves {c : TunnelProxyClient} (hslip : c.m_slipEnabled = false) {s : S}
    (hbuffer : (owner.client s).m_dataBuffer = c.m_dataBuffer) (data : QByteArray) :
    ∃ packets rest handed kept, Splits (c.m_dataBuffer ++ data) packets rest ∧
      (∀ packets' rest', Splits (c.m_dataBuffer ++ data) packets' rest' →
        packets' = packets ∧ rest' = rest) ∧
      Conserved (c.m_dataBuffer ++ data) packets rest ∧ Finished packets rest handed kept ∧
      c.processData data = ({ c with m_dataBuffer := kept },handed) ∧
      JsonRpcClient.processData env owner s data =
        let t := handed.foldl (fun s packet => JsonRpcClient.handle env owner packet s) s
        owner.setClient t { owner.client t with m_dataBuffer := kept } := by
  obtain ⟨packets,rest,h⟩ := splits_exists (c.m_dataBuffer ++ data)
  obtain ⟨handed,kept,hfinished,hboth⟩ := h.processData rfl
  refine ⟨packets,rest,handed,kept,h,fun _ _ => h.unique,h.conserved,hfinished,?_,?_⟩
  · simp only [TunnelProxyClient.processData,hslip,TunnelProxyClient.processJson,hboth]
    rfl
  · rw [JsonRpcClient.processData_eq,hbuffer,hboth]

end Main

section Run

open JsonReassembly

def waitingClient : TunnelProxyClient :=
  { TunnelProxyClient.new "" 0 0 with m_dataBuffer := nestedParts.1 }

def waitingServer : TunnelProxySocketServer :=
  { TunnelProxySocketServer.new ⟨1⟩ "server" with
    m_jsonClient := { JsonRpcClient.new with m_dataBuffer := nestedParts.1 } }

def threeRequests : QByteArray := nestedParts.2 ++ [newline] ++ stream [nested] ++ nestedParts.1

theorem splitting_conserves_three :
    ∃ packets rest handed kept, Splits (waitingClient.m_dataBuffer ++ threeRequests) packets rest ∧
      (∀ packets' rest', Splits (waitingClient.m_dataBuffer ++ threeRequests) packets' rest' →
        packets' = packets ∧ rest' = rest) ∧
      Conserved (waitingClient.m_dataBuffer ++ threeRequests) packets rest ∧
      Finished packets rest handed kept ∧
      waitingClient.processData threeRequests =
        ({ waitingClient with m_dataBuffer := kept },handed) ∧
      JsonRpcClient.processData (Qt.onDocuments [])
          (TunnelProxySocketServer.owner (Qt.onDocuments [])) waitingServer threeRequests =
        let t := handed.foldl (fun s packet => JsonRpcClient.handle (Qt.onDocuments [])
          (TunnelProxySocketServer.owner (Qt.onDocuments [])) packet s) waitingServer
        (TunnelProxySocketServer.owner (Qt.onDocuments [])).setClient t
          { (TunnelProxySocketServer.owner (Qt.onDocuments [])).client t with
            m_dataBuffer := kept } :=
  splitting_conserves rfl rfl threeRequests

end Run

end RemoteProxy.JsonPackets
