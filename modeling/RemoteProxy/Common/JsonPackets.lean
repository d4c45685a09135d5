import RemoteProxy.Qt.ByteArray

namespace RemoteProxy.JsonPackets

def closing : UInt8 := 0x7D

def newline : UInt8 := 0x0A

def opening : UInt8 := 0x7B

def separator : QByteArray := [closing,newline,opening]

variable {S : Type} (hand : QByteArray → S → S)

/-- The `while` loop of `TunnelProxyClient::processData` and `JsonRpcClient::processData`: `hand` is
what is done with a packet. -/
def splitLoop : Nat → QByteArray → S → QByteArray × S
  | 0, m_dataBuffer, s => (m_dataBuffer,s)
  | fuel + 1, m_dataBuffer, s =>
    match QByteArray.indexOf separator m_dataBuffer with
    | none => (m_dataBuffer,s)
    | some splitIndex =>
      splitLoop fuel
        (QByteArray.right m_dataBuffer (m_dataBuffer.length - splitIndex - 2))
        (hand (QByteArray.left m_dataBuffer (splitIndex + 1)) s)

def endsPacket (m_dataBuffer : QByteArray) : Bool :=
  QByteArray.endsWith m_dataBuffer [closing,newline] || QByteArray.endsWith m_dataBuffer [closing]

def flush (r : QByteArray × S) : QByteArray × S :=
  if endsPacket r.1 then ([],hand r.1 r.2) else r

def processData (m_dataBuffer data : QByteArray) (s : S) : QByteArray × S :=
  let m_dataBuffer := m_dataBuffer ++ data
  flush hand (splitLoop hand m_dataBuffer.length m_dataBuffer s)

theorem separator_ne_nil : separator ≠ [] := List.cons_ne_nil _ _

theorem indexOf_none {b : QByteArray} (h : ¬ separator <:+: b) :
    QByteArray.indexOf separator b = none := QByteArray.indexOf_none separator_ne_nil h

theorem indexOf_lt {b : QByteArray} {i : Nat} (h : QByteArray.indexOf separator b = some i) :
    i + 3 ≤ b.length := by
  obtain ⟨x,y,rfl,rfl,-⟩ := QByteArray.indexOf_cases separator_ne_nil h
  simp [separator]

theorem indexOf_some {x : QByteArray} (h : ¬ separator <:+: x ++ [closing,newline])
    (y : QByteArray) :
    QByteArray.indexOf separator (x ++ separator ++ y) = some x.length :=
  QByteArray.indexOf_some separator_ne_nil h y

theorem indexOf_first {b : QByteArray} {i : Nat} (h : QByteArray.indexOf separator b = some i) :
    ∃ x y, b = x ++ separator ++ y ∧ ¬ separator <:+: x ++ [closing,newline] := by
  obtain ⟨x,y,hb,-,hx⟩ := QByteArray.indexOf_cases separator_ne_nil h
  exact ⟨x,y,hb,hx⟩

section Loop

theorem splitLoop_none {b : QByteArray} (h : ¬ separator <:+: b) (fuel : Nat) (s : S) :
    splitLoop hand fuel b s = (b,s) := by
  cases fuel with
  | zero => rfl
  | succ fuel => rw [splitLoop,indexOf_none h]

theorem splitLoop_some {x : QByteArray} (h : ¬ separator <:+: x ++ [closing,newline])
    (y : QByteArray) (fuel : Nat) (s : S) :
    splitLoop hand (fuel + 1) (x ++ separator ++ y) s =
      splitLoop hand fuel (opening :: y) (hand (x ++ [closing]) s) := by
  rw [splitLoop,indexOf_some h]
  have hright : QByteArray.right (x ++ separator ++ y)
      ((x ++ separator ++ y).length - x.length - 2) = opening :: y := by
    have : (x ++ separator ++ y).length - ((x ++ separator ++ y).length - x.length - 2) =
        (x ++ [closing,newline]).length := by
      simp [separator]
      omega
    rw [QByteArray.right,this]
    simp [separator]
  have hleft : QByteArray.left (x ++ separator ++ y) (x.length + 1) = x ++ [closing] := by
    simp [QByteArray.left,separator,List.take_append]
  simp only [hright,hleft]

theorem splitLoop_fuel (fuel : Nat) (b : QByteArray) (s : S) (h : b.length ≤ fuel) :
    splitLoop hand fuel b s = splitLoop hand b.length b s := by
  induction fuel using Nat.strong_induction_on generalizing b s with
  | _ fuel ih =>
    cases hi : QByteArray.indexOf separator b with
    | none => cases fuel <;> cases b <;> simp [splitLoop,hi]
    | some i =>
      have hlt := indexOf_lt hi
      obtain ⟨n,rfl⟩ : ∃ n, fuel = n + 1 := ⟨fuel - 1,by omega⟩
      obtain ⟨m,hm⟩ : ∃ m, b.length = m + 1 := ⟨b.length - 1,by omega⟩
      have hr : (QByteArray.right b (b.length - i - 2)).length ≤ m := by
        simp only [QByteArray.right,List.length_drop]
        omega
      rw [hm]
      simp only [splitLoop,hi]
      rw [ih n (by omega) _ _ (hr.trans (by omega)),ih m (by omega) _ _ hr]

end Loop

def split (b : QByteArray) (s : S) : QByteArray × S := splitLoop hand b.length b s

theorem split_none {b : QByteArray} (h : ¬ separator <:+: b) (s : S) : split hand b s = (b,s) :=
  splitLoop_none hand h _ s

theorem split_some {x : QByteArray} (h : ¬ separator <:+: x ++ [closing,newline])
    (y : QByteArray) (s : S) :
    split hand (x ++ separator ++ y) s = split hand (opening :: y) (hand (x ++ [closing]) s) := by
  have hlen : (x ++ separator ++ y).length = (x.length + y.length + 2) + 1 := by
    simp [separator]
    omega
  rw [split,hlen,splitLoop_some hand h,splitLoop_fuel]
  · rfl
  · simp only [List.length_cons]
    omega

theorem processData_eq (m_dataBuffer data : QByteArray) (s : S) :
    processData hand m_dataBuffer data s = flush hand (split hand (m_dataBuffer ++ data) s) := rfl

def record (packet : QByteArray) (packets : List QByteArray) : List QByteArray :=
  packets ++ [packet]

theorem splitLoop_record (fuel : Nat) (b : QByteArray) (packets : List QByteArray) (s : S) :
    splitLoop hand fuel b (packets.foldl (fun s p => hand p s) s) =
      ((splitLoop record fuel b packets).1,
        (splitLoop record fuel b packets).2.foldl (fun s p => hand p s) s) := by
  induction fuel generalizing b packets with
  | zero => rfl
  | succ fuel ih =>
    simp only [splitLoop]
    split
    · rfl
    · rw [← ih]
      simp [record]

theorem processData_record (m_dataBuffer data : QByteArray) (s : S) :
    processData hand m_dataBuffer data s =
      ((processData record m_dataBuffer data []).1,
        (processData record m_dataBuffer data []).2.foldl (fun s p => hand p s) s) := by
  have h := splitLoop_record hand (m_dataBuffer ++ data).length (m_dataBuffer ++ data) [] s
  simp only [List.foldl_nil] at h
  simp only [processData,h,flush]
  split
  · simp [record]
  · rfl

theorem foldl_record (new packets : List QByteArray) :
    new.foldl (fun packets packet => record packet packets) packets = packets ++ new := by
  induction new generalizing packets with
  | nil => simp
  | cons p ps ih => rw [List.foldl_cons,ih,record,List.append_assoc,List.singleton_append]

theorem record_append (m_dataBuffer data : QByteArray) (packets : List QByteArray) :
    processData record m_dataBuffer data packets =
      ((processData record m_dataBuffer data []).1,
        packets ++ (processData record m_dataBuffer data []).2) := by
  rw [processData_record record m_dataBuffer data packets,foldl_record]

section Cut

/-- What is left and what has been handed on when the buffer has been gone through. -/
def cut (b : QByteArray) : QByteArray × List QByteArray := flush record (split record b [])

def Pending (b : QByteArray) : Prop := ¬separator <:+: b ∧ endsPacket b = false

/-- `x` is the one packet that is cut out of `b`, and `w` is left. -/
inductive Cuts : QByteArray → QByteArray → QByteArray → Prop where
  | whole {x : QByteArray} : ¬separator <:+: x → endsPacket x = true → Cuts x x []
  | apart {x y : QByteArray} : ¬separator <:+: x ++ [closing,newline] → Pending (opening :: y) →
      Cuts (x ++ separator ++ y) (x ++ [closing]) (opening :: y)

theorem cut_none {b : QByteArray} (h : ¬separator <:+: b) :
    cut b = if endsPacket b then ([],[b]) else (b,[]) := by
  rw [cut,split_none record h,flush]
  rfl

theorem cut_some {x : QByteArray} (h : ¬separator <:+: x ++ [closing,newline]) (y : QByteArray) :
    cut (x ++ separator ++ y) =
      ((cut (opening :: y)).1,(x ++ [closing]) :: (cut (opening :: y)).2) := by
  rw [cut,split_some record h]
  exact record_append [] (opening :: y) [x ++ [closing]]

theorem cut_cases (b : QByteArray) :
    ¬separator <:+: b ∨
      ∃ x y, b = x ++ separator ++ y ∧ ¬separator <:+: x ++ [closing,newline] := by
  cases h : QByteArray.indexOf separator b with
  | none =>
    exact .inl fun hi => QByteArray.indexOf_ne_none hi h
  | some i => exact .inr (indexOf_first h)

theorem cut_of_pending {b : QByteArray} (h : Pending b) : cut b = (b,[]) := by
  rw [cut_none h.1,h.2]
  rfl

theorem pending_iff (b : QByteArray) : (cut b).2 = [] ↔ Pending b := by
  constructor
  · intro hb
    rcases cut_cases b with hsep | ⟨x,y,rfl,hx⟩
    · rw [cut_none hsep] at hb
      refine ⟨hsep,?_⟩
      cases hends : endsPacket b with
      | false => rfl
      | true => simp [hends] at hb
    · rw [cut_some hx] at hb
      simp at hb
  · intro hb
    rw [cut_of_pending hb]

theorem cut_suffix (b : QByteArray) : (cut b).1 <:+ b := by
  induction hn : b.length using Nat.strong_induction_on generalizing b with
  | _ n ih =>
    rcases cut_cases b with hsep | ⟨x,y,rfl,hx⟩
    · rw [cut_none hsep]
      split
      · exact List.nil_suffix
      · exact List.suffix_refl b
    · rw [cut_some hx]
      have hy : (opening :: y).length < n := by
        rw [← hn]
        simp [separator]
        omega
      refine (ih _ hy _ rfl).trans ⟨x ++ [closing,newline],?_⟩
      simp [separator]

theorem cut_pending (b : QByteArray) : Pending (cut b).1 := by
  induction hn : b.length using Nat.strong_induction_on generalizing b with
  | _ n ih =>
    rcases cut_cases b with hsep | ⟨x,y,rfl,hx⟩
    · rw [cut_none hsep]
      split
      · exact ⟨by simp [separator],rfl⟩
      · next hends => exact ⟨hsep,by simpa using hends⟩
    · rw [cut_some hx]
      have hy : (opening :: y).length < n := by
        rw [← hn]
        simp [separator]
        omega
      exact ih _ hy _ rfl

theorem pending_of_kept {b : QByteArray} (h : (cut b).1 = b) : Pending b := by
  rcases cut_cases b with hsep | ⟨x,y,rfl,hx⟩
  · refine ⟨hsep,?_⟩
    rw [cut_none hsep] at h
    cases hends : endsPacket b with
    | false => rfl
    | true =>
      rw [hends,if_pos rfl] at h
      obtain rfl : [] = b := h
      exact absurd hends (by decide)
  · rw [cut_some hx] at h
    have hle := (cut_suffix (opening :: y)).length_le
    rw [h] at hle
    simp only [separator,List.length_append,List.length_cons,List.length_nil] at hle
    omega

theorem cuts_iff (b x w : QByteArray) : cut b = (w,[x]) ↔ Cuts b x w := by
  constructor
  · intro hb
    rcases cut_cases b with hsep | ⟨z,y,rfl,hz⟩
    · rw [cut_none hsep] at hb
      split at hb
      · next hends =>
        simp only [Prod.mk.injEq,List.cons.injEq,and_true] at hb
        obtain ⟨rfl,rfl⟩ := hb
        exact .whole hsep hends
      · simp at hb
    · rw [cut_some hz] at hb
      simp only [Prod.mk.injEq,List.cons.injEq] at hb
      obtain ⟨hw,rfl,hrest⟩ := hb
      have hpending := (pending_iff _).mp hrest
      rw [cut_of_pending hpending] at hw
      exact hw ▸ .apart hz hpending
  · intro hb
    cases hb with
    | whole hsep hends => rw [cut_none hsep,if_pos hends]
    | apart hx hpending => rw [cut_some hx,cut_of_pending hpending]

theorem Cuts.length_le {e x w : QByteArray} (h : Cuts e x w) : x.length ≤ e.length := by
  cases h with
  | whole _ _ => exact Nat.le_refl _
  | apart _ _ =>
    simp only [separator,List.length_append,List.length_cons,List.length_nil]
    omega

end Cut

end RemoteProxy.JsonPackets
