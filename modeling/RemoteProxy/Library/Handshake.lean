import RemoteProxy.Common.JsonObjects

namespace RemoteProxy.Handshake

open JsonPackets

variable {S : Type}

/-- A receiver whose chunks go to its JSON client until it is ready. -/
structure Receiver (S : Type) where
  buffer : S → QByteArray
  json : S → QByteArray → S
  direct : S → QByteArray → S
  ready : S → Bool
  requested : S → Prop

namespace Receiver

variable (x : Receiver S)

def step (s : S) (chunk : QByteArray) : S := if x.ready s then x.direct s chunk else x.json s chunk

def receive (s : S) (chunks : List QByteArray) : S := chunks.foldl x.step s

theorem receive_append (s : S) (chunks more : List QByteArray) :
    x.receive s (chunks ++ more) = x.receive (x.receive s chunks) more := List.foldl_append

theorem step_json {s : S} (h : x.ready s = false) (chunk : QByteArray) :
    x.step s chunk = x.json s chunk := by
  simp [step,h]

theorem step_direct {s : S} (h : x.ready s = true) (chunk : QByteArray) :
    x.step s chunk = x.direct s chunk := by
  simp [step,h]

end Receiver

def packets (buffer chunk : QByteArray) : List QByteArray := (processData record buffer chunk []).2

def Fragment (o : CompactObject) (p : QByteArray) : Prop :=
  ∃ i j w, p = List.replicate i newline ++ w ++ List.replicate j newline ∧ w <:+: o.text ∧
    w ≠ o.text

/-- What the two calls of a session make of the packets that the JSON client cuts out. -/
structure Lawful (x : Receiver S) (hello register : CompactObject)
    (Greeting Registering Sound : S → Prop) : Prop where
  buffer : ∀ s chunk, x.buffer (x.json s chunk) = (processData record (x.buffer s) chunk []).1
  greeting : ∀ s, Greeting s → x.ready s = false ∧ ¬x.requested s
  greeting_idle : ∀ s chunk, Greeting s → packets (x.buffer s) chunk = [] →
    Greeting (x.json s chunk)
  hello_taken : ∀ s chunk p, Greeting s → packets (x.buffer s) chunk = [p] → PacketOf p hello →
    Registering (x.json s chunk)
  registering : ∀ s, Registering s → x.ready s = false
  registering_idle : ∀ s chunk, Registering s → packets (x.buffer s) chunk = [] →
    Registering (x.json s chunk)
  register_taken : ∀ s chunk p, Registering s → packets (x.buffer s) chunk = [p] →
    PacketOf p register → x.ready (x.json s chunk) = true
  fragments : ∀ s chunk,
    (∀ p ∈ packets (x.buffer s) chunk, Fragment hello p ∨ Fragment register p) →
      x.ready (x.json s chunk) = x.ready s ∧ (x.requested (x.json s chunk) → x.requested s)
  sound_json : ∀ s chunk, Sound s → Sound (x.json s chunk)
  sound_direct : ∀ s chunk, Sound s → Sound (x.direct s chunk)
  stays : ∀ s chunk, Sound s → x.ready s = true → x.ready (x.direct s chunk) = true

section Stream

variable {hello register : CompactObject}

def answered (hello register : CompactObject) : QByteArray := stream [hello] ++ register.text

theorem stream_two (hello register : CompactObject) :
    stream [hello,register] = answered hello register ++ [newline] := by
  simp [answered]

theorem length_answered_lt (hello register : CompactObject) :
    (stream [hello]).length < (answered hello register).length := by
  obtain ⟨rest,hr⟩ := register.opens
  simp [answered,hr]

theorem innerCut_length {p : QByteArray} (h : InnerCut [hello,register] p) :
    p.length < (answered hello register).length := by
  obtain ⟨before,o,after,q,r,ho,rfl,ht,hr,-⟩ := h
  have hlt : q.length < o.text.length := by
    rw [ht,List.length_append]
    have := List.length_pos_iff.mpr hr
    omega
  match before,ho with
  | [],ho =>
    obtain ⟨rfl,-⟩ := List.cons.inj ho
    simp only [answered,stream_nil,List.nil_append,stream_cons,List.length_append,List.length_cons]
    omega
  | [a],ho =>
    obtain ⟨ha,hrest⟩ := List.cons.inj ho
    obtain ⟨hb,-⟩ := List.cons.inj hrest
    simp only [answered,List.length_append,ha,hb]
    omega
  | a :: b :: before,ho => simp at ho

theorem Caught.position {p : QByteArray} {ps : List QByteArray} {buffer : QByteArray}
    (h : Caught [hello,register] p ps buffer) :
    List.Forall₂ PacketOf ps ([hello,register].take ps.length) ∧
      (1 ≤ ps.length → hello.text.length ≤ p.length) ∧
      (2 ≤ ps.length ↔ answered hello register <+: p) := by
  cases h with
  | @inside before after q ps i ho hq hc hp =>
    match before,ho,hp with
    | [],ho,.nil =>
      refine ⟨.nil,by simp,iff_of_false (by simp) fun hpre => ?_⟩
      have hle := hpre.length_le
      have hqle : q.length ≤ hello.text.length := by
        rcases hq with rfl | ⟨o,rest,rfl,hpre⟩
        · simp
        · obtain ⟨rfl,-⟩ := List.cons.inj ho
          exact hpre.length_le
      simp only [answered,stream_cons,stream_nil,List.length_append,List.length_cons,
        List.length_nil] at hle
      omega
    | [a],ho,.cons ha .nil =>
      obtain ⟨rfl,rfl⟩ := List.cons.inj ho
      refine ⟨.cons ha .nil,by simp,iff_of_false (by simp) fun hpre => ?_⟩
      rw [answered,List.prefix_append_right_inj] at hpre
      rcases hq with rfl | ⟨o,rest,ho,hpre'⟩
      · obtain ⟨x,hx⟩ := register.opens
        rw [hx] at hpre
        simp at hpre
      · obtain ⟨rfl,-⟩ := List.cons.inj ho
        obtain ⟨init,hi⟩ := register.closes
        have he := hpre.eq_of_length (le_antisymm hpre.length_le hpre'.length_le)
        exact hc ⟨init,by rw [← he,hi]⟩
    | [a,b],ho,.cons ha (.cons hb .nil) =>
      obtain ⟨hfirst,hrest⟩ := List.cons.inj ho
      obtain ⟨hsecond,-⟩ := List.cons.inj hrest
      rw [← hfirst,← hsecond]
      refine ⟨.cons (hfirst ▸ ha) (.cons (hsecond ▸ hb) .nil),by simp,iff_of_true (by simp) ?_⟩
      rw [stream_two,List.append_assoc]
      exact List.prefix_append _ _
    | a :: b :: c :: before,ho,_ => simp at ho
  | @early before after o ps ho hp =>
    match before,ho,hp with
    | [],ho,.cons ha .nil =>
      obtain ⟨rfl,-⟩ := List.cons.inj ho
      refine ⟨.cons ha .nil,by simp,iff_of_false (by simp) fun hpre => ?_⟩
      have hle := hpre.length_le
      simp only [answered,stream_cons,stream_nil,List.length_append,List.length_cons,
        List.length_nil] at hle
      omega
    | [a],ho,.cons ha (.cons hb .nil) =>
      obtain ⟨hfirst,hrest⟩ := List.cons.inj ho
      obtain ⟨hsecond,-⟩ := List.cons.inj hrest
      rw [← hfirst,← hsecond]
      refine ⟨.cons (hfirst ▸ ha) (.cons (hsecond ▸ hb) .nil),?_,iff_of_true (by simp) ?_⟩
      · intro _
        simp
      · exact List.prefix_refl _
    | a :: b :: before,ho,_ => simp at ho

theorem fragment_step {o : CompactObject} {lead y chunk : QByteArray} (hlead : lead ≠ [])
    (h : lead ++ y ++ chunk <+: stream [o]) :
    (∀ p ∈ packets y chunk, Fragment o p) ∧
      ∃ lead' y', lead' ≠ [] ∧ lead ++ y ++ chunk = lead' ++ y' ∧
        (processData record y chunk []).1 = y' := by
  have hline : stream [o] = o.text ++ [newline] := by simp
  rw [hline,List.append_assoc] at h
  obtain ⟨z,hz⟩ := h
  rw [List.append_assoc] at hz
  have hsep : ¬separator <:+: y ++ chunk := by
    intro hs
    have hin : separator <:+: o.text ++ [newline] :=
      hs.trans ⟨lead,z,by rw [← hz,List.append_assoc]⟩
    exact o.newline_not_mem ((separator_infix_concat hin).subset (by simp))
  rw [packets,processData_eq,split_none record hsep,flush]
  by_cases hends : endsPacket (y ++ chunk) = true
  · rw [if_pos hends]
    refine ⟨?_,lead ++ y ++ chunk,[],by simp [hlead],by simp,rfl⟩
    intro p hp
    obtain rfl : p = y ++ chunk := by simpa [record] using hp
    rcases List.eq_nil_or_concat z with rfl | ⟨w,c,rfl⟩
    · rw [List.append_nil] at hz
      rcases List.eq_nil_or_concat (y ++ chunk) with hnil | ⟨w,c,hw⟩
      · rw [hnil] at hends
        exact absurd hends (by decide)
      · rw [hw,List.concat_eq_append,← List.append_assoc] at hz
        obtain ⟨htext,hc⟩ := List.append_inj' hz rfl
        refine ⟨0,1,w,by simp [hw,List.singleton_inj.mp hc],⟨lead,[],by simp [htext]⟩,?_⟩
        rintro rfl
        exact hlead (by simpa using htext)
    · rw [List.concat_eq_append,← List.append_assoc,← List.append_assoc] at hz
      obtain ⟨htext,-⟩ := List.append_inj' hz rfl
      refine ⟨0,0,y ++ chunk,by simp,⟨lead,w,by simp [← htext]⟩,?_⟩
      intro he
      have hlen := congrArg List.length htext
      rw [← he] at hlen
      have := List.length_pos_iff.mpr hlead
      simp only [List.length_append] at hlen
      omega
  · rw [if_neg hends]
    exact ⟨by simp,lead,y ++ chunk,hlead,List.append_assoc _ _ _,rfl⟩

end Stream

section Run

variable {x : Receiver S} {hello register : CompactObject} {Greeting Registering Sound : S → Prop}

/-- No byte of the second response arrives before its request has been sent; `p` has arrived
already. -/
def Causal (x : Receiver S) (hello : CompactObject) (p : QByteArray) (s : S)
    (chunks : List QByteArray) : Prop :=
  ∀ pre chunk post, chunks = pre ++ chunk :: post →
    (stream [hello]).length < (p ++ (pre ++ [chunk]).flatten).length →
      x.requested (x.receive s pre)

def Stage (x : Receiver S) (Greeting Registering : S → Prop) (s : S) : List QByteArray → Prop
  | [] => Greeting s
  | [_] => Registering s
  | _ :: _ :: _ => x.ready s = true

theorem causal_iff {p : QByteArray} {s : S} {chunks : List QByteArray} :
    Causal x hello p s chunks ↔ ∀ n < chunks.length,
      (stream [hello]).length < (p ++ (chunks.take (n + 1)).flatten).length →
        x.requested (x.receive s (chunks.take n)) := by
  constructor
  · intro h n hn hlen
    rw [List.take_succ_eq_append_getElem hn] at hlen
    refine h (chunks.take n) chunks[n] (chunks.drop (n + 1)) ?_ hlen
    rw [List.getElem_cons_drop,List.take_append_drop]
  · rintro h pre chunk post rfl hlen
    have htake : (pre ++ chunk :: post).take (pre.length + 1) = pre ++ [chunk] := by
      rw [List.append_cons]
      exact List.take_left' (by simp)
    have hn := h pre.length (by simp) (by rw [htake]; exact hlen)
    rwa [List.take_left] at hn

theorem Causal.tail {p : QByteArray} {s : S} {chunk : QByteArray} {chunks : List QByteArray}
    (h : Causal x hello p s (chunk :: chunks)) :
    Causal x hello (p ++ chunk) (x.step s chunk) chunks := by
  intro pre c post he hlen
  apply h (chunk :: pre) c post (by rw [he,List.cons_append])
  simpa using hlen

theorem Causal.head {p : QByteArray} {s : S} {chunk : QByteArray} {chunks : List QByteArray}
    (h : Causal x hello p s (chunk :: chunks))
    (hlen : (stream [hello]).length < (p ++ chunk).length) : x.requested s :=
  h [] chunk chunks rfl (by simpa using hlen)

theorem Causal.take {p : QByteArray} {s : S} {pre chunks : List QByteArray}
    (h : Causal x hello p s chunks) (hpre : pre <+: chunks) : Causal x hello p s pre := by
  obtain ⟨rest,rfl⟩ := hpre
  intro a c b he hlen
  exact h a c (b ++ rest) (by rw [he,List.append_assoc,List.cons_append]) hlen

theorem sound_receive (law : Lawful x hello register Greeting Registering Sound) {s : S}
    (h : Sound s) (chunks : List QByteArray) : Sound (x.receive s chunks) := by
  induction chunks generalizing s with
  | nil => exact h
  | cons chunk chunks ih =>
    apply ih
    rw [Receiver.step]
    split
    · exact law.sound_direct s chunk h
    · exact law.sound_json s chunk h

theorem ready_receive (law : Lawful x hello register Greeting Registering Sound) {s : S}
    (hsound : Sound s) (h : x.ready s = true) (chunks : List QByteArray) :
    x.ready (x.receive s chunks) = true := by
  induction chunks generalizing s with
  | nil => exact h
  | cons chunk chunks ih =>
    have hstep := x.step_direct h chunk
    exact ih (hstep ▸ law.sound_direct s chunk hsound) (hstep ▸ law.stays s chunk hsound h)

theorem Stage.ready (law : Lawful x hello register Greeting Registering Sound) {s : S}
    {ps : List QByteArray} (h : Stage x Greeting Registering s ps) :
    x.ready s = true ↔ 2 ≤ ps.length := by
  match ps,h with
  | [],h => simp [(law.greeting s h).1]
  | [_],h => simp [law.registering s h]
  | _ :: _ :: _,h =>
    have hready : x.ready s = true := h
    simp [hready]

theorem stage_step (law : Lawful x hello register Greeting Registering Sound) {s : S}
    {p : QByteArray} {ps : List QByteArray} (hc : Caught [hello,register] p ps (x.buffer s))
    (h : Stage x Greeting Registering s ps) (hready : x.ready s = false) {chunk : QByteArray}
    {chunks : List QByteArray} (hpre : p ++ chunk <+: stream [hello,register])
    (hcausal : Causal x hello p s (chunk :: chunks))
    (hcut : ¬InnerCut [hello,register] (p ++ chunk)) :
    Caught [hello,register] (p ++ chunk) (ps ++ packets (x.buffer s) chunk)
        (x.buffer (x.json s chunk)) ∧
      Stage x Greeting Registering (x.json s chunk) (ps ++ packets (x.buffer s) chunk) := by
  have hnext := (caught_step hc hpre).1 hcut
  rw [record_append] at hnext
  change Caught _ _ (ps ++ packets (x.buffer s) chunk) _ at hnext
  obtain ⟨hpackets,-,htwo⟩ := Caught.position hnext
  rw [law.buffer]
  refine ⟨hnext,?_⟩
  match ps,h with
  | [],h =>
    rw [List.nil_append] at hpackets htwo ⊢
    match hp : packets (x.buffer s) chunk with
    | [] => exact law.greeting_idle s chunk h hp
    | [a] =>
      rw [hp] at hpackets
      exact law.hello_taken s chunk a h hp (List.forall₂_cons.mp hpackets).1
    | a :: b :: more =>
      rw [hp] at htwo
      have hlen := (htwo.mp (by simp)).length_le
      exact absurd (hcausal.head ((length_answered_lt hello register).trans_le hlen))
        (law.greeting s h).2
  | [a],h =>
    rw [List.singleton_append] at hpackets ⊢
    match hp : packets (x.buffer s) chunk with
    | [] => exact law.registering_idle s chunk h hp
    | [b] =>
      rw [hp] at hpackets
      exact law.register_taken s chunk b h hp
        (List.forall₂_cons.mp (List.forall₂_cons.mp hpackets).2).1
    | b :: c :: more =>
      rw [hp] at hpackets
      exact absurd hpackets.length_eq (by simp)
  | a :: b :: ps,h =>
    have htrue : x.ready s = true := h
    rw [hready] at htrue
    exact absurd htrue (by decide)

theorem prefix_of_length {p stem whole : QByteArray} (hp : p <+: whole) (hs : stem <+: whole)
    (hlen : p.length ≤ stem.length) : p <+: stem := List.prefix_of_prefix_length_le hp hs hlen

theorem torn_hello (law : Lawful x hello register Greeting Registering Sound) {s : S}
    {lead : QByteArray} (hlead : lead ≠ []) (hready : x.ready s = false)
    (hrequested : ¬x.requested s) {chunks : List QByteArray}
    (hpre : lead ++ x.buffer s ++ chunks.flatten <+: stream [hello,register])
    (hcausal : Causal x hello (lead ++ x.buffer s) s chunks) :
    x.ready (x.receive s chunks) = false := by
  induction chunks generalizing s lead with
  | nil => exact hready
  | cons chunk chunks ih =>
    have hstep := x.step_json hready chunk
    rw [List.flatten_cons,← List.append_assoc] at hpre
    have hshort : (lead ++ x.buffer s ++ chunk).length ≤ (stream [hello]).length := by
      by_contra hn
      exact hrequested (hcausal.head (by omega))
    have hline : lead ++ x.buffer s ++ chunk <+: stream [hello] :=
      prefix_of_length ((List.prefix_append _ _).trans hpre) ⟨stream [register],by simp⟩ hshort
    obtain ⟨hfragments,lead',y',hlead',he,hy⟩ := fragment_step hlead hline
    obtain ⟨h1,h2⟩ := law.fragments s chunk fun p hp => .inl (hfragments p hp)
    rw [← law.buffer] at hy
    have hcausal := hcausal.tail
    rw [hstep] at hcausal
    rw [he,← hy] at hpre hcausal
    change x.ready (x.receive (x.step s chunk) chunks) = false
    rw [hstep]
    exact ih hlead' (h1.trans hready) (fun hr => hrequested (h2 hr)) hpre hcausal

theorem torn_register (law : Lawful x hello register Greeting Registering Sound) {s : S}
    {lead : QByteArray} (hlead : lead ≠ []) (hready : x.ready s = false)
    {chunks : List QByteArray}
    (hpre : lead ++ x.buffer s ++ chunks.flatten <+: stream [register]) :
    x.ready (x.receive s chunks) = false := by
  induction chunks generalizing s lead with
  | nil => exact hready
  | cons chunk chunks ih =>
    have hstep := x.step_json hready chunk
    rw [List.flatten_cons,← List.append_assoc] at hpre
    obtain ⟨hfragments,lead',y',hlead',he,hy⟩ :=
      fragment_step hlead ((List.prefix_append _ _).trans hpre)
    obtain ⟨h1,-⟩ := law.fragments s chunk fun p hp => .inr (hfragments p hp)
    rw [← law.buffer] at hy
    rw [he,← hy] at hpre
    change x.ready (x.receive (x.step s chunk) chunks) = false
    rw [hstep]
    exact ih hlead' (h1.trans hready) hpre

theorem fragment_of_prefix {o : CompactObject} {q r : QByteArray} (ht : o.text = q ++ r)
    (hr : r ≠ []) (k : Nat) : Fragment o (List.replicate k newline ++ q) := by
  refine ⟨k,0,q,by simp,⟨[],r,by simp [ht]⟩,?_⟩
  intro he
  rw [← he] at ht
  exact hr (by simpa using ht)

theorem torn_step (law : Lawful x hello register Greeting Registering Sound) {s : S}
    {p : QByteArray} {ps : List QByteArray} (hc : Caught [hello,register] p ps (x.buffer s))
    (h : Stage x Greeting Registering s ps) (hready : x.ready s = false) {chunk : QByteArray}
    {chunks : List QByteArray}
    (hpre : p ++ (chunk :: chunks).flatten <+: stream [hello,register])
    (hcausal : Causal x hello p s (chunk :: chunks))
    (hcut : InnerCut [hello,register] (p ++ chunk)) :
    x.ready (x.receive s (chunk :: chunks)) = false := by
  have hstep := x.step_json hready chunk
  rw [List.flatten_cons,← List.append_assoc] at hpre
  obtain ⟨before,o,after,q,r,good,k,ho,hp,ht,hq,hr,hgood,hps,hbuf⟩ :=
    (caught_step hc ((List.prefix_append _ _).trans hpre)).2 hcut
  rw [record_append] at hps hbuf
  change ps ++ packets (x.buffer s) chunk = _ at hps
  rw [← law.buffer] at hbuf
  change x.ready (x.receive (x.step s chunk) chunks) = false
  have hcausal' := hcausal.tail
  rw [hp] at hpre
  rw [hp,hstep] at hcausal'
  rw [hstep]
  have hposition := (Caught.position hc).2.1
  match before,ho,hgood with
  | [],ho,.nil =>
    obtain ⟨hfirst,-⟩ := List.cons.inj ho
    rw [← hfirst] at ht
    have hnone : ps = [] := by
      by_contra hne
      have h1 := hposition (List.length_pos_iff.mpr hne)
      have h2 := congrArg List.length hp
      have h3 := congrArg List.length ht
      have h4 := List.length_pos_iff.mpr hr
      simp only [stream_nil,List.nil_append,List.length_append] at h2 h3
      omega
    rw [hnone] at h hps
    have hnew : packets (x.buffer s) chunk = [List.replicate k newline ++ q] := hps
    obtain ⟨h1,h2⟩ := law.fragments s chunk fun p hm => by
      rw [hnew,List.mem_singleton] at hm
      exact .inl (hm ▸ fragment_of_prefix ht hr k)
    refine torn_hello law hq (h1.trans hready) (fun hn => (law.greeting s h).2 (h2 hn)) ?_ ?_
    · rw [hbuf,List.append_nil]
      exact hpre
    · rw [hbuf,List.append_nil]
      exact hcausal'
  | [a],ho,.cons _ .nil =>
    obtain ⟨hfirst,hrest⟩ := List.cons.inj ho
    obtain ⟨hsecond,-⟩ := List.cons.inj hrest
    rw [← hsecond] at ht
    rw [← hfirst] at hp hpre hcausal'
    have hlong : (stream [hello]).length < (p ++ chunk).length := by
      have := List.length_pos_iff.mpr hq
      rw [hp,List.length_append]
      omega
    match ps,h with
    | [],h => exact absurd (hcausal.head hlong) (law.greeting s h).2
    | [b],h =>
      have hnew : packets (x.buffer s) chunk = [List.replicate k newline ++ q] :=
        (List.cons.inj hps).2
      obtain ⟨h1,-⟩ := law.fragments s chunk fun p hm => by
        rw [hnew,List.mem_singleton] at hm
        exact .inr (hm ▸ fragment_of_prefix ht hr k)
      apply torn_register law hq (h1.trans hready)
      rw [hbuf,List.append_nil]
      have hsplit : stream [hello,register] = stream [hello] ++ stream [register] := by simp
      rw [hsplit,List.append_assoc,List.prefix_append_right_inj] at hpre
      exact hpre
    | b :: c :: ps,h =>
      have htrue : x.ready s = true := h
      rw [hready] at htrue
      exact absurd htrue (by decide)
  | a :: b :: before,ho,_ => simp at ho

theorem ready_from (law : Lawful x hello register Greeting Registering Sound) {s : S}
    (hsound : Sound s) {p : QByteArray} {ps : List QByteArray}
    (hc : Caught [hello,register] p ps (x.buffer s)) (h : Stage x Greeting Registering s ps)
    {chunks : List QByteArray} (hpre : p ++ chunks.flatten <+: stream [hello,register])
    (hcausal : Causal x hello p s chunks) :
    x.ready (x.receive s chunks) = true ↔ answered hello register <+: p ++ chunks.flatten ∧
      ∀ pre, pre ≠ [] → pre <+: chunks → ¬InnerCut [hello,register] (p ++ pre.flatten) := by
  induction chunks generalizing s p ps with
  | nil =>
    rw [List.flatten_nil,List.append_nil,← (Caught.position hc).2.2]
    refine (h.ready law).trans (and_iff_left fun pre hne hp => ?_).symm
    exact absurd (List.prefix_nil.mp hp) hne
  | cons chunk chunks ih =>
    cases hready : x.ready s with
    | true =>
      have hall := (Caught.position hc).2.2.mp ((h.ready law).mp hready)
      refine iff_of_true (ready_receive law hsound hready _) ⟨hall.trans (List.prefix_append _ _),?_⟩
      intro pre _ _ hcut
      have hlen := innerCut_length hcut
      have := hall.length_le
      rw [List.length_append] at hlen
      omega
    | false =>
      by_cases hcut : InnerCut [hello,register] (p ++ chunk)
      · refine iff_of_false ?_ fun hn => ?_
        · rw [torn_step law hc h hready hpre hcausal hcut]
          decide
        · exact hn.2 [chunk] (by simp) (by simp) (by simpa using hcut)
      · have hstep := x.step_json hready chunk
        rw [List.flatten_cons,← List.append_assoc] at hpre ⊢
        obtain ⟨hc',h'⟩ := stage_step law hc h hready ((List.prefix_append _ _).trans hpre) hcausal
          hcut
        have ih := ih (law.sound_json s chunk hsound) hc' h' hpre (hstep ▸ hcausal.tail)
        change x.ready (x.receive (x.step s chunk) chunks) = true ↔ _
        rw [hstep,ih]
        refine and_congr_right fun _ => ⟨fun hall pre hne hp hn => ?_,fun hall pre hne hp hn => ?_⟩
        · match pre,hne,hp with
          | [c],_,hp =>
            obtain ⟨rfl,-⟩ := List.cons_prefix_cons.mp hp
            exact hcut (by simpa using hn)
          | c :: d :: pre,_,hp =>
            obtain ⟨rfl,htail⟩ := List.cons_prefix_cons.mp hp
            rw [List.flatten_cons,← List.append_assoc] at hn
            exact hall (d :: pre) (List.cons_ne_nil _ _) htail hn
        · apply hall (chunk :: pre) (List.cons_ne_nil _ _) ((List.prefix_cons_inj chunk).mpr hp)
          rwa [List.flatten_cons,← List.append_assoc]

def Uncut (hello register : CompactObject) (chunks : List QByteArray) : Prop :=
  ∀ pre, pre <+: chunks → ¬InnerCut [hello,register] pre.flatten

def Boundary (chunks : List QByteArray) (p : QByteArray) : Prop :=
  ∃ pre, pre <+: chunks ∧ pre.flatten = p

theorem ready_iff (law : Lawful x hello register Greeting Registering Sound) {s : S}
    (hsound : Sound s) (hs : Greeting s) (hbuf : x.buffer s = []) {chunks : List QByteArray}
    (hpre : chunks.flatten <+: stream [hello,register]) (hcausal : Causal x hello [] s chunks) :
    x.ready (x.receive s chunks) = true ↔
      answered hello register <+: chunks.flatten ∧ Uncut hello register chunks := by
  have hstart : Caught [hello,register] (stream [] ++ []) []
      (List.replicate 0 newline ++ []) := .inside 0 rfl (.inl rfl) (by simp) .nil
  have hcaught : Caught [hello,register] [] [] (x.buffer s) := by
    rw [hbuf]
    exact hstart
  have hfrom := ready_from law hsound hcaught hs hpre hcausal
  refine hfrom.trans (and_congr_right fun _ => ⟨fun hall pre hp hn => ?_,fun hall pre _ => hall pre⟩)
  by_cases hne : pre = []
  · obtain ⟨before,_,_,q,_,_,he,_,_,hclosing⟩ := hn
    rw [hne,List.flatten_nil] at he
    rw [(List.append_eq_nil_iff.mp he.symm).2] at hclosing
    exact absurd hclosing (by simp)
  · exact hall pre hne hp hn

theorem switch {s : S} (h : x.ready s = false) {chunks : List QByteArray}
    (hready : x.ready (x.receive s chunks) = true) :
    ∃ pre post, chunks = pre ++ post ∧ x.ready (x.receive s pre) = true ∧
      ∀ part, part <+: pre → part ≠ pre → x.ready (x.receive s part) = false := by
  induction chunks generalizing s with
  | nil =>
    change x.ready s = true at hready
    rw [h] at hready
    exact absurd hready (by decide)
  | cons chunk chunks ih =>
    cases hstep : x.ready (x.step s chunk) with
    | true =>
      refine ⟨[chunk],chunks,rfl,hstep,?_⟩
      intro part hp hne
      match part,hp,hne with
      | [],_,_ => exact h
      | [c],hp,hne =>
        obtain ⟨rfl,-⟩ := List.cons_prefix_cons.mp hp
        exact absurd rfl hne
      | c :: d :: part,hp,_ => simp at hp
    | false =>
      obtain ⟨pre,post,rfl,hr,hfirst⟩ := ih hstep hready
      refine ⟨chunk :: pre,post,rfl,hr,?_⟩
      intro part hp hne
      match part,hp,hne with
      | [],_,_ => exact h
      | c :: part,hp,hne =>
        obtain ⟨rfl,htail⟩ := List.cons_prefix_cons.mp hp
        exact hfirst part htail fun he => hne (by rw [he])

theorem switch_clean_iff (law : Lawful x hello register Greeting Registering Sound) {s : S}
    (hsound : Sound s) (hs : Greeting s) (hbuf : x.buffer s = []) {chunks : List QByteArray}
    (hcausal : Causal x hello [] s chunks) {rest : QByteArray}
    (hstream : chunks.flatten = stream [hello,register] ++ rest) :
    (∃ pre post, chunks = pre ++ post ∧ pre.flatten = stream [hello,register] ∧
      x.ready (x.receive s pre) = true ∧
      ∀ part, part <+: pre → part ≠ pre → x.ready (x.receive s part) = false) ↔
    Uncut hello register chunks ∧ ¬Boundary chunks (answered hello register) ∧
      Boundary chunks (stream [hello,register]) := by
  have hwhole : answered hello register <+: stream [hello,register] := by
    rw [stream_two]
    exact List.prefix_append _ _
  have hlonger : (answered hello register).length < (stream [hello,register]).length := by
    rw [stream_two,List.length_append]
    simp
  constructor
  · rintro ⟨pre,post,rfl,hp,hready,hfirst⟩
    have hpre : pre <+: pre ++ post := List.prefix_append _ _
    have huncut := ((ready_iff law hsound hs hbuf (by rw [hp]) (hcausal.take hpre)).mp hready).2
    refine ⟨fun a ha hn => ?_,?_,pre,hpre,hp⟩
    · rcases List.prefix_or_prefix_of_prefix ha hpre with hshort | hlong
      · exact huncut a hshort hn
      · obtain ⟨more,rfl⟩ := hlong
        have hlen := innerCut_length hn
        rw [List.flatten_append,hp,List.length_append] at hlen
        omega
    · rintro ⟨a,ha,he⟩
      have hshort : a <+: pre := by
        rcases List.prefix_or_prefix_of_prefix ha hpre with hshort | hlong
        · exact hshort
        · obtain ⟨more,rfl⟩ := hlong
          have hlen := congrArg List.length he
          rw [List.flatten_append,hp,List.length_append] at hlen
          omega
      have hne : a ≠ pre := by
        rintro rfl
        rw [he] at hp
        exact absurd (congrArg List.length hp) (by omega)
      have hearly := (ready_iff law hsound hs hbuf (by rw [he]; exact hwhole)
        (hcausal.take ha)).mpr ⟨by rw [he],fun b hb => huncut b (hb.trans hshort)⟩
      rw [hfirst a hshort hne] at hearly
      exact absurd hearly (by decide)
  · rintro ⟨huncut,hnot,a,ha,he⟩
    have hready : x.ready (x.receive s a) = true :=
      (ready_iff law hsound hs hbuf (by rw [he]) (hcausal.take ha)).mpr
        ⟨by rw [he]; exact hwhole,fun b hb => huncut b (hb.trans ha)⟩
    obtain ⟨pre,post,rfl,hr,hfirst⟩ := switch (law.greeting s hs).1 hready
    have hpa : pre <+: pre ++ post := List.prefix_append _ _
    have hprefix : pre.flatten <+: stream [hello,register] := by
      rw [← he,List.flatten_append]
      exact List.prefix_append _ _
    have hans := ((ready_iff law hsound hs hbuf hprefix (hcausal.take (hpa.trans ha))).mp hr).1
    have hp : pre.flatten = stream [hello,register] := by
      rw [stream_two] at hprefix ⊢
      rcases List.prefix_concat_iff.mp hprefix with hp | hp
      · exact hp
      · exact absurd ⟨pre,hpa.trans ha,hp.eq_of_length (le_antisymm hp.length_le hans.length_le)⟩
          hnot
    obtain ⟨more,rfl⟩ := ha
    exact ⟨pre,post ++ more,List.append_assoc _ _ _,hp,hr,hfirst⟩

end Run

end RemoteProxy.Handshake
