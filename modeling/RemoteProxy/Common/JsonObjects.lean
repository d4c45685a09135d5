import RemoteProxy.Common.JsonPackets
import RemoteProxy.Qt.Json

namespace RemoteProxy.JsonPackets

/-- The compact serialisation of a JSON object: between its braces no byte is a line break, which
inside a string is written as an escape. -/
structure CompactObject where
  text : QByteArray
  opens : ∃ rest, text = opening :: rest
  closes : ∃ init, text = init ++ [closing]
  newline_not_mem : newline ∉ text

def stream (objects : List CompactObject) : QByteArray :=
  objects.flatMap fun o => o.text ++ [newline]

def PacketOf (packet : QByteArray) (o : CompactObject) : Prop :=
  ∃ i j, packet = List.replicate i newline ++ o.text ++ List.replicate j newline

/-- The bytes so far end behind a closing brace that is not the last one of its object. -/
def InnerCut (objects : List CompactObject) (p : QByteArray) : Prop :=
  ∃ before o after q r, objects = before ++ o :: after ∧ p = stream before ++ q ∧
    o.text = q ++ r ∧ r ≠ [] ∧ [closing] <:+ q

def Opened (q : QByteArray) (rest : List CompactObject) : Prop :=
  q = [] ∨ ∃ o after, rest = o :: after ∧ q <+: o.text

@[simp] theorem stream_nil : stream [] = [] := rfl

@[simp] theorem stream_cons (o : CompactObject) (os : List CompactObject) :
    stream (o :: os) = o.text ++ newline :: stream os := by
  simp [stream]

@[simp] theorem stream_append (xs ys : List CompactObject) :
    stream (xs ++ ys) = stream xs ++ stream ys := by
  simp [stream]

theorem count_stream (os : List CompactObject) : (stream os).count newline = os.length := by
  induction os with
  | nil => rfl
  | cons o os ih =>
    rw [stream_cons,List.count_append,List.count_cons_self,ih,
      List.count_eq_zero_of_not_mem o.newline_not_mem,List.length_cons,Nat.zero_add]

theorem Opened.newline_not_mem {q : QByteArray} {rest : List CompactObject} (h : Opened q rest) :
    newline ∉ q := by
  rcases h with rfl | ⟨o,_,_,hp⟩
  · simp
  · exact fun hm => o.newline_not_mem (hp.subset hm)

theorem stream_unique {xs ys as bs : List CompactObject} {p q : QByteArray}
    (hl : xs ++ as = ys ++ bs) (hs : stream xs ++ p = stream ys ++ q)
    (hp : newline ∉ p) (hq : newline ∉ q) : xs = ys ∧ as = bs ∧ p = q := by
  have hc := congrArg (List.count newline) hs
  rw [List.count_append,List.count_append,count_stream,count_stream,
    List.count_eq_zero_of_not_mem hp,List.count_eq_zero_of_not_mem hq] at hc
  obtain ⟨rfl,rfl⟩ := List.append_inj hl (by omega)
  exact ⟨rfl,rfl,List.append_cancel_left hs⟩

theorem prefix_stream {rest : List CompactObject} {w : QByteArray} (h : w <+: stream rest) :
    ∃ before after q, rest = before ++ after ∧ w = stream before ++ q ∧ Opened q after := by
  induction rest generalizing w with
  | nil => exact ⟨[],[],[],rfl,by simpa using h,.inl rfl⟩
  | cons o os ih =>
    rw [stream_cons,List.append_cons] at h
    rcases List.prefix_or_prefix_of_prefix h (List.prefix_append _ (stream os)) with hw | hw
    · rw [List.prefix_concat_iff] at hw
      rcases hw with rfl | hw
      · exact ⟨[o],os,[],rfl,by simp,.inl rfl⟩
      · exact ⟨[],o :: os,w,rfl,rfl,.inr ⟨o,os,rfl,hw⟩⟩
    · obtain ⟨v,rfl⟩ := hw
      obtain ⟨before,after,q,rfl,rfl,hq⟩ := ih ((List.prefix_append_right_inj _).mp h)
      exact ⟨o :: before,after,q,rfl,by simp,hq⟩

section Lines

theorem closing_newline_within {lead x : QByteArray} (h : [closing,newline] <:+: lead ++ x) :
    closing ∈ lead ∨ newline ∈ x := by
  induction lead with
  | nil => exact .inr (h.subset (by simp))
  | cons a lead ih =>
    rcases List.infix_cons_iff.mp h with hp | hi
    · exact .inl (List.mem_cons.mpr (.inl (List.cons_prefix_cons.mp hp).1))
    · exact (ih hi).imp_left (List.mem_cons_of_mem a)

theorem separator_infix_concat {x : QByteArray} (h : separator <:+: x ++ [newline]) :
    [closing,newline] <:+: x := by
  have hsub : [closing,newline] <:+: separator := ⟨[],[opening],rfl⟩
  rcases List.infix_concat_iff.mp h with hs | hi
  · obtain ⟨t,ht⟩ := hs
    have := congrArg List.getLast? ht
    simp [separator,opening,newline] at this
  · exact hsub.trans hi

theorem replicate_closing (i : Nat) : closing ∉ List.replicate i newline := by
  intro h
  exact absurd (List.eq_of_mem_replicate h) (by decide)

theorem not_infix_lead (i : Nat) {x : QByteArray} (h : newline ∉ x) :
    ¬ [closing,newline] <:+: List.replicate i newline ++ x := fun hi =>
  (closing_newline_within hi).elim (replicate_closing i) h

theorem separator_not_infix_lead (i : Nat) {x : QByteArray} (h : newline ∉ x) :
    ¬ separator <:+: List.replicate i newline ++ x := fun hi =>
  not_infix_lead i h ((show [closing,newline] <:+: separator from ⟨[],[opening],rfl⟩).trans hi)

theorem closing_suffix_lead (i : Nat) (q : QByteArray) :
    [closing] <:+ List.replicate i newline ++ q ↔ [closing] <:+ q := by
  constructor
  · intro h
    rcases List.eq_nil_or_concat q with rfl | ⟨q,x,rfl⟩
    · rw [List.append_nil] at h
      exact absurd (h.subset (by simp)) (replicate_closing i)
    · obtain ⟨t,ht⟩ := h
      have hx : closing = x := by simpa using congrArg List.getLast? ht
      exact ⟨q,by simp [hx]⟩
  · exact fun h => h.trans (List.suffix_append _ q)

variable {S : Type} (hand : QByteArray → S → S)

theorem flush_lead (i : Nat) {q : QByteArray} (hq : newline ∉ q) (s : S) :
    flush hand (split hand (List.replicate i newline ++ q) s) =
      if QByteArray.endsWith q [closing] then ([],hand (List.replicate i newline ++ q) s)
      else (List.replicate i newline ++ q,s) := by
  have hends : endsPacket (List.replicate i newline ++ q) = QByteArray.endsWith q [closing] := by
    rw [endsPacket,Bool.eq_iff_iff,Bool.or_eq_true,QByteArray.endsWith_iff,
      QByteArray.endsWith_iff,QByteArray.endsWith_iff,
      closing_suffix_lead]
    exact ⟨fun h => h.resolve_left fun hs => not_infix_lead i hq hs.isInfix,.inr⟩
  rw [split_none hand (separator_not_infix_lead i hq),flush,hends]

theorem flush_line (i : Nat) (o : CompactObject) (s : S) :
    flush hand (split hand (List.replicate i newline ++ (o.text ++ [newline])) s) =
      ([],hand (List.replicate i newline ++ (o.text ++ [newline])) s) := by
  rw [← List.append_assoc,split_none hand,flush,if_pos]
  · obtain ⟨init,hi⟩ := o.closes
    rw [endsPacket,Bool.or_eq_true,QByteArray.endsWith_iff]
    exact .inl ⟨List.replicate i newline ++ init,by simp [hi]⟩
  · exact fun h => not_infix_lead i o.newline_not_mem (separator_infix_concat h)

theorem split_line (i : Nat) (o : CompactObject) (y : QByteArray) (s : S) :
    split hand (List.replicate i newline ++ (o.text ++ newline :: opening :: y)) s =
      split hand (opening :: y) (hand (List.replicate i newline ++ o.text) s) := by
  obtain ⟨init,hi⟩ := o.closes
  have hinf : ¬separator <:+: List.replicate i newline ++ init ++ [closing,newline] := by
    have hline := fun h => not_infix_lead i o.newline_not_mem (separator_infix_concat h)
    rw [hi] at hline
    simpa using hline
  have := split_some hand hinf y s
  rw [hi]
  simpa [separator] using this

theorem opens_next {os rest : List CompactObject} {q : QByteArray} (hq : Opened q rest)
    (hne : stream os ++ q ≠ []) : ∃ y, stream os ++ q = opening :: y := by
  cases os with
  | cons o os =>
    obtain ⟨x,hx⟩ := o.opens
    exact ⟨x ++ newline :: stream os ++ q,by simp [hx]⟩
  | nil =>
    rcases hq with rfl | ⟨o,_,_,hp⟩
    · exact absurd rfl hne
    · obtain ⟨x,hx⟩ := o.opens
      obtain ⟨a,q,rfl⟩ := List.exists_cons_of_ne_nil hne
      rw [hx] at hp
      exact ⟨q,by rw [(List.cons_prefix_cons.mp hp).1,stream_nil,List.nil_append]⟩

theorem flush_lines (i : Nat) (os : List CompactObject) {rest : List CompactObject} {q : QByteArray}
    (hq : Opened q rest) (packets : List QByteArray) :
    ∃ new k, List.Forall₂ PacketOf new os ∧
      flush record (split record (List.replicate i newline ++ (stream os ++ q)) packets) =
        if QByteArray.endsWith q [closing] then
          ([],packets ++ new ++ [List.replicate k newline ++ q])
        else (List.replicate k newline ++ q,packets ++ new) := by
  induction os generalizing i packets with
  | nil =>
    refine ⟨[],i,.nil,?_⟩
    rw [stream_nil,List.nil_append,flush_lead record i hq.newline_not_mem]
    simp [record]
  | cons o os ih =>
    by_cases hne : stream os ++ q = []
    · obtain ⟨hos,rfl⟩ := List.append_eq_nil_iff.mp hne
      obtain rfl : os = [] := by
        cases os with
        | nil => rfl
        | cons => simp at hos
      refine ⟨[List.replicate i newline ++ (o.text ++ [newline])],0,?_,?_⟩
      · exact .cons ⟨i,1,by simp⟩ .nil
      · rw [stream_cons,stream_nil,List.append_nil,flush_line]
        simp [record,QByteArray.endsWith]
    · obtain ⟨y,hy⟩ := opens_next hq hne
      obtain ⟨new,k,hnew,hk⟩ := ih 0 (record (List.replicate i newline ++ o.text) packets)
      refine ⟨(List.replicate i newline ++ o.text) :: new,k,.cons ⟨i,0,by simp⟩ hnew,?_⟩
      rw [stream_cons,List.append_assoc,List.cons_append,hy,split_line,← hy]
      rw [List.replicate_zero,List.nil_append] at hk
      rw [hk]
      simp [record]

end Lines

/-- What has been handed on and what is kept after the bytes `p` of the stream. -/
inductive Caught (objects : List CompactObject) : QByteArray → List QByteArray → QByteArray → Prop
  | inside {before after : List CompactObject} {q : QByteArray} {packets : List QByteArray}
      (i : Nat) : objects = before ++ after → Opened q after → ¬ [closing] <:+ q →
      List.Forall₂ PacketOf packets before →
      Caught objects (stream before ++ q) packets (List.replicate i newline ++ q)
  | early {before after : List CompactObject} {o : CompactObject} {packets : List QByteArray} :
      objects = before ++ o :: after → List.Forall₂ PacketOf packets (before ++ [o]) →
      Caught objects (stream before ++ o.text) packets []

def Spoiled (objects : List CompactObject) (packets : List QByteArray) : Prop :=
  ∃ before o after good bad more, objects = before ++ o :: after ∧
    packets = good ++ bad :: more ∧ good.length = before.length ∧ ¬ PacketOf bad o

theorem Spoiled.append {objects : List CompactObject} {packets : List QByteArray}
    (h : Spoiled objects packets) (more : List QByteArray) : Spoiled objects (packets ++ more) := by
  obtain ⟨before,o,after,good,bad,rest,ho,rfl,hlen,hbad⟩ := h
  exact ⟨before,o,after,good,bad,rest ++ more,ho,by simp,hlen,hbad⟩

theorem Spoiled.not_forall₂ {objects : List CompactObject} {packets : List QByteArray}
    (h : Spoiled objects packets) : ¬ List.Forall₂ PacketOf packets objects := by
  obtain ⟨before,o,after,good,bad,rest,rfl,rfl,hlen,hbad⟩ := h
  intro hall
  have := List.forall₂_drop good.length hall
  rw [List.drop_left,hlen,List.drop_left,List.forall₂_cons] at this
  exact hbad this.1

/-- A part of an object, cut behind an inner closing brace, has been handed on as a packet. -/
def Torn (objects : List CompactObject) (p : QByteArray) (packets : List QByteArray)
    (buffer : QByteArray) : Prop :=
  ∃ before o after q r good k, objects = before ++ o :: after ∧ p = stream before ++ q ∧
    o.text = q ++ r ∧ q ≠ [] ∧ r ≠ [] ∧ List.Forall₂ PacketOf good before ∧
    packets = good ++ [List.replicate k newline ++ q] ∧ buffer = []

theorem prefix_not_packetOf {o : CompactObject} {q : QByteArray} (hq : q <+: o.text)
    (hne : q ≠ o.text) (k : Nat) : ¬ PacketOf (List.replicate k newline ++ q) o := by
  rintro ⟨i,j,he⟩
  have hfilter (n : Nat) (x : QByteArray) (hx : newline ∉ x) :
      (List.replicate n newline ++ x).filter (· ≠ newline) = x := by
    have : ∀ y ∈ x, y ≠ newline := fun y hy e => hx (e ▸ hy)
    simp only [List.filter_append,List.filter_replicate]
    simpa using this
  have h := congrArg (List.filter (· ≠ newline)) he
  rw [hfilter k q fun hm => o.newline_not_mem (hq.subset hm),List.append_assoc] at h
  rw [List.filter_append,List.filter_append,List.filter_replicate,List.filter_replicate] at h
  have ht : o.text.filter (· ≠ newline) = o.text := by
    simpa using hfilter 0 o.text o.newline_not_mem
  rw [ht] at h
  simp at h
  exact hne h

theorem Torn.spoiled {objects : List CompactObject} {p : QByteArray} {packets : List QByteArray}
    {buffer : QByteArray} (h : Torn objects p packets buffer) : Spoiled objects packets := by
  obtain ⟨before,o,after,q,r,good,k,ho,-,ht,-,hr,hgood,hp,-⟩ := h
  refine ⟨before,o,after,good,_,[],ho,hp,hgood.length_eq,prefix_not_packetOf ⟨r,ht.symm⟩ ?_ k⟩
  intro he
  rw [he] at ht
  exact hr (by simpa using ht)

theorem innerCut_iff {objects before after : List CompactObject} {q : QByteArray}
    (ho : objects = before ++ after) (hq : Opened q after) :
    InnerCut objects (stream before ++ q) ↔
      [closing] <:+ q ∧ ∃ o rest, after = o :: rest ∧ q <+: o.text ∧ q ≠ o.text := by
  constructor
  · rintro ⟨xs,o,ys,p,r,hobj,hp,ht,hr,hc⟩
    have hpn : newline ∉ p := fun hm => o.newline_not_mem (by simp [ht,hm])
    obtain ⟨rfl,hrest,rfl⟩ := stream_unique (ho.symm.trans hobj) hp hq.newline_not_mem hpn
    refine ⟨hc,o,ys,hrest,⟨r,ht.symm⟩,fun e => hr ?_⟩
    rw [e] at ht
    simpa using ht
  · rintro ⟨hc,o,rest,rfl,⟨r,hr⟩,hne⟩
    refine ⟨before,o,rest,q,r,ho,rfl,hr.symm,?_,hc⟩
    rintro rfl
    simp at hr
    exact hne hr

theorem advance {objects before after : List CompactObject} {packets : List QByteArray} (i : Nat)
    {w : QByteArray} (ho : objects = before ++ after) (hw : w <+: stream after)
    (hp : List.Forall₂ PacketOf packets before) :
    (¬ InnerCut objects (stream before ++ w) →
      Caught objects (stream before ++ w)
        (flush record (split record (List.replicate i newline ++ w) packets)).2
        (flush record (split record (List.replicate i newline ++ w) packets)).1) ∧
    (InnerCut objects (stream before ++ w) →
      Torn objects (stream before ++ w)
        (flush record (split record (List.replicate i newline ++ w) packets)).2
        (flush record (split record (List.replicate i newline ++ w) packets)).1) := by
  obtain ⟨xs,ys,q,rfl,rfl,hq⟩ := prefix_stream hw
  obtain ⟨new,k,hnew,he⟩ := flush_lines i xs hq packets
  have hgood : List.Forall₂ PacketOf (packets ++ new) (before ++ xs) := List.rel_append hp hnew
  have ho' : objects = (before ++ xs) ++ ys := by rw [ho,List.append_assoc]
  rw [he,← List.append_assoc,← stream_append,innerCut_iff ho' hq,← QByteArray.endsWith_iff]
  by_cases hc : QByteArray.endsWith q [closing] = true
  · rw [if_pos hc]
    rcases hq with rfl | ⟨o,rest,rfl,hpre⟩
    · exact absurd hc (by decide)
    by_cases hfull : q = o.text
    · subst hfull
      refine ⟨fun _ => .early ho' ?_,?_⟩
      · exact List.rel_append hgood (.cons ⟨k,0,by simp⟩ .nil)
      · rintro ⟨_,o',_,h,_,hne⟩
        exact absurd (by rw [(List.cons.inj h).1]) hne
    · refine ⟨fun h => absurd ⟨hc,o,rest,rfl,hpre,hfull⟩ h,fun _ => ?_⟩
      obtain ⟨r,hr⟩ := hpre
      refine ⟨before ++ xs,o,rest,q,r,packets ++ new,k,ho',rfl,hr.symm,?_,?_,hgood,rfl,rfl⟩
      · rintro rfl
        exact absurd hc (by decide)
      · rintro rfl
        exact hfull (by simpa using hr)
  · rw [if_neg hc]
    exact ⟨fun _ => .inside k ho' hq (fun h => hc ((QByteArray.endsWith_iff _ _).mpr h)) hgood,
      fun h => absurd h.1 hc⟩

theorem caught_step {objects : List CompactObject} {p buffer chunk : QByteArray}
    {packets : List QByteArray} (h : Caught objects p packets buffer)
    (hpre : p ++ chunk <+: stream objects) :
    (¬ InnerCut objects (p ++ chunk) →
      Caught objects (p ++ chunk) (processData record buffer chunk packets).2
        (processData record buffer chunk packets).1) ∧
    (InnerCut objects (p ++ chunk) →
      Torn objects (p ++ chunk) (processData record buffer chunk packets).2
        (processData record buffer chunk packets).1) := by
  rw [processData_eq]
  cases h with
  | @inside before after q packets i ho hq hc hp =>
    rw [ho,stream_append,List.append_assoc,List.prefix_append_right_inj] at hpre
    rw [List.append_assoc,List.append_assoc]
    exact advance i ho hpre hp
  | @early before after o packets ho hp =>
    cases chunk with
    | nil =>
      have hnot : ¬ InnerCut objects (stream before ++ o.text) := by
        rw [innerCut_iff ho (.inr ⟨o,after,rfl,List.prefix_refl _⟩)]
        rintro ⟨_,o',_,h,_,hne⟩
        exact hne (by rw [(List.cons.inj h).1])
      rw [List.append_nil,List.append_nil]
      exact ⟨fun _ => .early ho hp,fun h => absurd h hnot⟩
    | cons x w =>
      have ho' : objects = (before ++ [o]) ++ after := by rw [ho]; simp
      rw [ho,stream_append,List.append_assoc,List.prefix_append_right_inj,stream_cons,
        List.prefix_append_right_inj,List.cons_prefix_cons] at hpre
      obtain ⟨rfl,hw⟩ := hpre
      have hs : stream before ++ o.text ++ newline :: w = stream (before ++ [o]) ++ w := by simp
      rw [hs]
      exact advance 1 ho' hw hp

def feed (r : QByteArray × List QByteArray) (chunks : List QByteArray) :
    QByteArray × List QByteArray :=
  chunks.foldl (fun r chunk => processData record r.1 chunk r.2) r

theorem Spoiled.feed {objects : List CompactObject} {r : QByteArray × List QByteArray}
    (h : Spoiled objects r.2) (chunks : List QByteArray) : Spoiled objects (feed r chunks).2 := by
  induction chunks generalizing r with
  | nil => exact h
  | cons c cs ih =>
    apply ih
    have he := congrArg Prod.snd (record_append r.1 c r.2)
    exact he ▸ h.append _

theorem Caught.complete {objects : List CompactObject} {packets : List QByteArray}
    {buffer : QByteArray} (h : Caught objects (stream objects) packets buffer) :
    List.Forall₂ PacketOf packets objects := by
  generalize hs : stream objects = p at h
  cases h with
  | @inside before after q packets i ho hq hc hp =>
    rw [ho,stream_append] at hs
    have hq' := List.append_cancel_left hs
    cases after with
    | nil => simpa [ho] using hp
    | cons o after =>
      rw [← hq'] at hq
      exact absurd (by simp) hq.newline_not_mem
  | @early before after o packets ho hp =>
    rw [ho,stream_append] at hs
    have := List.append_cancel_left hs
    simp at this

theorem feed_iff {objects : List CompactObject} {p : QByteArray} {r : QByteArray × List QByteArray}
    (h : Caught objects p r.2 r.1) (chunks : List QByteArray)
    (hs : p ++ chunks.flatten = stream objects) :
    List.Forall₂ PacketOf (feed r chunks).2 objects ↔
      ∀ pre, pre ≠ [] → pre <+: chunks → ¬ InnerCut objects (p ++ pre.flatten) := by
  induction chunks generalizing p r with
  | nil =>
    rw [List.flatten_nil,List.append_nil] at hs
    subst hs
    constructor
    · intro _ pre hne hpre
      exact absurd (List.prefix_nil.mp hpre) hne
    · exact fun _ => h.complete
  | cons c cs ih =>
    rw [List.flatten_cons,← List.append_assoc] at hs
    obtain ⟨hgood,hbad⟩ := caught_step h ⟨_,hs⟩
    constructor
    · intro hall pre hne hpre hcut
      have hc : ¬ InnerCut objects (p ++ c) := fun hcut =>
        (Spoiled.feed (hbad hcut).spoiled cs).not_forall₂ hall
      cases pre with
      | nil => exact hne rfl
      | cons d pre =>
        obtain ⟨hd,hpre⟩ := List.cons_prefix_cons.mp hpre
        rw [hd,List.flatten_cons,← List.append_assoc] at hcut
        by_cases hp : pre = []
        · subst hp
          exact hc (by simpa using hcut)
        · exact (ih (hgood hc) hs).mp hall pre hp hpre hcut
    · intro hall
      have hc : ¬ InnerCut objects (p ++ c) := by
        simpa using hall [c] (by simp) (by simp)
      refine (ih (hgood hc) hs).mpr fun pre hne hpre hcut => ?_
      apply hall (c :: pre) (by simp) (by simpa using hpre)
      simpa using hcut

end RemoteProxy.JsonPackets

namespace RemoteProxy

open JsonPackets

def CompactObject.ofMap (m : QVariantMap)
    (h : (QJsonDocument.toJson (.map m)).head? = some opening ∧
      (QJsonDocument.toJson (.map m)).getLast? = some closing ∧
      newline ∉ QJsonDocument.toJson (.map m)) : CompactObject where
  text := QJsonDocument.toJson (.map m)
  opens := ⟨(QJsonDocument.toJson (.map m)).tail,(List.cons_head?_tail h.1).symm⟩
  closes := ⟨(QJsonDocument.toJson (.map m)).dropLast,
    (List.dropLast_append_getLast? _ h.2.1).symm⟩
  newline_not_mem := h.2.2

end RemoteProxy
