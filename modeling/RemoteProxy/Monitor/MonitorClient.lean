import RemoteProxy.Common.JsonObjects
import RemoteProxy.Foundation.Delimited
import RemoteProxy.Monitor.MonitorServer
import RemoteProxy.Qt.Json

namespace RemoteProxy

namespace MonitorClient

inductive Output where
  | dataReady (dataMap : QVariantMap)
  | printed (json : String)

end MonitorClient

structure MonitorClient where
  m_jsonMode : Bool
  m_dataBuffer : QByteArray
  exited : Bool
  output : List MonitorClient.Output

namespace MonitorClient

open JsonPackets

def new (jsonMode : Bool) : MonitorClient where
  m_jsonMode := jsonMode
  m_dataBuffer := []
  exited := false
  output := []

variable (env : Qt)

def processBufferData (c : MonitorClient) : MonitorClient :=
  match env.fromJson c.m_dataBuffer with
  | .error _ => c
  | .ok jsonDoc =>
    if c.m_jsonMode then
      { c with
        output := c.output ++ [.printed (env.toJsonIndented jsonDoc.toMap)]
        exited := true }
    else { c with output := c.output ++ [.dataReady jsonDoc.toMap] }

def lineEnd : QByteArray := [closing,newline]

theorem lineEnd_ne_nil : lineEnd ≠ [] := List.cons_ne_nil _ _

def onReadyRead (c : MonitorClient) (data : QByteArray) : MonitorClient :=
  if c.exited then c
  else
    match QByteArray.indexOf lineEnd data with
    | none => { c with m_dataBuffer := c.m_dataBuffer ++ data }
    | some index =>
      let c := processBufferData env
        { c with m_dataBuffer := c.m_dataBuffer ++ QByteArray.left data (index + 1) }
      if c.exited then c
      else { c with m_dataBuffer := QByteArray.right data (data.length - index - 2) }

def receive (c : MonitorClient) (reads : List QByteArray) : MonitorClient :=
  reads.foldl (onReadyRead env) c

section Reads

variable {env} {c : MonitorClient} {data x y : QByteArray}

theorem onReadyRead_eq (hexited : c.exited = false) (data : QByteArray) :
    c.onReadyRead env data =
      match QByteArray.indexOf lineEnd data with
      | none => { c with m_dataBuffer := c.m_dataBuffer ++ data }
      | some index =>
        let c := processBufferData env
          { c with m_dataBuffer := c.m_dataBuffer ++ QByteArray.left data (index + 1) }
        if c.exited then c
        else { c with m_dataBuffer := QByteArray.right data (data.length - index - 2) } := by
  rw [onReadyRead,if_neg (Bool.eq_false_iff.mp hexited)]

theorem read_part (hexited : c.exited = false) (h : ¬lineEnd <:+: data) :
    c.onReadyRead env data = { c with m_dataBuffer := c.m_dataBuffer ++ data } := by
  rw [onReadyRead_eq hexited,QByteArray.indexOf_none lineEnd_ne_nil h]

/-- What the text in the buffer makes a client emit that is not in JSON mode. -/
def emitted (env : Qt) (m_dataBuffer : QByteArray) : List Output :=
  match env.fromJson m_dataBuffer with
  | .error _ => []
  | .ok jsonDoc => [.dataReady jsonDoc.toMap]

theorem processBufferData_eq (hmode : c.m_jsonMode = false) :
    processBufferData env c = { c with output := c.output ++ emitted env c.m_dataBuffer } := by
  rw [processBufferData,emitted]
  split
  · rw [List.append_nil]
  · rw [if_neg (Bool.eq_false_iff.mp hmode)]

theorem read_line (hmode : c.m_jsonMode = false) (hexited : c.exited = false)
    (h : ¬lineEnd <:+: x ++ [closing]) (y : QByteArray) :
    c.onReadyRead env (x ++ lineEnd ++ y) =
      { c with
        m_dataBuffer := y
        output := c.output ++ emitted env (c.m_dataBuffer ++ (x ++ [closing])) } := by
  have hindex : QByteArray.indexOf lineEnd (x ++ lineEnd ++ y) = some x.length :=
    QByteArray.indexOf_some lineEnd_ne_nil h y
  have hleft : QByteArray.left (x ++ lineEnd ++ y) (x.length + 1) = x ++ [closing] := by
    simp [QByteArray.left,lineEnd,List.take_append]
  have hright : QByteArray.right (x ++ lineEnd ++ y)
      ((x ++ lineEnd ++ y).length - x.length - 2) = y := by
    have hdrop : (x ++ lineEnd ++ y).length - ((x ++ lineEnd ++ y).length - x.length - 2) =
        (x ++ lineEnd).length := by
      simp [lineEnd]
      omega
    rw [QByteArray.right,hdrop,List.drop_left]
  rw [onReadyRead_eq hexited,hindex]
  simp only [hleft,hright]
  rw [processBufferData_eq (c := { c with m_dataBuffer := c.m_dataBuffer ++ (x ++ [closing]) }) hmode]
  exact if_neg (Bool.eq_false_iff.mp hexited)

theorem length_emitted_le (env : Qt) (m_dataBuffer : QByteArray) :
    (emitted env m_dataBuffer).length ≤ 1 := by
  rw [emitted]
  split
  · exact Nat.zero_le 1
  · exact Nat.le_refl 1

theorem read_output (env : Qt) (hmode : c.m_jsonMode = false) (hexited : c.exited = false)
    (data : QByteArray) :
    (c.onReadyRead env data).m_jsonMode = false ∧ (c.onReadyRead env data).exited = false ∧
      (c.onReadyRead env data).output.length ≤
        c.output.length + if lineEnd <:+: data then 1 else 0 := by
  cases hi : QByteArray.indexOf lineEnd data with
  | none =>
    have hnot : ¬lineEnd <:+: data := fun h => QByteArray.indexOf_ne_none h hi
    rw [read_part hexited hnot]
    exact ⟨hmode,hexited,Nat.le_add_right _ _⟩
  | some i =>
    obtain ⟨x,y,rfl,-,hx⟩ := QByteArray.indexOf_cases lineEnd_ne_nil hi
    rw [read_line hmode hexited hx,if_pos ⟨x,y,rfl⟩]
    refine ⟨hmode,hexited,?_⟩
    rw [List.length_append]
    exact Nat.add_le_add_left (length_emitted_le env _) _

end Reads

section Framing

variable {env} {reports : List QVariantMap} {content : QVariantMap → QVariantMap}
  {reads : List QByteArray}

/-- The client emits each report once and in order, and is left with nothing. -/
def Delivers (env : Qt) (content : QVariantMap → QVariantMap) (reports : List QVariantMap)
    (reads : List QByteArray) : Prop :=
  ((new false).receive env reads).output = reports.map (fun m => .dataReady (content m)) ∧
    ((new false).receive env reads).m_dataBuffer = []

def OneLineEach (reads : List QByteArray) : Prop :=
  ∀ data ∈ reads, data.count newline ≤ 1 ∧ data.head? ≠ some newline

instance : DecidablePred OneLineEach := fun _ => List.decidableBAll _ _

theorem receive_length (env : Qt) {c : MonitorClient} (hmode : c.m_jsonMode = false)
    (hexited : c.exited = false) (reads : List QByteArray) :
    (c.receive env reads).output.length ≤
      c.output.length + reads.countP (fun data => lineEnd <:+: data) := by
  induction reads generalizing c with
  | nil => exact Nat.le_refl _
  | cons data reads ih =>
    obtain ⟨hmode',hexited',hlength⟩ := read_output env hmode hexited data
    have hrest := ih hmode' hexited'
    rw [List.countP_cons]
    simp only [receive,List.foldl_cons,decide_eq_true_eq] at hrest ⊢
    omega

theorem holds_le_count (data : QByteArray) :
    (if lineEnd <:+: data then 1 else 0) ≤ data.count newline := by
  split
  · next h => exact List.count_pos_iff.mpr (h.subset (by simp [lineEnd]))
  · exact Nat.zero_le _

theorem countP_le_count (reads : List QByteArray) :
    reads.countP (fun data => lineEnd <:+: data) ≤ reads.flatten.count newline := by
  induction reads with
  | nil => exact Nat.le_refl _
  | cons data reads ih =>
    have hdata := holds_le_count data
    rw [List.countP_cons,List.flatten_cons,List.count_append]
    simp only [decide_eq_true_eq]
    omega

theorem oneLineEach_of_count (h : reads.flatten.count newline ≤
    reads.countP (fun data => lineEnd <:+: data)) : OneLineEach reads := by
  induction reads with
  | nil => exact fun _ hm => absurd hm List.not_mem_nil
  | cons data reads ih =>
    have hdata := holds_le_count data
    have hreads := countP_le_count reads
    rw [List.countP_cons,List.flatten_cons,List.count_append] at h
    simp only [decide_eq_true_eq] at h
    have hcount : data.count newline ≤ if lineEnd <:+: data then 1 else 0 := by omega
    refine List.forall_mem_cons.mpr ⟨⟨?_,?_⟩,ih (by omega)⟩
    · apply hcount.trans
      split
      · exact Nat.le_refl 1
      · exact Nat.zero_le 1
    · intro hhead
      obtain ⟨rest,rfl⟩ := List.head?_eq_some_iff.mp hhead
      rw [List.count_cons_self] at hcount
      split at hcount
      · next hin =>
        have hnone : newline ∉ rest := List.count_eq_zero.mp (by omega)
        rcases List.infix_cons_iff.mp hin with hp | hi
        · exact absurd (List.cons_prefix_cons.mp hp).1 (by decide)
        · exact hnone (hi.subset (by simp [lineEnd]))
      · omega

/-- The text of a report is a compact JSON object, which the client reads as the report's content. -/
structure Readable (env : Qt) (content : QVariantMap → QVariantMap) (m : QVariantMap) : Prop where
  compact : ∃ o : CompactObject, o.text = env.toJson m
  parsed : env.fromJson (env.toJson m) = .ok (.map (content m))

theorem lines_count (hreports : ∀ m ∈ reports, Readable env content m) :
    (MonitorServer.lines env reports).count newline = reports.length := by
  induction reports with
  | nil => rfl
  | cons m reports ih =>
    obtain ⟨hm,hreports⟩ := List.forall_mem_cons.mp hreports
    obtain ⟨o,ho⟩ := hm.compact
    have htext : (env.toJson m).count newline = 0 :=
      List.count_eq_zero.mpr (ho ▸ o.newline_not_mem)
    have hrest := ih hreports
    simp only [MonitorServer.lines,MonitorServer.line,List.flatMap_cons,List.count_append] at hrest ⊢
    rw [htext,hrest,List.count_singleton_self,List.length_cons]
    omega

theorem closed_of_line {o : CompactObject} {buffer x y : QByteArray} (h : buffer ++ x = o.text)
    (hhead : (x ++ newline :: y).head? ≠ some newline) : ∃ init, x = init ++ [closing] := by
  rcases List.eq_nil_or_concat x with rfl | ⟨init,a,rfl⟩
  · exact absurd rfl hhead
  · obtain ⟨text,hclosed⟩ := o.closes
    rw [hclosed,List.concat_eq_append,← List.append_assoc] at h
    exact ⟨init,by rw [List.concat_eq_append,(List.append_inj' h rfl).2]⟩

theorem receive_delivers (hreports : ∀ m ∈ reports, Readable env content m)
    (hone : OneLineEach reads) {c : MonitorClient} (hmode : c.m_jsonMode = false)
    (hexited : c.exited = false) (hbuffer : newline ∉ c.m_dataBuffer)
    (hs : c.m_dataBuffer ++ reads.flatten = MonitorServer.lines env reports) :
    (c.receive env reads).output =
        c.output ++ reports.map (fun m => .dataReady (content m)) ∧
      (c.receive env reads).m_dataBuffer = [] := by
  induction reads generalizing c reports with
  | nil =>
    rw [List.flatten_nil,List.append_nil] at hs
    cases reports with
    | nil => exact ⟨(List.append_nil _).symm,hs⟩
    | cons m reports =>
      refine absurd ?_ hbuffer
      rw [hs]
      simp [MonitorServer.lines,MonitorServer.line]
  | cons data reads ih =>
    obtain ⟨⟨hcount,hhead⟩,hreads⟩ := List.forall_mem_cons.mp hone
    rw [List.flatten_cons,← List.append_assoc] at hs
    by_cases hn : newline ∈ data
    · obtain ⟨x,y,rfl,hx⟩ := List.eq_append_cons_of_mem hn
      cases reports with
      | nil => simp [MonitorServer.lines] at hs
      | cons m reports =>
        obtain ⟨hm,hreports⟩ := List.forall_mem_cons.mp hreports
        obtain ⟨o,ho⟩ := hm.compact
        have hlines : c.m_dataBuffer ++ x ++ newline :: (y ++ reads.flatten) =
            env.toJson m ++ newline :: MonitorServer.lines env reports := by
          simpa [MonitorServer.lines,MonitorServer.line] using hs
        obtain ⟨htext,hrest⟩ := Delimited.append_stop_inj (by simp [hbuffer,hx])
          (ho ▸ o.newline_not_mem) hlines
        obtain ⟨x,rfl⟩ := closed_of_line (o := o) (htext.trans ho.symm) hhead
        have hy : newline ∉ y := by
          rw [List.count_append,List.count_cons_self] at hcount
          exact List.count_eq_zero.mp (by omega)
        have hfirst : ¬lineEnd <:+: x ++ [closing] := fun h => hx (h.subset (by simp [lineEnd]))
        have hemitted : emitted env (c.m_dataBuffer ++ (x ++ [closing])) =
            [.dataReady (content m)] := by
          rw [← List.append_assoc,List.append_assoc c.m_dataBuffer,htext,emitted,hm.parsed]
          rfl
        have hread : c.onReadyRead env (x ++ [closing] ++ newline :: y) =
            { c with m_dataBuffer := y, output := c.output ++ [.dataReady (content m)] } := by
          rw [← hemitted,← read_line hmode hexited hfirst y]
          simp [lineEnd]
        have hnext := ih hreports hreads
          (c := { c with m_dataBuffer := y, output := c.output ++ [.dataReady (content m)] })
          hmode hexited hy hrest
        rw [receive,List.foldl_cons,hread,List.map_cons]
        exact ⟨hnext.1.trans (List.append_cons c.output _ _).symm,hnext.2⟩
    · have hpart : ¬lineEnd <:+: data := fun h => hn (h.subset (by simp [lineEnd]))
      have hnext := ih hreports hreads (c := { c with m_dataBuffer := c.m_dataBuffer ++ data })
        hmode hexited (by simp [hbuffer,hn]) hs
      rw [receive,List.foldl_cons,read_part hexited hpart]
      exact hnext

/-- The client emits each report that the server has sent once, in order, and is left with nothing,
exactly when no read takes in more than one line break and none begins with one. -/
theorem delivers_iff (hreports : ∀ m ∈ reports, Readable env content m) (clientConnection : Nat)
    (hs : reads.flatten = (reports.foldl (fun s dataMap =>
      MonitorServer.sendMonitorData env s clientConnection dataMap)
        MonitorServer.new).written clientConnection) :
    Delivers env content reports reads ↔ OneLineEach reads := by
  rw [MonitorServer.sendMonitorData_fold] at hs
  change reads.flatten = MonitorServer.lines env reports at hs
  constructor
  · rintro ⟨houtput,-⟩
    have hlength := receive_length env (c := new false) rfl rfl reads
    rw [houtput,List.length_map,← lines_count hreports,← hs] at hlength
    exact oneLineEach_of_count (by simpa [new] using hlength)
  · exact fun hone => receive_delivers (c := new false) hreports hone rfl rfl
      List.not_mem_nil hs

end Framing

section Run

def monitorReport (n : Int) : QVariantMap :=
  [("serverName",.string "proxy"),
    ("tunnelProxyStatistic",.map [("totalClientCount",.number n 0)])]

def monitorReports : List QVariantMap := [monitorReport 1,monitorReport 2]

def monitorQt : Qt := Qt.onDocuments monitorReports

theorem monitorReports_readable (m : QVariantMap) (h : m ∈ monitorReports) :
    Readable monitorQt id m := by
  simp only [monitorReports,List.mem_cons,List.not_mem_nil,or_false] at h
  rcases h with rfl | rfl
  · exact ⟨⟨CompactObject.ofMap (monitorReport 1) (by decide +kernel),rfl⟩,rfl⟩
  · exact ⟨⟨CompactObject.ofMap (monitorReport 2) (by decide +kernel),rfl⟩,rfl⟩

def reportLine (n : Int) : QByteArray := MonitorServer.line monitorQt (monitorReport n)

def separateReads : List QByteArray :=
  [(reportLine 1).take 7,(reportLine 1).drop 7,reportLine 2]

theorem delivers_iff_separate :
    Delivers monitorQt id monitorReports separateReads ↔ OneLineEach separateReads :=
  delivers_iff monitorReports_readable 0 (by decide +kernel)

theorem coalesced_undelivered :
    [reportLine 1 ++ reportLine 2].flatten = (monitorReports.foldl (fun s dataMap =>
      MonitorServer.sendMonitorData monitorQt s 0 dataMap) MonitorServer.new).written 0 ∧
    ¬Delivers monitorQt id monitorReports [reportLine 1 ++ reportLine 2] := by
  refine ⟨by decide +kernel,fun h => ?_⟩
  have hlength := congrArg List.length h.1
  exact absurd hlength (by decide +kernel)

end Run

end MonitorClient

end RemoteProxy
