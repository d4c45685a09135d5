import RemoteProxy.Proxy.JsonTypes
import RemoteProxy.Qt.Json

namespace RemoteProxy.JsonTypes

variable {q : Qt} {template value : QVariant}

/-- A template is built from names, lists of one template and maps of templates. -/
inductive IsTemplate : QVariant → Prop
  | name (s : String) : IsTemplate (.string s)
  | list {entry : QVariant} : IsTemplate entry → IsTemplate (.list [entry])
  | map {entries : QVariantMap} : (∀ e ∈ entries, IsTemplate e.2) → IsTemplate (.map entries)

/-- What a template is there to say: its required keys are present, every key is the name of one of
its keys, and lists and objects are checked down to the values that names stand for. -/
inductive Conforms (q : Qt) : QVariant → QVariant → Prop
  | name {s : String} {v : QVariant} : (validateString q s v).1 = true → Conforms q (.string s) v
  | list {entry : QVariant} {l : List QVariant} :
      (∀ v ∈ l, Conforms q entry v) → Conforms q (.list [entry]) (.list l)
  | map {entries m : QVariantMap} :
      (∀ e ∈ entries, isOptional e.1 = false → m.contains (strippedKey e.1) = true) →
      (∀ key ∈ m.keys, ∃ e ∈ entries, strippedKey e.1 = key) →
      (∀ e ∈ entries, m.contains (strippedKey e.1) = true →
        Conforms q e.2 (m.value (strippedKey e.1))) →
      Conforms q (.map entries) (.map m)

/-- A rule that the code checks is broken somewhere: a name does not allow its value, a required
key is missing, or a key is no key of the template with or without the prefix. -/
inductive Refused (q : Qt) : QVariant → QVariant → Prop
  | name {s : String} {v : QVariant} : (validateString q s v).1 = false → Refused q (.string s) v
  | element {entry v x : QVariant} :
      x ∈ v.toList → Refused q entry x → Refused q (.list [entry]) v
  | missing {entries : QVariantMap} {v : QVariant} {e : String × QVariant} :
      e ∈ entries → isOptional e.1 = false → v.toMap.contains (strippedKey e.1) = false →
      Refused q (.map entries) v
  | value {entries : QVariantMap} {v : QVariant} {e : String × QVariant} :
      e ∈ entries → v.toMap.contains (strippedKey e.1) = true →
      Refused q e.2 (v.toMap.value (strippedKey e.1)) → Refused q (.map entries) v
  | forbidden {entries : QVariantMap} {v : QVariant} {key : String} :
      key ∈ v.toMap.keys → entries.contains key = false → entries.contains ("o:" ++ key) = false →
      Refused q (.map entries) v

/-- A value is taken for something else somewhere: what is no list for an empty list, what is no
object for an empty object, or a key that repeats an optional key with its prefix for an allowed
one. -/
inductive Misread : QVariant → QVariant → Prop
  | list {entry v : QVariant} : (∀ l, v ≠ .list l) → Misread (.list [entry]) v
  | map {entries : QVariantMap} {v : QVariant} : (∀ m, v ≠ .map m) → Misread (.map entries) v
  | prefixed {entries : QVariantMap} {v : QVariant} {key : String} :
      key ∈ v.toMap.keys → entries.contains key = true → isOptional key = true →
      entries.contains ("o:" ++ key) = false → Misread (.map entries) v
  | element {entry v x : QVariant} : x ∈ v.toList → Misread entry x → Misread (.list [entry]) v
  | value {entries : QVariantMap} {v : QVariant} {e : String × QVariant} :
      e ∈ entries → v.toMap.contains (strippedKey e.1) = true →
      Misread e.2 (v.toMap.value (strippedKey e.1)) → Misread (.map entries) v

section Keys

theorem isOptional_optional (key : String) : isOptional ("o:" ++ key) = true := by
  simp [isOptional,String.toList_append]

theorem strippedKey_optional (key : String) : strippedKey ("o:" ++ key) = key := by
  rw [strippedKey,if_pos (isOptional_optional key)]
  simp [String.toList_append]

theorem optional_strippedKey {key : String} (h : isOptional key = true) :
    "o:" ++ strippedKey key = key := by
  have htake : key.toList.take 2 = ['o',':'] := by simpa [isOptional] using h
  have hkey : String.ofList (key.toList.take 2 ++ key.toList.drop 2) = key := by
    rw [List.take_append_drop,String.ofList_toList]
  rw [strippedKey,if_pos h]
  rw [htake,String.ofList_append] at hkey
  exact hkey

theorem contains_iff {m : QVariantMap} {key : String} :
    m.contains key = true ↔ ∃ e ∈ m, e.1 = key := by
  simp [QVariantMap.contains]

theorem named_iff {entries : QVariantMap} {key : String} :
    (∃ e ∈ entries, strippedKey e.1 = key) ↔
      (entries.contains key = true ∧ isOptional key = false) ∨
        entries.contains ("o:" ++ key) = true := by
  constructor
  · rintro ⟨e,he,rfl⟩
    cases ho : isOptional e.1 with
    | true =>
      refine .inr (contains_iff.mpr ⟨e,he,?_⟩)
      exact (optional_strippedKey ho).symm
    | false =>
      have hkey : strippedKey e.1 = e.1 := if_neg (by simp [ho])
      rw [hkey]
      exact .inl ⟨contains_iff.mpr ⟨e,he,rfl⟩,ho⟩
  · rintro (⟨h,ho⟩ | h)
    · obtain ⟨e,he,rfl⟩ := contains_iff.mp h
      exact ⟨e,he,if_neg (by simp [ho])⟩
    · obtain ⟨e,he,hkey⟩ := contains_iff.mp h
      exact ⟨e,he,by rw [hkey,strippedKey_optional]⟩

end Keys

section Checks

theorem validateList_iff {validate : QVariant → Bool × String} {list : List QVariant} :
    (validateList validate list).1 = true ↔ ∀ v ∈ list, (validate v).1 = true := by
  induction list with
  | nil => simp [validateList,report]
  | cons entry list ih =>
    rw [List.forall_mem_cons,← ih]
    simp only [validateList]
    cases h : (validate entry).1 with
    | true => simp
    | false => simp [h]

theorem validateAllowed_iff {templateMap map : QVariantMap} :
    (validateAllowed q templateMap map).1 = true ↔
      ∀ key ∈ map.keys, templateMap.contains key = true ∨
        templateMap.contains ("o:" ++ key) = true := by
  simp only [validateAllowed]
  split
  · next key hfind =>
    refine ⟨fun h => absurd h (by simp [forbiddenKey,report]),fun h => ?_⟩
    have hkey := List.find?_some hfind
    rw [Bool.and_eq_true,Bool.not_eq_true',Bool.not_eq_true'] at hkey
    rcases h key (List.mem_of_find?_eq_some hfind) with h | h
    · rw [hkey.1] at h
      cases h
    · rw [hkey.2] at h
      cases h
  · next hfind =>
    refine ⟨fun _ key hmem => ?_,fun _ => rfl⟩
    have hkey := List.find?_eq_none.mp hfind key hmem
    cases h : templateMap.contains key with
    | true => exact .inl rfl
    | false => exact .inr (by simpa [h] using hkey)

theorem validateTemplate_iff {templateMap map : QVariantMap} :
    (validateTemplate q templateMap map).1 = true ↔
      ∀ e ∈ templateMap,
        (isOptional e.1 = false → map.contains (strippedKey e.1) = true) ∧
        (map.contains (strippedKey e.1) = true →
          (validateVariant q e.2 (map.value (strippedKey e.1))).1 = true) := by
  induction templateMap with
  | nil => simp [validateTemplate,report]
  | cons e templateMap ih =>
    obtain ⟨key,template⟩ := e
    rw [List.forall_mem_cons,← ih]
    simp only [validateTemplate]
    cases ho : isOptional key with
    | true =>
      cases hc : map.contains (strippedKey key) with
      | true =>
        cases hv : (validateVariant q template (map.value (strippedKey key))).1 with
        | true => simp
        | false => simp [hv]
      | false => simp
    | false =>
      cases hc : map.contains (strippedKey key) with
      | true =>
        cases hv : (validateVariant q template (map.value (strippedKey key))).1 with
        | true => simp
        | false => simp [hv]
      | false => simp [missingKey,report]

theorem validateVariant_name {s : String} :
    (validateVariant q (.string s) value).1 = true ↔ (validateString q s value).1 = true := by
  simp only [validateVariant]
  cases h : (validateString q s value).1 with
  | true => simp [report]
  | false => simp [h]

theorem validateVariant_map {entries : QVariantMap} :
    (validateVariant q (.map entries) value).1 = true ↔
      (validateTemplate q entries value.toMap).1 = true ∧
        (validateAllowed q entries value.toMap).1 = true := by
  simp only [validateVariant]
  cases ht : (validateTemplate q entries value.toMap).1 with
  | true =>
    cases ha : (validateAllowed q entries value.toMap).1 with
    | true => simp [report]
    | false => simp [ha]
  | false => simp [ht]

theorem validateVariant_list {entry : QVariant} :
    (validateVariant q (.list [entry]) value).1 = true ↔
      ∀ v ∈ value.toList, (validateVariant q entry v).1 = true := by
  simp only [validateVariant]
  exact validateList_iff

end Checks

theorem validateVariant_iff (h : IsTemplate template) (value : QVariant) :
    (validateVariant q template value).1 = true ↔ ¬Refused q template value := by
  induction h generalizing value with
  | name s =>
    rw [validateVariant_name]
    refine ⟨fun hv hf => ?_,fun h => Bool.of_not_eq_false fun hf => h (.name hf)⟩
    cases hf with
    | name hf =>
      rw [hv] at hf
      cases hf
  | @list entry _ ih =>
    rw [validateVariant_list]
    refine ⟨fun hv hf => ?_,fun h v hm => (ih v).mpr fun hx => h (.element hm hx)⟩
    cases hf with
    | element hm hx => exact (ih _).mp (hv _ hm) hx
  | @map entries _ ih =>
    rw [validateVariant_map,validateTemplate_iff,validateAllowed_iff]
    constructor
    · rintro ⟨ht,ha⟩ hf
      cases hf with
      | missing he ho hc =>
        rw [(ht _ he).1 ho] at hc
        cases hc
      | value he hc hx => exact (ih _ he _).mp ((ht _ he).2 hc) hx
      | forbidden hkey h1 h2 =>
        rcases ha _ hkey with h | h
        · rw [h1] at h
          cases h
        · rw [h2] at h
          cases h
    · intro h
      refine ⟨fun e he => ⟨fun ho => ?_,fun hc => ?_⟩,fun key hkey => ?_⟩
      · exact Bool.of_not_eq_false fun hc => h (.missing he ho hc)
      · exact (ih e he _).mpr fun hx => h (.value he hc hx)
      · by_contra hn
        rw [not_or,Bool.not_eq_true,Bool.not_eq_true] at hn
        exact h (.forbidden hkey hn.1 hn.2)

theorem Conforms.unrefused (ht : IsTemplate template) (h : Conforms q template value) :
    ¬Refused q template value := by
  induction ht generalizing value with
  | name s =>
    intro hf
    cases h with
    | name hv =>
      cases hf with
      | name hf =>
        rw [hv] at hf
        cases hf
  | list _ ih =>
    intro hf
    cases h with
    | list hl =>
      cases hf with
      | element hm hx => exact ih (hl _ hm) hx
  | map _ ih =>
    intro hf
    cases h with
    | @map entries m hrequired hnames hvalues =>
      cases hf with
      | @missing _ _ e he ho hc =>
        have hpresent : m.contains (strippedKey e.1) = false := hc
        rw [hrequired e he ho] at hpresent
        cases hpresent
      | value he hc hx => exact ih _ he (hvalues _ he hc) hx
      | forbidden hkey h1 h2 =>
        rcases named_iff.mp (hnames _ hkey) with ⟨h,-⟩ | h
        · rw [h1] at h
          cases h
        · rw [h2] at h
          cases h

theorem Conforms.unmistaken (ht : IsTemplate template) (h : Conforms q template value) :
    ¬Misread template value := by
  induction ht generalizing value with
  | name s =>
    intro hm
    cases hm
  | list _ ih =>
    intro hm
    cases h with
    | @list entry l hl =>
      cases hm with
      | list hn => exact hn l rfl
      | element hx hm => exact ih (hl _ hx) hm
  | map _ ih =>
    intro hm
    cases h with
    | @map entries m hrequired hnames hvalues =>
      cases hm with
      | map hn => exact hn m rfl
      | prefixed hkey h1 h2 h3 =>
        rcases named_iff.mp (hnames _ hkey) with ⟨-,h⟩ | h
        · rw [h2] at h
          cases h
        · rw [h3] at h
          cases h
      | value he hc hx => exact ih _ he (hvalues _ he hc) hx

theorem conforms_of (ht : IsTemplate template) (hr : ¬Refused q template value)
    (hm : ¬Misread template value) : Conforms q template value := by
  induction ht generalizing value with
  | name s => exact .name (Bool.of_not_eq_false fun hf => hr (.name hf))
  | list _ ih =>
    by_cases hl : ∃ l, value = .list l
    · obtain ⟨l,rfl⟩ := hl
      exact .list fun v hv => ih (fun hx => hr (.element hv hx)) fun hx => hm (.element hv hx)
    · exact absurd (.list fun l hv => hl ⟨l,hv⟩) hm
  | @map entries _ ih =>
    by_cases hmap : ∃ m, value = .map m
    · obtain ⟨m,rfl⟩ := hmap
      refine .map (fun e he ho => ?_) (fun key hkey => ?_) fun e he hc => ?_
      · exact Bool.of_not_eq_false fun hc => hr (.missing he ho hc)
      · by_contra hn
        rw [named_iff,not_or,Bool.not_eq_true] at hn
        cases hc : entries.contains key with
        | true => exact hm (.prefixed hkey hc (Bool.of_not_eq_false fun ho => hn.1 ⟨hc,ho⟩) hn.2)
        | false => exact hr (.forbidden hkey hc hn.2)
      · exact ih e he (fun hx => hr (.value he hc hx)) fun hx => hm (.value he hc hx)
    · exact absurd (.map fun m hv => hmap ⟨m,hv⟩) hm

theorem validateMap_iff {templateMap : QVariantMap} (h : IsTemplate (.map templateMap))
    (map : QVariantMap) :
    (validateMap q templateMap map).1 = true ↔ ¬Refused q (.map templateMap) (.map map) := by
  rw [← validateVariant_iff h,validateVariant_map,validateMap]
  cases ht : (validateTemplate q templateMap map).1 with
  | true => simp [QVariant.toMap,ht]
  | false => simp [QVariant.toMap,ht]

/-- The code accepts exactly the objects that conform, unless it accepts one that it misreads. -/
theorem validateMap_exact_iff {templateMap : QVariantMap} (h : IsTemplate (.map templateMap))
    (map : QVariantMap) :
    ((validateMap q templateMap map).1 = true ↔ Conforms q (.map templateMap) (.map map)) ↔
      (Misread (.map templateMap) (.map map) → Refused q (.map templateMap) (.map map)) := by
  rw [validateMap_iff h]
  constructor
  · intro hiff hm
    by_contra hr
    exact (hiff.mp hr).unmistaken h hm
  · intro himp
    exact ⟨fun hr => conforms_of h hr fun hm => hr (himp hm),fun hc => hc.unrefused h⟩

section Sample

def namedUuids : QVariantMap :=
  [("o:name",.string (basicTypeToString .String)),
    ("uuids",.list [.string (basicTypeToString .Uuid)])]

theorem namedUuids_isTemplate : IsTemplate (.map namedUuids) := by
  refine .map fun e he => ?_
  simp only [namedUuids,List.mem_cons,List.not_mem_nil,or_false] at he
  rcases he with rfl | rfl
  · exact .name _
  · exact .list (.name _)

theorem validateMap_exact_iff_sample :
    ((validateMap (Qt.onDocuments []) namedUuids [("uuids",.list [.string (uuidText 1)])]).1 = true ↔
        Conforms (Qt.onDocuments []) (.map namedUuids) (.map [("uuids",.list [.string (uuidText 1)])])) ↔
      (Misread (.map namedUuids) (.map [("uuids",.list [.string (uuidText 1)])]) →
        Refused (Qt.onDocuments []) (.map namedUuids) (.map [("uuids",.list [.string (uuidText 1)])])) :=
  validateMap_exact_iff namedUuids_isTemplate _

theorem misread_accepted :
    (validateMap (Qt.onDocuments []) namedUuids [("uuids",.number 7 0)]).1 = true ∧
      ¬Conforms (Qt.onDocuments []) (.map namedUuids) (.map [("uuids",.number 7 0)]) ∧
    (validateMap (Qt.onDocuments []) namedUuids [("o:name",.null),("uuids",.list [])]).1 = true ∧
      ¬Conforms (Qt.onDocuments []) (.map namedUuids)
        (.map [("o:name",.null),("uuids",.list [])]) := by
  refine ⟨by decide +kernel,fun h => ?_,by decide +kernel,fun h => ?_⟩
  · refine h.unmistaken namedUuids_isTemplate (.value (e := ("uuids",_))
      (List.mem_cons_of_mem _ (List.mem_singleton_self _)) (by decide) (.list fun l hl => ?_))
    cases hl
  · exact h.unmistaken namedUuids_isTemplate (.prefixed (List.mem_cons_self ..) (by decide)
      (by decide) (by decide))

end Sample

end RemoteProxy.JsonTypes
