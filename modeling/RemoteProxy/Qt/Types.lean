import Mathlib.Data.List.AList

namespace RemoteProxy

abbrev QByteArray := List UInt8

namespace QByteArray

def isNull (b : QByteArray) : Bool := b.isEmpty

def left (b : QByteArray) (n : Nat) : QByteArray := b.take n

def right (b : QByteArray) (n : Nat) : QByteArray := b.drop (b.length - n)

def startsWith (b pattern : QByteArray) : Bool := pattern.isPrefixOf b

def endsWith (b pattern : QByteArray) : Bool := pattern.isSuffixOf b

def indexOf (pattern : QByteArray) : QByteArray → Option Nat
  | [] => if pattern = [] then some 0 else none
  | x :: xs => if startsWith (x :: xs) pattern then some 0 else (indexOf pattern xs).map (· + 1)

end QByteArray

namespace QString

def split (separator : Char) (s : String) : List String :=
  (s.toList.splitOn separator).map String.ofList

end QString

structure QUuid where
  toNat : Nat
  deriving DecidableEq, Repr

namespace QUuid

def null : QUuid := ⟨0⟩

def isNull (u : QUuid) : Bool := u = null

end QUuid

instance : Inhabited QUuid := ⟨QUuid.null⟩

abbrev QHash (K V : Type) := AList (fun _ : K => V)

namespace QHash

variable {K V : Type} [DecidableEq K]

def value (h : QHash K V) (k : K) : Option V := h.lookup k

def contains (h : QHash K V) (k : K) : Bool := (h.value k).isSome

def remove (h : QHash K V) (k : K) : QHash K V := h.erase k

def values (h : QHash K V) : List V := h.entries.map Sigma.snd

@[simp] theorem value_empty (k : K) : value (∅ : QHash K V) k = none := AList.lookup_empty k

theorem value_insert (h : QHash K V) (k k' : K) (v : V) :
    value (AList.insert k v h) k' = if k' = k then some v else value h k' := by
  split
  · next e => subst e; exact AList.lookup_insert h
  · next e => exact AList.lookup_insert_ne e

theorem value_remove (h : QHash K V) (k k' : K) :
    value (remove h k) k' = if k' = k then none else value h k' := by
  split
  · next e => subst e; exact AList.lookup_erase k' h
  · next e => exact AList.lookup_erase_ne e

theorem contains_eq_false (h : QHash K V) (k : K) : h.contains k = false ↔ h.value k = none := by
  simp [contains]

theorem mem_values (h : QHash K V) (v : V) : v ∈ h.values ↔ ∃ k, h.value k = some v := by
  simp only [values,List.mem_map,value]
  constructor
  · rintro ⟨⟨k,w⟩,hm,rfl⟩
    exact ⟨k,AList.mem_lookup_iff.mpr hm⟩
  · rintro ⟨k,hk⟩
    exact ⟨⟨k,v⟩,AList.mem_lookup_iff.mp hk,rfl⟩

theorem mem_keys (h : QHash K V) (k : K) : k ∈ h.keys ↔ ∃ v, h.value k = some v := by
  rw [← AList.mem_keys,← AList.lookup_isSome,Option.isSome_iff_exists]
  rfl

end QHash

inductive QVariant where
  | invalid
  | null
  | bool (b : Bool)
  | number (mantissa exponent : Int)
  | string (s : String)
  | uuid (u : QUuid)
  | list (l : List QVariant)
  | map (m : List (String × QVariant))

instance : Inhabited QVariant := ⟨.invalid⟩

abbrev QVariantMap := List (String × QVariant)

namespace QVariantMap

def contains (m : QVariantMap) (key : String) : Bool := m.any (·.1 == key)

def value (m : QVariantMap) (key : String) : QVariant := (List.lookup key m).getD .invalid

def keys (m : QVariantMap) : List String := m.map Prod.fst

def insert (m : QVariantMap) (key : String) (v : QVariant) : QVariantMap :=
  (key,v) :: m.filter (fun e => !(e.1 == key))

end QVariantMap

namespace QVariant

def ofNat (n : Nat) : QVariant := .number n 0

def toMap : QVariant → QVariantMap
  | .map m => m
  | _ => []

def toList : QVariant → List QVariant
  | .list l => l
  | _ => []

end QVariant

inductive BasicType where
  | Uuid | String | Int | UInt | Double | Bool | Variant | Object
  deriving DecidableEq, Repr

/-- What the program takes from Qt: JSON documents and the conversions of `QVariant` and `QUuid`. -/
structure Qt where
  fromJson : QByteArray → Except String QVariant
  toJson : QVariantMap → QByteArray
  toJsonIndented : QVariantMap → String
  toInt : QVariant → Option Int
  toUInt : QVariant → Nat
  toUuid : QVariant → QUuid
  toString : QVariant → String
  canConvert : QVariant → BasicType → Bool
  convert : QVariant → BasicType → Bool
  uuidToString : QUuid → String
  uuidFromString : String → QUuid
  arg : String → String → String

structure QUrl where
  toString : String
  isValid : Bool
  deriving DecidableEq, Repr

inductive SocketState where
  | UnconnectedState | HostLookupState | ConnectingState | ConnectedState | BoundState
  | ListeningState | ClosingState
  deriving DecidableEq, Repr

structure QTimer where
  interval : Nat
  singleShot : Bool
  deadline : Option Nat
  deriving DecidableEq, Repr

namespace QTimer

def start (t : QTimer) (now : Nat) : QTimer := { t with deadline := some (now + t.interval) }

def stop (t : QTimer) : QTimer := { t with deadline := none }

def isActive (t : QTimer) : Bool := t.deadline.isSome

def due (t : QTimer) (now : Nat) : Bool := t.deadline.any (· ≤ now)

def timeout (t : QTimer) (now : Nat) : QTimer := if t.singleShot then t.stop else t.start now

end QTimer

end RemoteProxy
