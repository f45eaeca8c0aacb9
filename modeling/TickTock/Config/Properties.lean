import Mathlib.Data.List.Sort
import Mathlib.Data.String.Basic

/-! # `Config`: the property maps

`m_properties`, which every getter reads, and `m_overrides`, which `reload` lays over the file.
A `Property` is the string it holds; every call runs whole, as under `m_lock`. -/

namespace TickTock

/-! ### Maps -/

def insertEntry (name value : String) : List (String × String) → List (String × String)
  | [] => [(name, value)]
  | (k, v) :: es =>
    if name = k then (name, value) :: es
    else if name < k then (name, value) :: (k, v) :: es
    else (k, v) :: insertEntry name value es

@[simp] theorem lookup_cons_entry (k k' v : String) (es : List (String × String)) :
    ((k', v) :: es).lookup k = if k = k' then some v else es.lookup k := by
  simp only [List.lookup_cons]
  split <;> simp_all

theorem lookup_insertEntry (name value k : String) (es : List (String × String)) :
    (insertEntry name value es).lookup k = if k = name then some value else es.lookup k := by
  induction es with
  | nil => simp [insertEntry]
  | cons e es ih =>
    obtain ⟨k', v'⟩ := e
    simp only [insertEntry]
    split_ifs <;> simp_all

theorem mem_keys_insertEntry {name value k : String} {es : List (String × String)}
    (h : k ∈ (insertEntry name value es).map Prod.fst) : k = name ∨ k ∈ es.map Prod.fst := by
  induction es with
  | nil => simpa [insertEntry] using h
  | cons e es ih =>
    obtain ⟨k', v'⟩ := e
    simp only [insertEntry] at h
    split_ifs at h <;> simp only [List.map_cons, List.mem_cons] at h ⊢
    · tauto
    · tauto
    · exact h.elim (.inr ∘ .inl) fun h => (ih h).imp_right .inr

theorem sorted_insertEntry (name value : String) {es : List (String × String)}
    (h : (es.map Prod.fst).Sorted (· < ·)) :
    ((insertEntry name value es).map Prod.fst).Sorted (· < ·) := by
  induction es with
  | nil => simp [insertEntry]
  | cons e es ih =>
    obtain ⟨k, v⟩ := e
    rw [List.map_cons, List.sorted_cons] at h
    simp only [insertEntry]
    split_ifs with h1 h2
    · subst h1
      simpa using h
    · simp only [List.map_cons, List.sorted_cons, List.mem_cons]
      exact ⟨fun x hx => hx.elim (· ▸ h2) (h2.trans ∘ h.1 x), h⟩
    · have hk : k < name := lt_of_le_of_ne (not_lt.mp h2) (Ne.symm h1)
      simp only [List.map_cons, List.sorted_cons]
      exact ⟨fun x hx => (mem_keys_insertEntry hx).elim (· ▸ hk) (h.1 x), ih h.2⟩

/-- A `std::map` from names to values, as its entries in iteration order. -/
structure PropMap where
  entries : List (String × String)
  sorted : (entries.map Prod.fst).Sorted (· < ·)

namespace PropMap

def empty : PropMap := ⟨[], List.sorted_nil⟩

def find (m : PropMap) (name : String) : Option String := m.entries.lookup name

/-- `m[name] = value`, or the found entry's `set_value(value)`. -/
def insert (m : PropMap) (name value : String) : PropMap :=
  ⟨insertEntry name value m.entries, sorted_insertEntry name value m.sorted⟩

@[simp] theorem find_empty (name : String) : empty.find name = none := rfl

@[simp] theorem find_insert (m : PropMap) (name value k : String) :
    (m.insert name value).find k = if k = name then some value else m.find k :=
  lookup_insertEntry name value k m.entries

end PropMap

/-! ### The state and its updates -/

structure Config where
  properties : PropMap
  overrides : PropMap

namespace Config

def empty : Config := ⟨.empty, .empty⟩

def getProperty (c : Config) (name : String) : Option String := c.properties.find name

def getOverride (c : Config) (name : String) : Option String := c.overrides.find name

def «exists» (c : Config) (name : String) : Bool :=
  (c.getProperty name).isSome || (c.getOverride name).isSome

def setValueNoLock (c : Config) (name value : String) : Config :=
  { c with properties := c.properties.insert name value }

def setValue (c : Config) (name value : String) : Config := c.setValueNoLock name value

def addOverride (c : Config) (name value : String) : Config :=
  { c with overrides := c.overrides.insert name value }

@[simp] theorem getProperty_empty (name : String) : empty.getProperty name = none := rfl

@[simp] theorem getOverride_empty (name : String) : empty.getOverride name = none := rfl

@[simp] theorem getProperty_setValueNoLock (c : Config) (name value k : String) :
    (c.setValueNoLock name value).getProperty k =
      if k = name then some value else c.getProperty k :=
  PropMap.find_insert _ _ _ _

@[simp] theorem getOverride_setValueNoLock (c : Config) (name value k : String) :
    (c.setValueNoLock name value).getOverride k = c.getOverride k := rfl

@[simp] theorem setValue_eq (c : Config) (name value : String) :
    c.setValue name value = c.setValueNoLock name value := rfl

@[simp] theorem getProperty_addOverride (c : Config) (name value k : String) :
    (c.addOverride name value).getProperty k = c.getProperty k := rfl

@[simp] theorem getOverride_addOverride (c : Config) (name value k : String) :
    (c.addOverride name value).getOverride k =
      if k = name then some value else c.getOverride k :=
  PropMap.find_insert _ _ _ _

/-! ### Getters

`Property`'s conversions are not under src/: they are parameters, `none` where they throw. -/

section Getters

variable {α : Type}

def getOr (conv : String → Option α) (c : Config) (name : String) (defValue : α) : Option α :=
  match c.getProperty name with
  | none => some defValue
  | some value => conv value

def get? (conv : String → Option α) (c : Config) (name : String) : Option α :=
  (c.getProperty name).bind conv

def getBool (asBool : String → Option Bool) (c : Config) (name : String) (defValue : Bool) :
    Option Bool :=
  getOr asBool c name defValue

def getInt (asInt : String → Option ℤ) (c : Config) (name : String) : Option ℤ :=
  get? asInt c name

def getIntOr (asInt : String → Option ℤ) (c : Config) (name : String) (defValue : ℤ) :
    Option ℤ :=
  getOr asInt c name defValue

def getFloat (asFloat : String → Option Float) (c : Config) (name : String) : Option Float :=
  get? asFloat c name

def getFloatOr (asFloat : String → Option Float) (c : Config) (name : String)
    (defValue : Float) : Option Float :=
  getOr asFloat c name defValue

/-- `Config::get_str(name)` gives `EMPTY_STD_STRING` for a missing property; it does not throw. -/
def getStr (c : Config) (name : String) : String := (c.getProperty name).getD ""

def getStrOr (c : Config) (name defValue : String) : String := (c.getProperty name).getD defValue

def getBytes (asBytes : String → Option ℕ) (c : Config) (name : String) : Option ℕ :=
  get? asBytes c name

/-- `Config::get_bytes(name, def_value)` converts the default string like a stored value. -/
def getBytesOr (asBytes : String → Option ℕ) (c : Config) (name defValue : String) : Option ℕ :=
  asBytes ((c.getProperty name).getD defValue)

def getTime {U : Type} (asTime : String → U → Option ℕ) (c : Config) (name : String) (unit : U) :
    Option ℕ :=
  get? (asTime · unit) c name

def getTimeOr {U : Type} (asTime : String → U → Option ℕ) (c : Config) (name : String)
    (unit : U) (defValue : String) : Option ℕ :=
  asTime ((c.getProperty name).getD defValue) unit

end Getters

end Config

end TickTock
