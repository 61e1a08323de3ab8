/-
# Property tables

The own properties of an object: values by key, each key once, in the order in
which the keys were first written. Writing a key again replaces its value in
place.

Key definitions: `PropertyTable`, `PropertyTable.get?`, `PropertyTable.insert`.
Key theorems: `PropertyTable.get?_insert`, `PropertyTable.keys_insert`.
-/
import Invocation.Value

namespace Invocation

namespace Properties

/-- Writes a key in a list of properties: in place if it is there, at the end if not. -/
def write (key : PropertyKey) (value : Value) :
    List (PropertyKey × Value) → List (PropertyKey × Value)
  | [] => [(key, value)]
  | p :: ps => if p.1 = key then (key, value) :: ps else p :: write key value ps

/-- The value at a key. -/
def read (key : PropertyKey) : List (PropertyKey × Value) → Option Value
  | [] => none
  | p :: ps => if p.1 = key then some p.2 else read key ps

theorem read_write (key k : PropertyKey) (value : Value) : ∀ ps : List (PropertyKey × Value),
    read k (write key value ps) = if k = key then some value else read k ps
  | [] => by
    by_cases h : k = key
    · simp [write, read, h]
    · simp [write, read, h, Ne.symm h]
  | p :: ps => by
    unfold write
    by_cases hp : p.1 = key
    · simp only [hp, ↓reduceIte, read]
      by_cases h : k = key
      · simp [h]
      · simp [h, Ne.symm h]
    · simp only [hp, ↓reduceIte, read, read_write key k value ps]
      by_cases hk : p.1 = k
      · have : k ≠ key := fun e => hp (hk.trans e)
        simp [hk, this]
      · simp [hk]

theorem keys_write (key : PropertyKey) (value : Value) : ∀ ps : List (PropertyKey × Value),
    (write key value ps).map Prod.fst =
      if key ∈ ps.map Prod.fst then ps.map Prod.fst else ps.map Prod.fst ++ [key]
  | [] => by simp [write]
  | p :: ps => by
    unfold write
    by_cases hp : p.1 = key
    · simp [hp]
    · simp only [hp, ↓reduceIte, List.map_cons, keys_write key value ps, List.mem_cons]
      by_cases hm : key ∈ ps.map Prod.fst
      · simp [hm]
      · simp [hm, Ne.symm hp]

theorem nodup_write {key : PropertyKey} {value : Value} {ps : List (PropertyKey × Value)}
    (h : (ps.map Prod.fst).Nodup) : ((write key value ps).map Prod.fst).Nodup := by
  rw [keys_write]
  split
  · exact h
  · rename_i hm
    exact List.nodup_append.2 ⟨h, by simp, by
      intro a ha b hb
      simp only [List.mem_singleton] at hb
      exact fun e => hm (hb ▸ e ▸ ha)⟩

end Properties

/-- The own properties of an object, each key once. -/
structure PropertyTable where
  entries : List (PropertyKey × Value) := []
  nodup : (entries.map Prod.fst).Nodup := by simp

namespace PropertyTable

def empty : PropertyTable := {}

instance : Inhabited PropertyTable := ⟨empty⟩

/-- The value at a key. -/
def get? (t : PropertyTable) (key : PropertyKey) : Option Value := Properties.read key t.entries

/-- Writes the value at a key, in place of the one that was there. -/
def insert (t : PropertyTable) (key : PropertyKey) (value : Value) : PropertyTable :=
  ⟨Properties.write key value t.entries, Properties.nodup_write t.nodup⟩

/-- The table of a list of properties, of which a later one replaces an earlier one. -/
def ofList (ps : List (PropertyKey × Value)) : PropertyTable :=
  ps.foldl (fun t p => t.insert p.1 p.2) empty

def keys (t : PropertyTable) : List PropertyKey := t.entries.map Prod.fst

def values (t : PropertyTable) : List Value := t.entries.map Prod.snd

@[simp] theorem get?_empty (k : PropertyKey) : empty.get? k = none := rfl

@[simp] theorem get?_insert (t : PropertyTable) (key k : PropertyKey) (value : Value) :
    (t.insert key value).get? k = if k = key then some value else t.get? k :=
  Properties.read_write key k value t.entries

/-- A key is new at the end or stays where it was. -/
theorem keys_insert (t : PropertyTable) (key : PropertyKey) (value : Value) :
    (t.insert key value).keys = if key ∈ t.keys then t.keys else t.keys ++ [key] :=
  Properties.keys_write key value t.entries

end PropertyTable
end Invocation
