/-
# The registry of native functions

Native functions by name. Registering a second function under a name replaces the
first. The entries stand in no particular order, and nothing that a registry is
asked depends on it: a function is looked up by its name, and the names are sorted
when somebody asks for them.

Key definitions: `Registry`, `Registry.register`, `Registry.find?`,
`Registry.names`.
-/
import Invocation.NativeFunction

namespace Invocation

/-- Puts a function into a list, in the place of one of its name if there is one. -/
def replaceByName (f : NativeFunction) : List NativeFunction → List NativeFunction
  | [] => [f]
  | g :: gs => if g.name = f.name then f :: gs else g :: replaceByName f gs

theorem mem_names_replaceByName {f : NativeFunction} {name : String} :
    ∀ {gs : List NativeFunction},
      name ∈ (replaceByName f gs).map (·.name) ↔ name = f.name ∨ name ∈ gs.map (·.name)
  | [] => by simp [replaceByName]
  | g :: gs => by
    unfold replaceByName
    split
    · rename_i hname
      simp [hname]
    · simp only [List.map_cons, List.mem_cons, mem_names_replaceByName]
      exact or_left_comm

theorem replaceByName_nodup (f : NativeFunction) : ∀ {gs : List NativeFunction},
    (gs.map (·.name)).Nodup → ((replaceByName f gs).map (·.name)).Nodup
  | [], _ => by simp [replaceByName]
  | g :: gs, h => by
    obtain ⟨hg, hgs⟩ := List.nodup_cons.mp h
    unfold replaceByName
    split
    · rename_i hname
      rwa [List.map_cons, ← hname]
    · rename_i hname
      refine List.nodup_cons.mpr ⟨fun hmem => ?_, replaceByName_nodup f hgs⟩
      exact (mem_names_replaceByName.mp hmem).elim hname hg

/-- Native functions, one of each name, in any order. -/
structure Registry where
  entries : List NativeFunction := []
  nodup : (entries.map (·.name)).Nodup := by simp

namespace Registry

def empty : Registry := {}

/-- Adds a function, in place of one that has its name. -/
def register (r : Registry) (f : NativeFunction) : Registry :=
  ⟨replaceByName f r.entries, replaceByName_nodup f r.nodup⟩

/-- The function registered under a name. -/
def find? (r : Registry) (name : String) : Option NativeFunction :=
  r.entries.find? (·.name == name)

def contains (r : Registry) (name : String) : Bool := (r.find? name).isSome

/-- The registered names, sorted. -/
def names (r : Registry) : List String := (r.entries.map (·.name)).mergeSort (· ≤ ·)

def size (r : Registry) : Nat := r.entries.length

def isEmpty (r : Registry) : Bool := r.entries.isEmpty

def debugText (r : Registry) : String :=
  "NativeFunctionRegistry \x7b names: [" ++ ", ".intercalate (r.names.map quoted) ++ "] \x7d"

end Registry
end Invocation
