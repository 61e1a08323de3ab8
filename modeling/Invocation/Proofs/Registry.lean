/-
# What a registry holds

Under each name a registry holds the function that was registered last (`find?_ofList`). The entries
may stand in any order. What is asked of a registry does not depend on it: its names come out in
strict order, and two registries that hold the same under every name have the same names
(`names_congr`). So neither the order of the entries, nor that of the registrations, nor what was
replaced leaves a trace.

Key definitions: `Registry.ofList`, `Registry.latest?`, `Registry.functions`.
Key theorems: `Registry.find?_ofList`, `Registry.names_sorted`, `Registry.names_congr`,
`Registry.map_name_functions`.
-/
import Mathlib.Data.List.Sort
import Invocation.Registry

namespace Invocation
namespace Registry

variable {reg reg' : Registry} {f : NativeFunction} {fs gs : List NativeFunction} {name : String}

/-- The registry that registering functions one after the other makes. -/
def ofList (fs : List NativeFunction) : Registry := fs.foldl register empty

/-- The function that comes last under a name. -/
def latest? (fs : List NativeFunction) (name : String) : Option NativeFunction :=
  fs.reverse.find? (·.name == name)

/-- The registered functions in the order of their names. -/
def functions (reg : Registry) : List NativeFunction := reg.names.filterMap reg.find?

/-! ### Registering -/

theorem find?_replaceByName (f : NativeFunction) (name : String) : ∀ gs : List NativeFunction,
    (replaceByName f gs).find? (·.name == name) =
      if f.name = name then some f else gs.find? (·.name == name)
  | [] => by
    by_cases hf : f.name = name
    · simp [replaceByName, hf]
    · simp [replaceByName, hf]
  | g :: gs => by
    have ih := find?_replaceByName f name gs
    unfold replaceByName
    by_cases hf : f.name = name
    · rw [if_pos hf] at ih ⊢
      split
      · simp [hf]
      · -- the head has another name, so the search goes on behind it
        rename_i hne
        have hg : ¬ g.name = name := fun hg => hne (hg.trans hf.symm)
        simp [hg, ih]
    · rw [if_neg hf] at ih ⊢
      split
      · rename_i heq
        have hg : ¬ g.name = name := fun hg => hf (heq.symm.trans hg)
        simp [hf, hg]
      · by_cases hg : g.name = name
        · simp [hg]
        · simp [hg, ih]

/-- A function is found under its name after it was registered, and the others stay. -/
theorem find?_register (reg : Registry) (f : NativeFunction) (name : String) :
    (reg.register f).find? name = if f.name = name then some f else reg.find? name :=
  find?_replaceByName f name reg.entries

theorem latest?_cons (f : NativeFunction) (fs : List NativeFunction) (name : String) :
    latest? (f :: fs) name = (latest? fs name).or (if f.name = name then some f else none) := by
  unfold latest?
  rw [List.reverse_cons, List.find?_append]
  by_cases hf : f.name = name
  · simp [hf]
  · simp [hf]

/-- What is found after some registrations is the last one of the name, or what was there. -/
theorem find?_foldl (name : String) : ∀ (fs : List NativeFunction) (reg : Registry),
    (fs.foldl register reg).find? name = (latest? fs name).or (reg.find? name)
  | [], _ => rfl
  | f :: fs, reg => by
    have ih := find?_foldl name fs (reg.register f)
    rw [List.foldl_cons, ih, find?_register, latest?_cons, Option.or_assoc]
    by_cases hf : f.name = name
    · rw [if_pos hf, if_pos hf, Option.some_or]
    · rw [if_neg hf, if_neg hf, Option.none_or]

theorem find?_ofList (fs : List NativeFunction) (name : String) :
    (ofList fs).find? name = latest? fs name := by
  show (fs.foldl register empty).find? name = _
  rw [find?_foldl]
  exact Option.or_none

/-! ### Looking up -/

/-- With each name there once, every function is found. -/
theorem find?_of_mem : ∀ {fs : List NativeFunction}, (fs.map (·.name)).Nodup → f ∈ fs →
    fs.find? (·.name == f.name) = some f
  | g :: gs, hnodup, hf => by
    obtain ⟨hg, hnodup⟩ := List.nodup_cons.mp hnodup
    rcases List.mem_cons.mp hf with rfl | hf
    · simp
    · have hne : ¬ g.name = f.name := by
        intro heq
        exact hg (List.mem_map.mpr ⟨f, hf, heq.symm⟩)
      simp [hne, find?_of_mem hnodup hf]

/-- The entries of a registry are the functions that are found under their names. -/
theorem mem_entries_iff : f ∈ reg.entries ↔ reg.find? f.name = some f :=
  ⟨find?_of_mem reg.nodup, List.mem_of_find?_eq_some⟩

theorem name_of_find? (hf : reg.find? name = some f) : f.name = name := by
  unfold find? at hf
  have hnamed := List.find?_some hf
  exact eq_of_beq hnamed

/-- A lookup does not depend on the order of the entries. -/
theorem find?_perm (h : reg.entries.Perm reg'.entries) (name : String) :
    reg.find? name = reg'.find? name := by
  have hsame : ∀ f, reg.find? f.name = some f ↔ reg'.find? f.name = some f := by
    intro f
    rw [← mem_entries_iff, ← mem_entries_iff, h.mem_iff]
  refine Option.ext fun f => ?_
  constructor
  · intro hf
    obtain rfl := name_of_find? hf
    exact (hsame f).mp hf
  · intro hf
    obtain rfl := name_of_find? hf
    exact (hsame f).mpr hf

/-! ### The names in order -/

theorem mem_names_iff : name ∈ reg.names ↔ (reg.find? name).isSome = true := by
  unfold names find?
  rw [List.mem_mergeSort, List.find?_isSome]
  simp

theorem names_nodup (reg : Registry) : reg.names.Nodup :=
  (List.mergeSort_perm _ _).nodup_iff.mpr reg.nodup

/-- The names come out in strict order. -/
theorem names_sorted (reg : Registry) : reg.names.Pairwise (· < ·) := by
  have hle : reg.names.Pairwise (fun a b => decide (a ≤ b) = true) := by
    refine List.pairwise_mergeSort ?_ ?_ _
    · intro a b c hab hbc
      exact decide_eq_true (String.le_trans (of_decide_eq_true hab) (of_decide_eq_true hbc))
    · intro a b
      rw [Bool.or_eq_true, decide_eq_true_iff, decide_eq_true_iff]
      exact String.le_total a b
  refine hle.imp₂ (fun a b hab hne => ?_) reg.names_nodup
  exact String.not_le.mp fun hba => hne (String.le_antisymm (of_decide_eq_true hab) hba)

/-- Registries that hold the same under every name have the same names. -/
theorem names_congr (h : ∀ name, reg.find? name = reg'.find? name) : reg.names = reg'.names := by
  have hmem : ∀ name, name ∈ reg.names ↔ name ∈ reg'.names := by
    intro name
    rw [mem_names_iff, mem_names_iff, h]
  exact @List.Pairwise.eq_of_mem_iff _ _
    ⟨fun _ _ hlt hgt => absurd (String.lt_trans hlt hgt) (String.lt_irrefl _)⟩
    ⟨fun _ => String.lt_irrefl _⟩ _ _ reg.names_sorted reg'.names_sorted hmem

/-- The names of a registry are those under which something was registered. -/
theorem mem_names_ofList : name ∈ (ofList fs).names ↔ name ∈ fs.map (·.name) := by
  rw [mem_names_iff, find?_ofList]
  unfold latest?
  rw [List.find?_isSome]
  simp

/-! ### The functions in order -/

theorem mem_functions_iff : f ∈ reg.functions ↔ reg.find? f.name = some f := by
  unfold functions
  rw [List.mem_filterMap]
  constructor
  · rintro ⟨name, -, hf⟩
    rwa [name_of_find? hf]
  · intro hf
    exact ⟨f.name, mem_names_iff.mpr (Option.isSome_of_eq_some hf), hf⟩

theorem mem_of_find? (hf : reg.find? name = some f) : f ∈ reg.functions := by
  obtain rfl := name_of_find? hf
  exact mem_functions_iff.mpr hf

/-- Under every registered name there is a function, and it has that name. -/
theorem map_name_functions (reg : Registry) : reg.functions.map (·.name) = reg.names := by
  have hall : ∀ names : List String, (∀ name ∈ names, (reg.find? name).isSome = true) →
      (names.filterMap reg.find?).map (·.name) = names := by
    intro names hnames
    induction names with
    | nil => rfl
    | cons name names ih =>
      obtain ⟨hname, hrest⟩ := List.forall_mem_cons.mp hnames
      obtain ⟨f, hf⟩ := Option.isSome_iff_exists.mp hname
      rw [List.filterMap_cons_some hf, List.map_cons, name_of_find? hf, ih hrest]
  exact hall reg.names fun name => mem_names_iff.mp

theorem functions_nodup (reg : Registry) : (reg.functions.map (·.name)).Nodup := by
  rw [map_name_functions]
  exact reg.names_nodup

end Registry
end Invocation
