/-
# What a session exports

Starting a session loads the registered functions into the exports object, and exporting a name
reads a property of that object. As long as nobody writes to it, a registered name exports the
function that was loaded for it, whatever else is done with the realm: the property is the
object's own, and so it is what is read.

The read goes on to the prototype of the exports object for every other name. Exporting a name
that is not registered is therefore an error only while the prototype of objects and what it
inherits from have nothing to read for the name; anything else there but Undefined is exported
(`exported_names`, `unregistered_exported`).

Key theorems: `Heap.readsAt_prototype`, `Realm.Loads.missing`, `Session.start_loads`,
`Session.exported_names`.
-/
import Invocation.Proofs.Realm.ReadBack
import Invocation.Proofs.Run.Beside
import Invocation.Proofs.Session

namespace Invocation

/-! ### Reading past an object -/

/-- What is read from an object that does not have the key itself is what is read from its
prototype, with room for one scope less. -/
theorem Heap.readsAt_prototype {h : Heap} {limit : Nat} {x p : ObjectHandle} {o : HeapObject}
    {key : PropertyKey} {v : Value} (ho : h.object? x = some o) (hown : o.ownProperty? key = none)
    (hproto : o.prototype = some p) : (∃ before s q, h.ReadsAt limit x key v before s q) ↔
      ∃ before s q, h.ReadsAt (limit - 1) p key v before s q := by
  constructor
  · rintro ⟨before, s, q, hr⟩
    obtain ⟨hpath, hwithin, hpasses, hobject, hown'⟩ := hr
    cases before with
    | nil =>
      -- the object itself has nothing to read
      cases hpath
      rw [ho] at hobject
      cases hobject
      rw [hown] at hown'
      cases hown'
    | cons y rest =>
      obtain ⟨hy, o', ho', hrest⟩ := hpath.cons_inv
      cases hy
      rw [ho] at ho'
      cases ho'
      rw [hproto] at hrest
      rw [List.length_cons] at hwithin
      exact ⟨rest, s, q, hrest, by omega, ((passes_cons ho).mp hpasses).2, hobject, hown'⟩
  · rintro ⟨before, s, q, hr⟩
    have hpath : h.Path o.prototype before (some s) := by
      rw [hproto]
      exact hr.path
    have hwithin : (x :: before).length < limit := by
      have hless := hr.within
      rw [List.length_cons]
      omega
    exact ⟨x :: before, s, q, .scope ho hpath, hwithin, (passes_cons ho).mpr ⟨hown, hr.passes⟩,
      hr.object, hr.own⟩

/-- Under any other name the exports object has nothing of its own. -/
theorem Realm.Loads.missing {registry : Registry} {r r' : Realm} {o : HeapObject} {name : String}
    (h : Loads registry r r') (ho : r'.heap.object? r.heap.nextHandle = some o)
    (hnot : registry.contains name = false) : o.ownProperty? name = none := by
  obtain ⟨p, hp, hk, -, hkeys, -⟩ := h.exports
  rw [ho] at hp
  cases hp
  have hkey : PropertyKey.text name ∉ o.properties.keys := by
    rw [hkeys]
    intro hmem
    obtain ⟨n, hn, heq⟩ := List.mem_map.mp hmem
    cases heq
    rw [Registry.contains, Registry.mem_names_iff.mp hn] at hnot
    cases hnot
  obtain ⟨hlen, hpos, -⟩ := Realm.write_ordinary hk name .undefined
  rw [HeapObject.ownProperty?_table hlen hpos]
  exact PropertyTable.get?_of_not_mem_keys hkey

namespace Session

variable {options : Options} {session : Session} {s : Run.State} {x : ObjectHandle} {v : Value}
  {name : String}

/-- The run of a session begins with its realm in the hands of the host. -/
def running (session : Session) : Run.State := ⟨session.realm, .host (.ok .undefined), []⟩

theorem start_loads (h : start options = .ok session) :
    session.registry = argumentAdapters ∧
      session.exports = .object (Realm.ofOptions options).heap.nextHandle ∧
      Realm.Loads argumentAdapters (.ofOptions options) session.realm := by
  have hsize : (Realm.ofOptions options).heap.size + 1 +
      objectCount argumentAdapters.functions ≤ UInt32.size := by
    rw [Registry.functions, argumentAdapters_names]
    show 4 + 1 + 3 ≤ UInt32.size
    decide
  obtain ⟨r, hload, hloads⟩ := Realm.loads hsize
  unfold start at h
  rw [hload] at h
  cases h
  exact ⟨rfl, rfl, hloads⟩

theorem exportFrom_eq_ok {exports : Value} {r : Realm} :
    exportFrom exports name r = .ok v ↔ r.property exports name = .ok v ∧ v ≠ .undefined := by
  unfold exportFrom
  cases hget : r.property exports name with
  | error e =>
    constructor
    · intro h
      cases h
    · rintro ⟨h, -⟩
      cases h
  | ok w =>
    cases w with
    | undefined =>
      constructor
      · intro h
        cases h
      · rintro ⟨h, hv⟩
        exact absurd (Except.ok.inj h).symm hv
    | _ =>
      constructor
      · intro h
        cases h
        exact ⟨rfl, by simp⟩
      · rintro ⟨h, -⟩
        exact h

/-- What a session exports, in every state that a run from its start comes to in which no property
of the exports object was written and no prototype was set on it. A registered name exports the
function object that was made for it at the start. Any other name exports exactly the values other
than Undefined that are read for it along the chain of the prototype of objects, and nothing if
there is none. -/
theorem exported_names (hstart : start options = .ok session) (hx : session.exports = .object x)
    (hp : 1 ≤ options.maxPrototypeDepth) (hrun : Run.TurnsBeside x session.running s)
    (name : String) :
    (∀ f, session.registry.find? name = some f → ∃ y o,
      session.realm.ownProperty? session.exports name = .ok (some (.object y)) ∧
      session.realm.heap.object? y = some o ∧ o.kind = .native f ∧
      exportFrom session.exports name s.realm = .ok (.object y)) ∧
    (session.registry.contains name = false → ∀ v,
      exportFrom session.exports name s.realm = .ok v ↔ v ≠ .undefined ∧ ∃ before scope o,
        s.realm.heap.ReadsAt (options.maxPrototypeDepth - 1) session.realm.objectPrototype name v
          before scope o) := by
  obtain ⟨hregistry, hexports, hloads⟩ := start_loads hstart
  rw [hexports] at hx
  cases hx
  obtain ⟨o, ho, -, hproto, -, hown⟩ := hloads.exports
  have hevolves := hrun.evolvesBeside
  have ho' : s.realm.heap.object? (Realm.ofOptions options).heap.nextHandle = some o :=
    (hevolves.object? (Heap.contains_of_object? ho)).trans ho
  have hoptions : s.realm.options = options := by
    rw [hevolves.evolves.growsTo.options]
    show session.realm.options = options
    rw [hloads.realm]
    rfl
  rw [hregistry, hexports]
  constructor
  · intro f hf
    have hname := Registry.name_of_find? hf
    have hmem := Registry.mem_of_find? hf
    obtain ⟨p, hfunction, hkind, -⟩ := hloads.functions f hmem
    have hproperty := hown f hmem
    rw [hname] at hfunction hproperty
    refine ⟨_, p, ?_, hfunction, hkind, ?_⟩
    · rw [Realm.ownProperty?_object ho, hproperty]
    · refine exportFrom_object (Realm.property_own ho' hproperty ?_)
      rw [hoptions]
      exact hp
  · intro hnot v
    have hroot : o.prototype = some session.realm.objectPrototype := by
      rw [hproto, hloads.realm]
    rw [exportFrom_eq_ok, And.comm]
    refine and_congr_right fun hv => ?_
    rw [Realm.property_eq_ok hv, Heap.readsAt_prototype ho' (hloads.missing ho hnot) hroot,
      hoptions]

/-- A run of a fresh session in which the host writes a property of the prototype of objects. -/
def writtenRoot : Run.State :=
  (fresh {}).running.perform (.operation (.setProperty (.object ⟨0⟩) "extra" (.int 5)) rfl)

theorem beside_writtenRoot : Run.TurnBeside exportsHandle (fresh {}).running writtenRoot := by
  refine Run.TurnAway.beside (.task _ rfl ?_ (by decide))
  intro h
  cases h

theorem exported_writtenRoot :
    exportFrom (fresh {}).exports Inspect.functionName writtenRoot.realm =
        .ok (.object inspectingHandle) ∧
      exportFrom (fresh {}).exports "extra" writtenRoot.realm = .ok (.int 5) := by
  have hnames := exported_names (start_eq {}) rfl (by decide) (.single beside_writtenRoot)
  constructor
  · obtain ⟨y, o, hown, -, -, hexport⟩ := (hnames Inspect.functionName).1 inspectFunction rfl
    cases hown
    exact hexport
  · refine ((hnames "extra").2 rfl (.int 5)).mpr ⟨by simp, [], ⟨0⟩, ?_⟩
    exact ⟨_, .stop _, by decide, Heap.passes_nil, rfl, rfl⟩

/-- A name that was never registered is exported once the prototype of objects has a property of
that name. -/
theorem unregistered_exported :
    start {} = .ok (fresh {}) ∧ Run.TurnsBeside exportsHandle (fresh {}).running writtenRoot ∧
      (fresh {}).registry.contains "extra" = false ∧
      exportFrom (fresh {}).exports "extra" writtenRoot.realm = .ok (.int 5) :=
  ⟨start_eq {}, .single beside_writtenRoot, rfl, rfl⟩

end Session
end Invocation
