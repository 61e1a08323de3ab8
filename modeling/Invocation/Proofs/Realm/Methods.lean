/-
# Methods and their holders

A method is read along the lookup chain of its receiver, and its holder is sought
on the same chain: the read asks each scope for its own property at a key, the
search asks each scope whether its table of properties declares the function. The
two agree as long as the property is in the table. An element of an array is an
own property but not in the table, so a function that was read as an element has
a holder at or before that array only if a table there declares it besides.

Key definitions: `Heap.ReadsAt`.
Key theorems: `Realm.holder_iff_of_readsAt`, `Realm.declares_installMethod`.
-/
import Invocation.Proofs.Heap.Holder
import Invocation.Proofs.Realm.Layers
import Invocation.Proofs.Run.Invariant

namespace Invocation

/-! ### Declaring -/

namespace HeapObject

variable {o : HeapObject} {key : PropertyKey} {f : ObjectHandle}

theorem get?_of_ownProperty? (hpos : o.isPosition key = false)
    (hv : o.ownProperty? key = some (.object f)) : o.properties.get? key = some (.object f) := by
  cases hlen : o.isLength key with
  | false => rw [← ownProperty?_table hlen hpos, hv]
  | true =>
    -- a length is a number
    obtain ⟨⟨items, hk⟩, rfl⟩ := kind_of_isLength hlen
    rw [ownProperty?_length hk] at hv
    have hlength : (Value.ofLength items.size).handles = [f] := by
      rw [Option.some.inj hv]
      rfl
    rw [Value.handles_ofLength] at hlength
    cases hlength

theorem declares_of_ownProperty? (hpos : o.isPosition key = false)
    (hv : o.ownProperty? key = some (.object f)) : o.declares [f] = true :=
  declares_iff_get?.mpr ⟨key, f, List.mem_singleton.mpr rfl, get?_of_ownProperty? hpos hv⟩

/-- Writing a function declares it, unless it becomes an element. -/
theorem declares_write : (o.write key (.object f)).declares [f] = true ↔
    o.isPosition key = false ∨ o.declares [f] = true := by
  rw [declares_iff, declares_iff]
  cases hpos : o.isPosition key with
  | true =>
    obtain ⟨items, name, i, hk, rfl, hi⟩ := exists_of_isPosition hpos
    rw [write_element hk hi]
    simp
  | false =>
    have hget : (o.properties.insert key (.object f)).get? key = some (.object f) := by
      rw [PropertyTable.get?_insert, if_pos rfl]
    rw [write_table hpos]
    refine iff_of_true ?_ (Or.inl rfl)
    exact ⟨f, List.mem_singleton.mpr rfl, PropertyTable.mem_values_of_get? hget⟩

end HeapObject

/-- What is at the scope `s` is read at a key from `start` on: the path to `s` is within the limit,
and no scope on it has the key. -/
structure Heap.ReadsAt (h : Heap) (limit : Nat) (start : ObjectHandle) (key : PropertyKey)
    (v : Value)
    (before : List ObjectHandle) (s : ObjectHandle) (o : HeapObject) : Prop where
  path : h.Path (some start) before (some s)
  within : before.length < limit
  passes : h.Passes (fun _ p => p.ownProperty? key) before
  object : h.object? s = some o
  own : o.ownProperty? key = some v

namespace Realm

variable {r r' : Realm} {start target f s : ObjectHandle} {key : PropertyKey}
  {before : List ObjectHandle} {o : HeapObject}

theorem readsAt_of_ok {v : Value} (hv : v ≠ .undefined)
    (hget : r.property (.object start) key = .ok v) :
    ∃ before s o, r.heap.ReadsAt r.options.maxPrototypeDepth start key v before s o := by
  unfold property at hget
  simp only at hget
  cases hf : r.heap.findScope? r.options.maxPrototypeDepth (fun _ o => o.ownProperty? key)
      start with
  | error e =>
    rw [hf] at hget
    cases hget
  | ok found =>
    rw [hf] at hget
    cases found with
    | none => exact absurd (Except.ok.inj hget).symm hv
    | some w =>
      have hw : w = v := Except.ok.inj hget
      rw [hw] at hf
      obtain ⟨before, s, o, hp, hl, hpass, ho, hown⟩ := Heap.findScopeFrom?_eq_some.mp hf
      exact ⟨before, s, o, hp, hl, hpass, ho, hown⟩

theorem readsAt_of_property (hget : r.property (.object start) key = .ok (.object f)) :
    ∃ before s o,
      r.heap.ReadsAt r.options.maxPrototypeDepth start key (.object f) before s o :=
  readsAt_of_ok (by simp) hget

/-- A function that was read has its holder at or before the scope that it was read from exactly if
it is no element there or a table up to there declares it. -/
theorem holder_iff_of_readsAt
    (hr : r.heap.ReadsAt r.options.maxPrototypeDepth start key (.object f) before s o)
    (name : String) :
    (o.isPosition key = false ∨ ∃ scope ∈ before ++ [s], r.heap.Declares scope [f]) ↔
      ∃ scope ∈ before ++ [s], r.heap.holder r.options.maxPrototypeDepth (.object start) [f] name
        .strict = .ok (.object scope) := by
  constructor
  · intro hd
    refine Heap.holder_of_declares hr.path hr.within ?_ name .strict
    rcases hd with hpos | hd
    · exact ⟨s, by simp, o, hr.object, HeapObject.declares_of_ownProperty? hpos hr.own⟩
    · exact hd
  · rintro ⟨scope, hm, hh⟩
    exact Or.inr ⟨scope, hm, Heap.declares_of_holder hh⟩

theorem invokeMethod_of_readsAt {g : NativeFunction} {fo : HeapObject}
    (hr : r.heap.ReadsAt r.options.maxPrototypeDepth start key (.object f) before s o)
    (hget : r.property (.object start) key = .ok (.object f))
    (hd : ∃ scope ∈ before ++ [s], r.heap.Declares scope [f])
    (hf : r.heap.object? f = some fo) (hg : fo.kind = .native g) (arguments : List Value) :
    ∃ scope ∈ before ++ [s], invokeMethod (.object start) key arguments r =
      if r.callDepth < r.options.maxCallDepth then
        enter respond g ⟨.plain, f, g.name, .object start, .object scope, arguments⟩ r
      else (.error (.stackExceeded r.options.maxCallDepth), r) := by
  obtain ⟨scope, hm, hh⟩ := Heap.holder_of_declares hr.path hr.within hd g.name g.policy
  refine ⟨scope, hm, ?_⟩
  have hcall : invokeMethod (.object start) key arguments r =
      callWithReceiver (.object f) (.object start) arguments r := by
    rw [invokeMethod, Action.bind_apply]
    simp only [Action.read, hget]
  have hlayers : r.heap.Unwraps f [] f g := .native hf hg
  rw [hcall]
  by_cases hdepth : r.callDepth < r.options.maxCallDepth
  · rw [if_pos hdepth]
    have hroom : ([] : Layers).length + 1 ≤ r.options.maxCallDepth :=
      Nat.lt_of_le_of_lt (Nat.zero_le _) hdepth
    exact callWithReceiver_layers hlayers hroom hdepth hh arguments
  · rw [if_neg hdepth]
    exact callWithReceiver_noLevel hlayers (Nat.le_of_not_lt hdepth) _ arguments

theorem installMethod_ok
    (hok : installMethod (.object target) key (.object f) r = (.ok (), r')) :
    ∃ o, r.heap.object? target = some o ∧
      r' = { r with heap := r.heap.modify target (·.write key (.object f)) } := by
  unfold installMethod at hok
  by_cases hcall : r.isCallable (.object f) = true
  · rw [if_pos hcall] at hok
    obtain ⟨x, o, hx, ho, -, hr⟩ := setProperty_ok hok
    cases hx
    exact ⟨o, ho, hr⟩
  · rw [if_neg hcall] at hok
    cases hok

/-- An object declares an installed method exactly if it is no element or was declared before. -/
theorem declares_installMethod
    (hok : installMethod (.object target) key (.object f) r = (.ok (), r')) :
    ∃ o, r.heap.object? target = some o ∧ (r'.heap.Declares target [f] ↔
      o.isPosition key = false ∨ o.declares [f] = true) := by
  obtain ⟨o, ho, rfl⟩ := installMethod_ok hok
  refine ⟨o, ho, ?_⟩
  have hobject : (r.heap.modify target (·.write key (.object f))).object? target =
      some (o.write key (.object f)) := by
    rw [Heap.object?_modify, if_pos rfl, ho]
    rfl
  rw [← HeapObject.declares_write]
  constructor
  · rintro ⟨p, hp, hd⟩
    rw [hobject] at hp
    cases hp
    exact hd
  · intro hd
    exact ⟨_, hobject, hd⟩

/-- Reading a method and finding its holder. A function that is read along a chain is an own
property of a scope on it. Unless it is an element of an array there, its holder is at or before
that scope, and invoking it enters its adapter with that holder; if it is an element, this is so
exactly if the table of some scope up to the array declares the function besides. An object on which
a method was installed declares it, unless it became an element, and is then its holder for itself
and for every object that reaches it, or an object before it is. -/
theorem method_holder (r : Realm) :
    (∀ (start f : ObjectHandle) (key : PropertyKey),
      r.property (.object start) key = .ok (.object f) →
      ∃ before s o,
        r.heap.ReadsAt r.options.maxPrototypeDepth start key (.object f) before s o ∧
        (∀ name, (o.isPosition key = false ∨ ∃ scope ∈ before ++ [s], r.heap.Declares scope [f]) ↔
          ∃ scope ∈ before ++ [s],
            r.heap.holder r.options.maxPrototypeDepth (.object start) [f] name .strict =
              .ok (.object scope)) ∧
        (o.isPosition key = false ∨ (∃ scope ∈ before ++ [s], r.heap.Declares scope [f]) →
          ∀ (fo : HeapObject) (g : NativeFunction) (arguments : List Value),
            r.heap.object? f = some fo → fo.kind = .native g →
            ∃ scope ∈ before ++ [s], invokeMethod (.object start) key arguments r =
              if r.callDepth < r.options.maxCallDepth then
                enter respond g ⟨.plain, f, g.name, .object start, .object scope, arguments⟩ r
              else (.error (.stackExceeded r.options.maxCallDepth), r))) ∧
    (∀ (target f : ObjectHandle) (key : PropertyKey) (r' : Realm),
      installMethod (.object target) key (.object f) r = (.ok (), r') →
      ∃ o, r.heap.object? target = some o ∧
        (r'.heap.Declares target [f] ↔ o.isPosition key = false ∨ o.declares [f] = true) ∧
        (o.isPosition key = false →
          ∀ start before, r'.heap.Path (some start) before (some target) →
            before.length < r'.options.maxPrototypeDepth →
            ∀ name policy, ∃ scope ∈ before ++ [target],
              r'.heap.holder r'.options.maxPrototypeDepth (.object start) [f] name policy =
                .ok (.object scope))) := by
  constructor
  · intro start f key hget
    obtain ⟨before, s, o, hr⟩ := readsAt_of_property hget
    refine ⟨before, s, o, hr, fun name => holder_iff_of_readsAt hr name, ?_⟩
    intro hd fo g arguments hf hg
    have hdeclares : ∃ scope ∈ before ++ [s], r.heap.Declares scope [f] := by
      obtain ⟨scope, hm, hh⟩ := (holder_iff_of_readsAt hr g.name).mp hd
      exact ⟨scope, hm, Heap.declares_of_holder hh⟩
    exact invokeMethod_of_readsAt hr hget hdeclares hf hg arguments
  · intro target f key r' hok
    obtain ⟨o, ho, hd⟩ := declares_installMethod hok
    refine ⟨o, ho, hd, ?_⟩
    intro hpos start before hp hl name policy
    exact Heap.holder_of_declares hp hl ⟨target, by simp, hd.mpr (Or.inl hpos)⟩ name policy

/-- A function whose adapter answers null and never looks at its holder. -/
def answering : NativeFunction :=
  { name := "answer", constructible := false, adapter := fun _ => .done .null }

/-- A run that makes an array and a function. -/
def beforeInstalling : Run.State :=
  ((Run.State.start {}).perform (.operation (.createArray []) rfl)).perform (.instantiate answering)

/-- The same run when the function was installed on the array at a key. -/
def installedAt (key : PropertyKey) : Run.State :=
  beforeInstalling.perform (.installMethod (.object ⟨4⟩) key (.object ⟨5⟩))

theorem reachable_installedAt (key : PropertyKey) : Run.Reachable {} (installedAt key) := by
  refine .head (.task (.operation (.createArray []) rfl) rfl (by decide)) ?_
  refine .head (.task (.instantiate answering) rfl (by decide)) ?_
  refine .single (.task (.installMethod (.object ⟨4⟩) key (.object ⟨5⟩)) rfl ?_)
  show ∀ x ∈ [ObjectHandle.mk 4, ObjectHandle.mk 5], _
  decide

/-- Installed at a name, the function is declared by the array and has it as its holder. -/
theorem holder_installedAt :
    (installedAt "m").realm.heap.Declares ⟨4⟩ [⟨5⟩] ∧
      ∃ scope, (installedAt "m").realm.heap.holder 1024 (.object ⟨4⟩) [⟨5⟩] "answer" .strict =
        .ok (.object scope) := by
  have hname : ∀ o : HeapObject, o.isPosition "m" = false := by
    intro o
    unfold HeapObject.isPosition
    split
    · rename_i name hk
      cases hk
      rfl
    · rfl
  obtain ⟨o, -, hd, -⟩ :=
    (method_holder beforeInstalling.realm).2 ⟨4⟩ ⟨5⟩ "m" (installedAt "m").realm rfl
  obtain ⟨before, s, p, -, hh, -⟩ := (method_holder (installedAt "m").realm).1 ⟨4⟩ ⟨5⟩ "m" rfl
  obtain ⟨scope, -, hscope⟩ := (hh "answer").mp (Or.inl (hname p))
  exact ⟨hd.mpr (Or.inl (hname o)), scope, hscope⟩

/-- Installed at a position, the function is read from the array as its own property, but the array
does not declare it, no holder is found and the method cannot be invoked. -/
theorem no_holder_installedAt :
    Run.Reachable {} (installedAt "0") ∧ (installedAt "0").raised = [] ∧
      (installedAt "0").realm.property (.object ⟨4⟩) "0" = .ok (.object ⟨5⟩) ∧
      (installedAt "0").realm.ownProperty? (.object ⟨4⟩) "0" = .ok (some (.object ⟨5⟩)) ∧
      ((installedAt "0").realm.heap.object? ⟨5⟩).map HeapObject.kind = some (.native answering) ∧
      (installedAt "0").realm.heap.holder 1024 (.object ⟨4⟩) [⟨5⟩] "answer" .strict =
        .error (.binding "answer") ∧
      (invokeMethod (.object ⟨4⟩) "0" [] (installedAt "0").realm).1 = .error (.binding "answer") ∧
      ¬ (installedAt "0").realm.heap.Declares ⟨4⟩ [⟨5⟩] := by
  refine ⟨reachable_installedAt "0", rfl, rfl, rfl, rfl, rfl, rfl, ?_⟩
  rintro ⟨o, ho, hd⟩
  cases ho
  cases hd

end Realm
end Invocation
