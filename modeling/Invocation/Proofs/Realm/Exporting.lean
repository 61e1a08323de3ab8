/-
# Making values fit for the host

What a value is exported as depends on its kind only: a lazy string becomes a flat one of the same
content, a function that is not bound yet may become a bound one, and everything else is exported as
it is. A flat string is not lazy and a bound function is bound, so exporting a second time gives the
same value and changes nothing.

The bound function stands for the function. It puts no arguments in front, so a plain call of it
enters the adapter of the function with the arguments of the call, on the receiver that it was
exported with; and to construct with it is to construct with the function (`exporting`).

Key definitions: `Realm.bindsOnExport`, `Realm.StandsFor`.
Key theorems: `Realm.exportValue_string`, `Realm.exportValue_binds`, `Realm.exportValue_other`,
`Realm.openCall_bound_plain`, `Realm.openCall_bound_construct`, `Realm.bound_stands`,
`Realm.exporting`.
-/
import Invocation.Proofs.Run.Binding
import Invocation.Proofs.Text.Rope

namespace Invocation
namespace Realm

variable {r r' : Realm} {v w receiver : Value} {bindFunctions : Bool} {x y : ObjectHandle}
  {o : HeapObject} {f : NativeFunction} {arguments : List Value}

/-! ### By kinds -/

/-- Whether a value is a function that is to be bound when it is exported. -/
def bindsOnExport (r : Realm) (v receiver : Value) (bindFunctions : Bool) : Bool :=
  r.isCallable v && bindFunctions && !receiver.isUndefined && !r.isBoundFunction v

/-- That is so for the native functions that are exported with a receiver, if functions are to
be bound. -/
theorem bindsOnExport_iff : r.bindsOnExport v receiver bindFunctions = true ↔
    ∃ x o f, v = .object x ∧ r.heap.object? x = some o ∧ o.kind = .native f ∧
      bindFunctions = true ∧ receiver ≠ .undefined := by
  constructor
  · intro h
    simp only [bindsOnExport, Bool.and_eq_true, Bool.not_eq_true'] at h
    obtain ⟨⟨⟨hcallable, hflag⟩, hgiven⟩, hbound⟩ := h
    have hreceiver : receiver ≠ .undefined := by
      rintro rfl
      cases hgiven
    cases v with
    | object x =>
      obtain ⟨o, ho, hfun⟩ := isCallable_object.mp hcallable
      simp only [isBoundFunction, ho, Option.any_some] at hbound
      cases hk : o.kind with
      | native f => exact ⟨x, o, f, rfl, ho, hk, hflag, hreceiver⟩
      | bound b =>
        rw [HeapObject.isBound, hk] at hbound
        cases hbound
      | _ =>
        rw [HeapObject.isFunction, hk] at hfun
        cases hfun
    | _ => cases hcallable
  · rintro ⟨x, o, f, rfl, ho, hk, rfl, hreceiver⟩
    have hfun : o.isFunction = true := by rw [HeapObject.isFunction, hk]
    have hcallable : r.isCallable (.object x) = true := isCallable_object.mpr ⟨o, ho, hfun⟩
    have hbound : r.isBoundFunction (.object x) = false := by
      simp only [isBoundFunction, ho, Option.any_some, HeapObject.isBound, hk]
    have hgiven : receiver.isUndefined = false := by
      cases receiver with
      | undefined => exact absurd rfl hreceiver
      | _ => rfl
    rw [bindsOnExport, hcallable, hbound, hgiven]
    rfl

theorem bindsOnExport_bound {p : HeapObject} {b : BoundFunction} (hy : r.heap.object? y = some p)
    (hk : p.kind = .bound b) : r.bindsOnExport (.object y) receiver bindFunctions = false := by
  have hbound : r.isBoundFunction (.object y) = true := by
    simp only [isBoundFunction, hy, Option.any_some, HeapObject.isBound, hk]
  rw [bindsOnExport, hbound, Bool.not_true, Bool.and_false]

theorem exportValue_binds (h : r.bindsOnExport (.object x) receiver bindFunctions = true) :
    exportValue (.object x) receiver bindFunctions r = bind (.object x) receiver [] r := by
  unfold bindsOnExport at h
  unfold exportValue
  simp only [h, ↓reduceIte]

/-- Everything but strings and functions that are to be bound is exported as it is. -/
theorem exportValue_other (hstring : ∀ s, v ≠ .string s)
    (hbinds : r.bindsOnExport v receiver bindFunctions = false) :
    exportValue v receiver bindFunctions r = (.ok v, r) := by
  cases v with
  | string s => exact absurd rfl (hstring s)
  | object x =>
    unfold bindsOnExport at hbinds
    unfold exportValue
    simp only [hbinds]
    rfl
  | _ => rfl

/-- A string is exported as a flat string of the same content, and a flat one as it is. -/
theorem exportValue_string {s : Rope}
    (h : exportValue (.string s) receiver bindFunctions r = (.ok w, r')) :
    r' = r ∧ ∃ s', w = .string s' ∧ s'.flatten = s.flatten ∧ s'.isLazy = false ∧
      (s.Faithful → s'.content = s.content) ∧ (s.isLazy = false → s' = s) := by
  obtain ⟨houtcome, hr⟩ := Prod.mk.inj h
  refine ⟨hr.symm, ?_⟩
  by_cases hlazy : s.isLazy = true
  · rw [if_pos hlazy] at houtcome
    cases htext : s.checkedFlatten with
    | error e =>
      rw [htext] at houtcome
      cases houtcome
    | ok t =>
      rw [htext] at houtcome
      cases houtcome
      obtain rfl := Rope.flatten_of_checkedFlatten htext
      refine ⟨.flat s.flatten, rfl, rfl, rfl, ?_, ?_⟩
      · intro hs
        rw [Rope.content_flat, Rope.flatten_eq_content s hs]
      · intro hflat
        rw [hlazy] at hflat
        cases hflat
  · rw [if_neg hlazy] at houtcome
    cases houtcome
    exact ⟨s, rfl, rfl, Bool.eq_false_iff.mpr hlazy, fun _ => rfl, fun _ => rfl⟩

theorem exportValue_flat {s : Rope} (h : s.isLazy = false) :
    exportValue (.string s) receiver bindFunctions r = (.ok (.string s), r) := by
  unfold exportValue
  simp only [h]
  rfl

/-! ### The bound function -/

theorem size_bind (h : bind v receiver arguments r = (.ok w, r')) :
    r'.heap.size = r.heap.size + 1 := by
  obtain ⟨e, he⟩ | ⟨x, o, name, length, rfl, ho, hfun, hbinds⟩ :=
    bind_cases v receiver arguments r
  · rw [he] at h
    cases (Prod.mk.inj h).1
  · rw [bind_modify ho hfun hbinds] at h
    cases h
    show ((r.heap.alloc _).2.modify _ _).size = _
    rw [Heap.size_modify, Heap.size_alloc]

/-- A plain call of a function that is bound without arguments is opened for the function, on the
receiver that it is bound to and with the arguments of the call. -/
theorem openCall_bound_plain {p : HeapObject} (hy : r.heap.object? y = some p)
    (hp : p.kind = .bound ⟨x, receiver, []⟩) (ho : r.heap.object? x = some o)
    (hk : o.kind = .native f) (hroom : 2 ≤ r.options.maxCallDepth) {receiver' : Value}
    {g : NativeFunction} {c : Context}
    (h : openCall (.plain receiver') (.object y) arguments r = (.ok (g, c), r')) :
    g = f ∧ r' = r ∧ ∃ holder, c = ⟨.plain, x, f.name, receiver, holder, arguments⟩ := by
  have hl : r.heap.Unwraps y [(y, ⟨x, receiver, []⟩)] x f := .bound hy hp (.native ho hk)
  have hopen : openCall (.plain receiver') (.object y) arguments r =
      ((r.heap.holder r.options.maxPrototypeDepth receiver [y, x] f.name f.policy).map fun holder =>
        (f, ⟨.plain, x, f.name, receiver, holder, arguments⟩), r) :=
    openCall_plain (resolve_behind hl (Nat.lt_of_succ_le hroom)) (callDepth_lt_of_openCall h)
  rw [hopen] at h
  obtain ⟨houtcome, hr⟩ := Prod.mk.inj h
  cases hh : r.heap.holder r.options.maxPrototypeDepth receiver [y, x] f.name f.policy with
  | error e =>
    rw [hh] at houtcome
    cases houtcome
  | ok holder =>
    rw [hh] at houtcome
    cases houtcome
    exact ⟨rfl, hr.symm, holder, rfl⟩

/-- Two callees that come down to the same function with the same arguments are opened alike
to construct. -/
theorem openCall_construct_congr {callee callee' : Value} {c c' : ResolvedCallee}
    (hc : r.resolve callee = .ok c) (hc' : r.resolve callee' = .ok c')
    (htarget : c'.target = c.target) (hfunction : c'.function = c.function)
    (harguments : c'.arguments = c.arguments) (p : NativeFunction × Context) :
    openCall .construct callee' arguments r = (.ok p, r') ↔
      openCall .construct callee arguments r = (.ok p, r') := by
  by_cases hlow : r.callDepth < r.options.maxCallDepth
  · by_cases hk : c.function.constructible = true
    · have hk' : c'.function.constructible = true := by
        rw [hfunction]
        exact hk
      rw [openCall_construct hc hlow hk, openCall_construct hc' hlow hk', htarget, hfunction,
        harguments]
    · have hk' : ¬ c'.function.constructible = true := by
        rw [hfunction]
        exact hk
      rw [openCall_notConstructor hc hlow hk, openCall_notConstructor hc' hlow hk']
      simp
  · rw [openCall_exceeded hc (Nat.le_of_not_lt hlow), openCall_exceeded hc' (Nat.le_of_not_lt hlow)]

theorem openCall_bound_construct {p : HeapObject} (hy : r.heap.object? y = some p)
    (hp : p.kind = .bound ⟨x, receiver, []⟩) (ho : r.heap.object? x = some o)
    (hk : o.kind = .native f) (hroom : 2 ≤ r.options.maxCallDepth) (q : NativeFunction × Context) :
    openCall .construct (.object y) arguments r = (.ok q, r') ↔
      openCall .construct (.object x) arguments r = (.ok q, r') := by
  have hl : r.heap.Unwraps x [] x f := .native ho hk
  have hone : 0 < r.options.maxCallDepth := Nat.lt_of_lt_of_le Nat.zero_lt_two hroom
  refine openCall_construct_congr (resolve_behind hl hone)
    (resolve_behind (.bound hy hp hl) (Nat.lt_of_succ_le hroom)) rfl rfl rfl q

/-- A value stands for the native function `f` at `x`, on a receiver. A plain call of it that is
opened is for the function, on that receiver and with the arguments of the call; and a construct
call of it is opened exactly as one of the function. -/
structure StandsFor (r : Realm) (w : Value) (x : ObjectHandle) (f : NativeFunction)
    (receiver : Value) : Prop where
  plain : ∀ receiver' arguments g c r',
    openCall (.plain receiver') w arguments r = (.ok (g, c), r') →
    g = f ∧ r' = r ∧ ∃ holder, c = ⟨.plain, x, f.name, receiver, holder, arguments⟩
  construct : ∀ arguments q r', openCall .construct w arguments r = (.ok q, r') ↔
    openCall .construct (.object x) arguments r = (.ok q, r')

/-- What a function is bound to without arguments it stands for, ever after. -/
theorem bound_stands (ho : r.heap.object? x = some o) (hk : o.kind = .native f)
    (h : bind (.object x) receiver [] r = (.ok w, r')) (hsize : r.heap.size < UInt32.size) :
    ∃ y p, w = .object y ∧ r'.heap.object? y = some p ∧ p.kind = .bound ⟨x, receiver, []⟩ ∧
      (2 ≤ r.options.maxCallDepth → ∀ r1, Evolves r' r1 → r1.StandsFor w x f receiver) := by
  obtain ⟨y, p, hy, hfun, rfl, hp, hkind⟩ := bind_ok h hsize
  cases hy
  have hbind : GrowsTo r r' := growsTo_bind h
  refine ⟨r.heap.nextHandle, p, rfl, hp, hkind, ?_⟩
  intro hroom r1 hlater
  have hgrows := hlater.growsTo
  obtain ⟨p1, hp1, hpgrows⟩ := hgrows.objects _ p hp
  obtain ⟨o1, ho1, hogrows⟩ := (hbind.trans hgrows).objects x o ho
  have hkind1 : p1.kind = .bound ⟨x, receiver, []⟩ :=
    (hpgrows.kind_eq (by simp [hkind])).trans hkind
  have hk1 : o1.kind = .native f := (hogrows.kind_eq (by simp [hk])).trans hk
  have hroom1 : 2 ≤ r1.options.maxCallDepth := by
    rw [(hbind.trans hgrows).options]
    exact hroom
  constructor
  case plain =>
    intro receiver' arguments g c r2 hopen
    exact openCall_bound_plain hp1 hkind1 ho1 hk1 hroom1 hopen
  case construct =>
    intro arguments q r2
    exact openCall_bound_construct hp1 hkind1 ho1 hk1 hroom1 q

/-! ### Exporting -/

/-- What a value is exported as, in any realm. At most one object is added. While handles are left,
nothing that was there changes, and exporting the result again gives the result and changes nothing.
A string becomes a string of the same content that is not lazy, and a flat one stays. A native
function that is exported with a receiver, if functions are to be bound, becomes a function bound to
it, which stands for it on that receiver ever after. Everything else is exported as it is. -/
theorem exporting (h : exportValue v receiver bindFunctions r = (.ok w, r')) :
    r'.heap.size ≤ r.heap.size + 1 ∧
    (r.heap.size < UInt32.size →
      exportValue w receiver bindFunctions r' = (.ok w, r') ∧
      ∀ z, r.heap.Contains z → r'.heap.object? z = r.heap.object? z) ∧
    (∀ s, v = .string s → r' = r ∧ ∃ s', w = .string s' ∧ s'.flatten = s.flatten ∧
      s'.isLazy = false ∧ (s.Faithful → s'.content = s.content) ∧ (s.isLazy = false → w = v)) ∧
    (∀ x o f, v = .object x → r.heap.object? x = some o → o.kind = .native f →
      bindFunctions = true → receiver ≠ .undefined → r.heap.size < UInt32.size →
      ∃ y p, w = .object y ∧ r'.heap.object? y = some p ∧ p.kind = .bound ⟨x, receiver, []⟩ ∧
        (2 ≤ r.options.maxCallDepth → ∀ r1, Evolves r' r1 → r1.StandsFor w x f receiver)) ∧
    ((∀ s, v ≠ .string s) → ¬ (∃ x o f, v = .object x ∧ r.heap.object? x = some o ∧
      o.kind = .native f ∧ bindFunctions = true ∧ receiver ≠ .undefined) → w = v ∧ r' = r) := by
  by_cases hstring : ∃ s, v = .string s
  · -- exported again, the string is flat already
    obtain ⟨s, rfl⟩ := hstring
    obtain ⟨rfl, s', rfl, hflatten, hflat, hcontent, hsame⟩ := exportValue_string h
    refine ⟨Nat.le_succ _, fun _ => ⟨exportValue_flat hflat, fun _ _ => rfl⟩, ?_, ?_, ?_⟩
    · intro t ht
      cases ht
      refine ⟨rfl, s', rfl, hflatten, hflat, hcontent, ?_⟩
      intro hlazy
      rw [hsame hlazy]
    · rintro x o f hx
      cases hx
    · intro hno
      exact absurd rfl (hno s)
  rw [not_exists] at hstring
  by_cases hbinds : r.bindsOnExport v receiver bindFunctions = true
  · -- exported again, the function is bound already
    obtain ⟨x, o, f, rfl, ho, hk, hflag, hreceiver⟩ := bindsOnExport_iff.mp hbinds
    rw [exportValue_binds hbinds] at h
    refine ⟨Nat.le_of_eq (size_bind h), ?_, ?_, ?_, ?_⟩
    · intro hsize
      obtain ⟨y, p, -, -, rfl, rfl, hkind⟩ := bind_added h hsize
      refine ⟨exportValue_other (by simp) ?_, fun z hz => Heap.object?_alloc_of_contains hz⟩
      exact bindsOnExport_bound (Heap.object?_alloc_new hsize) hkind
    · intro s hs
      exact absurd hs (hstring s)
    · intro x' o' f' hx ho' hk' _ _ hsize
      cases hx
      rw [ho] at ho'
      cases ho'
      rw [hk] at hk'
      cases hk'
      exact bound_stands ho hk h hsize
    · intro _ hno
      exact absurd ⟨x, o, f, rfl, ho, hk, hflag, hreceiver⟩ hno
  · -- exported again, it is the same value in the same realm
    have hexport := exportValue_other hstring (Bool.eq_false_iff.mpr hbinds)
    rw [hexport] at h
    cases h
    refine ⟨Nat.le_succ _, fun _ => ⟨hexport, fun _ _ => rfl⟩, ?_, ?_, fun _ _ => ⟨rfl, rfl⟩⟩
    · intro s hs
      exact absurd hs (hstring s)
    · intro x o f hx ho hk hflag hreceiver _
      exact absurd (bindsOnExport_iff.mpr ⟨x, o, f, hx, ho, hk, hflag, hreceiver⟩) hbinds

/-- A run that makes a function which answers with its arguments. -/
def madeListing : Run.State :=
  (Run.State.start {}).perform (.instantiate
    { name := "list", policy := .lenient, adapter := fun c => .ask (.createArray c.arguments) })

/-- Exported with a receiver, the function is bound to it, and exporting the bound one again gives
the same. -/
theorem exporting_madeListing : ∃ w r',
    exportValue (.object ⟨4⟩) .null true madeListing.realm = (.ok w, r') ∧
      exportValue w .null true r' = (.ok w, r') ∧ w ≠ .object ⟨4⟩ := by
  have hexport : ∃ w r', exportValue (.object ⟨4⟩) .null true madeListing.realm = (.ok w, r') ∧
      w = .object ⟨6⟩ := ⟨_, _, rfl, rfl⟩
  obtain ⟨w, r', hexport, rfl⟩ := hexport
  obtain ⟨-, hagain, -⟩ := exporting hexport
  refine ⟨_, r', hexport, (hagain (by decide)).1, ?_⟩
  intro h
  cases h

end Realm
end Invocation
