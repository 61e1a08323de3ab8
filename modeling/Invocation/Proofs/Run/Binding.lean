/-
# What binding preserves

A bound function does what its target does, behind one layer more. So it constructs
exactly if its target does, and it resolves whenever its target does, as long as the
limit of the call depth has room for the new layer. Binding does not look at the limit:
it succeeds on a function behind as many layers as just fit, and what it returns then
neither resolves nor constructs, although its target does both (`bind_keeps`,
`bind_at_limit`).

What is behind the layers of a function stays there, whatever is done with the realm
(`Heap.Unwraps.growsTo`), so all of this holds ever after.

Key theorems: `Heap.Unwraps.growsTo`, `Realm.isConstructor_layers`, `Realm.unwraps_bind`,
`Run.bind_keeps`.
-/
import Invocation.Proofs.Run.Callability

namespace Invocation

/-! ### Layers stay -/

theorem Heap.Unwraps.growsTo {r r' : Realm} {start target : ObjectHandle} {layers : Layers}
    {f : NativeFunction} (hl : r.heap.Unwraps start layers target f) (h : r.GrowsTo r') :
    r'.heap.Unwraps start layers target f := by
  induction hl with
  | native ho hk =>
    obtain ⟨o', ho', hgrows⟩ := h.objects _ _ ho
    exact .native ho' ((hgrows.kind_eq (by simp [hk])).trans hk)
  | bound ho hk _ ih =>
    obtain ⟨o', ho', hgrows⟩ := h.objects _ _ ho
    exact .bound ho' ((hgrows.kind_eq (by simp [hk])).trans hk) ih

namespace Realm

variable {r r' : Realm} {x start target : ObjectHandle} {layers : Layers} {f : NativeFunction}
  {callee receiver v : Value} {arguments : List Value}

/-- A function behind layers constructs if the native function does and the limit has room. -/
theorem isConstructor_layers (hl : r.heap.Unwraps start layers target f) :
    r.isConstructor (.object start) =
      (decide (layers.length + 1 ≤ r.options.maxCallDepth) && f.constructible) := by
  rw [Bool.eq_iff_iff, isConstructor_iff, resolve_layers hl]
  by_cases hroom : layers.length + 1 ≤ r.options.maxCallDepth
  · rw [if_pos hroom]
    simp [hroom, behind]
  · rw [if_neg hroom]
    simp [hroom]

theorem resolve_error_iff (hl : r.heap.Unwraps start layers target f) :
    (∃ e, r.resolve (.object start) = .error e) ↔ r.options.maxCallDepth ≤ layers.length := by
  rw [resolve_layers hl]
  split
  · rename_i hroom
    simp [Nat.not_le_of_lt hroom]
  · rename_i hroom
    simp [Nat.le_of_not_lt hroom]

/-! ### The new layer -/

theorem functionTarget_ok (h : r.functionTarget callee = .ok x) : callee = .object x := by
  cases callee with
  | object y =>
    cases ho : r.heap.object y with
    | error e =>
      have heq : r.functionTarget (.object y) = .error e := by
        show (r.heap.object y).bind _ = _
        rw [ho]
        rfl
      rw [heq] at h
      cases h
    | ok o =>
      rw [functionTarget_object ho] at h
      split at h
      · cases h
        rfl
      · cases h
  | _ => cases h

/-- Looking something up fails and changes nothing, or it goes on. -/
theorem read_bind_cases {α β : Type} (q : Realm → Except Fault α) (k : α → Action β) (r : Realm) :
    (∃ e, (Action.read q >>= k) r = (.error e, r)) ∨
      ∃ a, q r = .ok a ∧ (Action.read q >>= k) r = k a r := by
  rw [Action.bind_apply]
  cases hq : q r with
  | error e => exact .inl ⟨e, by simp only [Action.read, hq]⟩
  | ok a => exact .inr ⟨a, rfl, by simp only [Action.read, hq]⟩

/-- Binding fails and changes nothing, or it is of a function whose name and `length` can
be read. -/
theorem bind_cases (callee receiver : Value) (arguments : List Value) (r : Realm) :
    (∃ e, bind callee receiver arguments r = (.error e, r)) ∨
      ∃ x o name length, callee = .object x ∧ r.heap.object? x = some o ∧ o.isFunction = true ∧
        r.Binds x arguments name length := by
  obtain hfail | ⟨x, htarget, htail⟩ := read_bind_cases (·.functionTarget callee) _ r
  · exact .inl hfail
  rw [bind, htail]
  obtain hfail | ⟨v, hlength, htail⟩ := read_bind_cases (·.property callee "length") _ r
  · exact .inl hfail
  rw [htail]
  obtain hfail | ⟨left, hleft, htail⟩ := read_bind_cases
    (fun _ => Checked.sub (declaredLength v) (argumentCount arguments)) _ r
  · exact .inl hfail
  rw [htail]
  obtain hfail | ⟨name, hname, -⟩ := read_bind_cases (fun r => (r.nameString x).checkedFlatten) _ r
  · exact .inl hfail
  obtain rfl := functionTarget_ok htarget
  obtain ⟨o, ho, hfun⟩ := hasFunction_of_functionTarget htarget
  exact .inr ⟨x, o, name, left.toInt.toNat, rfl, ho, hfun, hname, v, left, hlength, hleft, rfl⟩

/-- Binding that succeeds while handles are left adds one object, which is bound to the function. -/
theorem bind_added (h : bind callee receiver arguments r = (.ok v, r'))
    (hsize : r.heap.size < UInt32.size) :
    ∃ x o, callee = .object x ∧ r.heap.HasFunction x ∧ v = .object r.heap.nextHandle ∧
      r' = r.onHeap (fun h => (h.alloc o).2) ∧ o.kind = .bound ⟨x, receiver, arguments⟩ := by
  obtain ⟨e, he⟩ | ⟨x, o, name, length, rfl, ho, hfun, hbinds⟩ :=
    bind_cases callee receiver arguments r
  · rw [he] at h
    cases (Prod.mk.inj h).1
  · rw [bind_object ho hfun hbinds hsize] at h
    cases h
    exact ⟨x, _, rfl, ⟨o, ho, hfun⟩, rfl, rfl, rfl⟩

theorem bind_ok (h : bind callee receiver arguments r = (.ok v, r'))
    (hsize : r.heap.size < UInt32.size) :
    ∃ x o, callee = .object x ∧ r.heap.HasFunction x ∧ v = .object r.heap.nextHandle ∧
      r'.heap.object? r.heap.nextHandle = some o ∧ o.kind = .bound ⟨x, receiver, arguments⟩ := by
  obtain ⟨x, o, hcallee, hfun, hv, rfl, hk⟩ := bind_added h hsize
  exact ⟨x, o, hcallee, hfun, hv, Heap.object?_alloc_new hsize, hk⟩

theorem unwraps_bind (h : bind (.object x) receiver arguments r = (.ok v, r'))
    (hsize : r.heap.size < UInt32.size) (hl : r.heap.Unwraps x layers target f) :
    r.GrowsTo r' ∧ v = .object r.heap.nextHandle ∧ r'.heap.Unwraps r.heap.nextHandle
      ((r.heap.nextHandle, ⟨x, receiver, arguments⟩) :: layers) target f := by
  have hgrows : r.GrowsTo r' := growsTo_bind h
  obtain ⟨y, o, hy, -, hv, ho, hk⟩ := bind_ok h hsize
  cases hy
  exact ⟨hgrows, hv, .bound ho hk (hl.growsTo hgrows)⟩

end Realm

namespace Run

open Realm (Evolves)

variable {options : Options} {s : State} {r' : Realm} {callee receiver v : Value}
  {arguments : List Value}

/-- What binding preserves. A function that is bound in a state of a run is a native one behind some
layers, and what binding returns is the same function behind one layer more. Unless the layers of
the bound function are as many as just fit into the limit of the call depth, the two stay alike
whatever is done with the realm: the new function constructs if the bound one does, and it resolves
if the bound one does. If they are as many as just fit, the bound function resolves, and it
constructs if the native function does; the new one does neither, and its calls fail. -/
theorem bind_keeps (hs : Turns (.start options) s) (hsize : s.realm.heap.size < UInt32.size)
    (h : Realm.bind callee receiver arguments s.realm = (.ok v, r')) :
    ∃ x y layers target f, callee = .object x ∧ v = .object y ∧
      s.realm.heap.Unwraps x layers target f ∧
      r'.heap.Unwraps y ((y, ⟨x, receiver, arguments⟩) :: layers) target f ∧
      ∀ r'', Evolves r' r'' →
        (layers.length + 1 ≠ options.maxCallDepth →
          r''.isConstructor v = r''.isConstructor callee ∧
          ((∃ e, r''.resolve v = .error e) → ∃ e, r''.resolve callee = .error e)) ∧
        (layers.length + 1 = options.maxCallDepth →
          r''.isConstructor v = false ∧ r''.isConstructor callee = f.constructible ∧
          r''.resolve callee = .ok (Realm.behind layers target f) ∧
          ∀ receiver' arguments', Realm.callWithReceiver v receiver' arguments' r'' =
            (.error (.stackExceeded options.maxCallDepth), r'')) := by
  have hstart : Evolves (.ofOptions options) s.realm := hs.evolves
  have hg := hstart.grounded (Realm.grounded_ofOptions options)
  obtain ⟨x, -, rfl, hfun, -⟩ := Realm.bind_ok h hsize
  obtain ⟨layers, target, f, hl⟩ := hg.exists_unwraps x hfun
  obtain ⟨hgrows, rfl, hnew⟩ := Realm.unwraps_bind h hsize hl
  refine ⟨x, s.realm.heap.nextHandle, layers, target, f, rfl, rfl, hl, hnew, ?_⟩
  intro r'' hlater
  have hcallee := (hl.growsTo hgrows).growsTo hlater.growsTo
  have hbound := hnew.growsTo hlater.growsTo
  have hoptions : r''.options = options := by
    rw [hlater.growsTo.options, hgrows.options, hstart.growsTo.options]
    rfl
  constructor
  · intro hne
    constructor
    · rw [Realm.isConstructor_layers hbound, Realm.isConstructor_layers hcallee, hoptions,
        List.length_cons]
      have hroom : layers.length + 1 + 1 ≤ options.maxCallDepth ↔
          layers.length + 1 ≤ options.maxCallDepth := by omega
      simp only [hroom]
    · rw [Realm.resolve_error_iff hbound, Realm.resolve_error_iff hcallee, hoptions,
        List.length_cons]
      omega
  · intro heq
    have hno : ¬ layers.length + 1 + 1 ≤ options.maxCallDepth := by omega
    refine ⟨?_, ?_, ?_, ?_⟩
    · rw [Realm.isConstructor_layers hbound, hoptions, List.length_cons, decide_eq_false hno,
        Bool.false_and]
    · rw [Realm.isConstructor_layers hcallee, hoptions, decide_eq_true (Nat.le_of_eq heq),
        Bool.true_and]
    · exact Realm.resolve_behind hcallee (by rw [hoptions]; omega)
    · intro receiver' arguments'
      rw [Realm.callWithReceiver_exceeded hbound (by rw [hoptions, List.length_cons]; omega),
        hoptions]

def constructing : NativeFunction :=
  { name := "constructing", policy := .lenient, adapter := fun _ => pure (.int 1) }

/-- A run that has made the function, with a limit of the call depth. -/
def madeConstructing (maxCallDepth : Nat) : State :=
  (State.start { maxCallDepth }).perform (.instantiate constructing)

def boundConstructing (maxCallDepth : Nat) : State :=
  (madeConstructing maxCallDepth).perform (.bind (.object ⟨4⟩) .null [])

theorem boundConstructing_keeps :
    (boundConstructing 2).realm.isConstructor (.object ⟨6⟩) = true := by
  have hs : Turns (.start { maxCallDepth := 2 }) (madeConstructing 2) :=
    .single (.task (.instantiate constructing) rfl)
  have hbind : Realm.bind (.object ⟨4⟩) .null [] (madeConstructing 2).realm =
      (.ok (.object ⟨6⟩), (boundConstructing 2).realm) := rfl
  obtain ⟨x, y, layers, target, f, hx, -, hl, -, hlater⟩ := bind_keeps hs (by decide) hbind
  have hlayers : layers = [] := by
    cases hx
    cases hl with
    | native _ _ => rfl
    | bound ho hk _ =>
      cases ho
      cases hk
  have hne : layers.length + 1 ≠ 2 := by
    rw [hlayers]
    decide
  rw [((hlater _ .refl).1 hne).1]
  rfl

/-- With room for the native function object alone, binding succeeds, but what it returns does not
construct and no call of it comes through, although no other call is going on. -/
theorem bind_at_limit :
    Turns (.start { maxCallDepth := 1 }) (madeConstructing 1) ∧
      Realm.bind (.object ⟨4⟩) .null [] (madeConstructing 1).realm =
        (.ok (.object ⟨6⟩), (boundConstructing 1).realm) ∧
      (boundConstructing 1).realm.callDepth = 0 ∧
      (boundConstructing 1).realm.isConstructor (.object ⟨4⟩) = true ∧
      (boundConstructing 1).realm.isConstructor (.object ⟨6⟩) = false ∧
      (∃ c, (boundConstructing 1).realm.resolve (.object ⟨4⟩) = .ok c) ∧
      (boundConstructing 1).realm.resolve (.object ⟨6⟩) = .error (.stackExceeded 1) :=
  ⟨.single (.task (.instantiate constructing) rfl), rfl, rfl, rfl, rfl, ⟨_, rfl⟩, rfl⟩

end Run
end Invocation
