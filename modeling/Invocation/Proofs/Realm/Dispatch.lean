/-
# Dispatch in one equation

Dispatch is written with a bound on the adapters that may still be active. That
bound is what the call depth leaves, and the call depth is the same after a call
as before, whatever the adapter did; so the bound can be forgotten: a dispatched
call opens the call and enters the adapter, whose calls are dispatched likewise
(`dispatch_eq`).

Key definitions: `Realm.SameFrame`.
Key theorems: `Realm.dispatch_frame`, `Realm.dispatch_eq`, `Realm.enter_eq`.
-/
import Invocation.Proofs.Realm.Edit
import Invocation.Realm.Dispatch

namespace Invocation

/-- Two responders that agree as long as a property of states holds, and keep it, run a
program alike. -/
theorem Program.run_congr {α σ : Type}
    {respond respond' : (op : Operation) → σ → Except Fault op.Reply × σ} {P : σ → Prop}
    (same : ∀ op s, P s → respond op s = respond' op s)
    (keep : ∀ op s, P s → P (respond op s).2) :
    ∀ (p : Program α) {s : σ}, P s → p.run respond s = p.run respond' s
  | .done _, _, _ => rfl
  | .fail _, _, _ => rfl
  | .perform op next, s, hs => by
    rw [run_perform, run_perform, ← same op s hs]
    obtain ⟨cause, -, hover⟩ | hgoes := resume_cases next (respond op s).1
    · rw [hover]
      rfl
    · rw [hgoes]
      exact run_congr same keep (next _) (keep op s hs)

/-- A relation between the states before and after that every operation respects. -/
theorem Program.run_rel {α σ : Type} {respond : (op : Operation) → σ → Except Fault op.Reply × σ}
    {R : σ → σ → Prop} (refl : ∀ s, R s s) (trans : ∀ {a b c}, R a b → R b c → R a c)
    (step : ∀ op s, R s (respond op s).2) : ∀ (p : Program α) (s : σ), R s (p.run respond s).2
  | .done _, s => refl s
  | .fail _, s => refl s
  | .perform op next, s => by
    rw [run_perform]
    refine trans (step op s) ?_
    obtain ⟨cause, -, hover⟩ | hgoes := resume_cases next (respond op s).1
    · rw [hover]
      exact refl _
    · rw [hgoes]
      exact run_rel refl trans step (next _) _

namespace Realm

/-- The parts of a realm that no call leaves changed: its options and its call depth. -/
structure SameFrame (r r' : Realm) : Prop where
  options : r'.options = r.options
  callDepth : r'.callDepth = r.callDepth

namespace SameFrame

variable {r r' r'' : Realm} {α β : Type}

theorem refl (r : Realm) : SameFrame r r := ⟨rfl, rfl⟩

theorem trans (h : SameFrame r r') (h' : SameFrame r' r'') : SameFrame r r'' :=
  ⟨h'.options.trans h.options, h'.callDepth.trans h.callDepth⟩

theorem bind {x : Action α} {k : α → Action β} (hx : ∀ r, SameFrame r (x r).2)
    (hk : ∀ a r, SameFrame r (k a r).2) (r : Realm) : SameFrame r ((x >>= k) r).2 :=
  Action.bind_rel (R := SameFrame) .trans hx hk r

/-- No edit changes options or call depth. -/
theorem of_edits (h : Edits r r') : SameFrame r r' := by
  induction h with
  | refl => exact .refl r
  | tail _ step ih =>
    refine ih.trans ?_
    cases step <;> exact ⟨rfl, rfl⟩

end SameFrame

/-! ### Opening a call -/

section Opening

variable {r : Realm} {mode : CallMode} {callee receiver : Value} {arguments : List Value}
  {c : ResolvedCallee}

theorem openCall_unresolved {e : Fault} (hres : r.resolve callee = .error e) :
    openCall mode callee arguments r = (.error e, r) := by
  simp only [openCall, hres]

theorem openCall_exceeded (hres : r.resolve callee = .ok c)
    (hd : r.options.maxCallDepth ≤ r.callDepth) : openCall mode callee arguments r =
      (.error (.stackExceeded r.options.maxCallDepth), r) := by
  simp only [openCall, hres, if_pos hd]

/-- A plain call needs a holder and changes nothing. -/
theorem openCall_plain (hres : r.resolve callee = .ok c)
    (hlow : r.callDepth < r.options.maxCallDepth) :
    openCall (.plain receiver) callee arguments r =
      ((r.heap.holder r.options.maxPrototypeDepth (c.receiver.getD receiver) c.candidates
          c.function.name c.function.policy).map fun holder =>
        (c.function, ⟨.plain, c.target, c.function.name, c.receiver.getD receiver, holder,
          c.arguments ++ arguments⟩), r) := by
  simp only [openCall, hres, if_neg (Nat.not_le.mpr hlow)]
  cases r.heap.holder r.options.maxPrototypeDepth (c.receiver.getD receiver) c.candidates
    c.function.name c.function.policy <;> rfl

/-- A construct call needs the prototype of its instance and makes the instance. -/
theorem openCall_construct (hres : r.resolve callee = .ok c)
    (hlow : r.callDepth < r.options.maxCallDepth) (hk : c.function.constructible = true) :
    openCall .construct callee arguments r = match r.instancePrototype c.target with
      | .error e => (.error e, r)
      | .ok prototype =>
        (.ok (c.function, ⟨.construct, c.target, c.function.name, .object r.heap.nextHandle,
          .object r.heap.nextHandle, c.arguments ++ arguments⟩),
          { r with heap := (r.heap.alloc { prototype := some prototype }).2 }) := by
  cases hi : r.instancePrototype c.target <;>
    simp only [openCall, hres, if_neg (Nat.not_le.mpr hlow), if_pos hk, hi]

theorem openCall_notConstructor (hres : r.resolve callee = .ok c)
    (hlow : r.callDepth < r.options.maxCallDepth) (hk : ¬ c.function.constructible = true) :
    openCall .construct callee arguments r = (.error (.notConstructor (r.describe callee)), r) := by
  simp only [openCall, hres, if_neg (Nat.not_le.mpr hlow), if_neg hk]

end Opening

/-! ### What operations leave as it is -/

/-- An adapter's operations leave the frame as it is if its calls do. -/
theorem respondWith_frame {call : Value → Value → List Value → Action Value}
    (hcall : ∀ callee receiver arguments r, SameFrame r (call callee receiver arguments r).2)
    (op : Operation) (r : Realm) : SameFrame r (respondWith call op r).2 := by
  cases op with
  | setProperty target key value => exact .of_edits (edits_setProperty target key value r)
  | call callee receiver arguments => exact hcall callee receiver arguments r
  | _ => exact ⟨rfl, rfl⟩

theorem edits_openCall (mode : CallMode) (callee : Value) (arguments : List Value) (r : Realm) :
    Edits r (openCall mode callee arguments r).2 := by
  cases hres : r.resolve callee with
  | error e => rw [openCall_unresolved hres]
  | ok c =>
    rcases Nat.lt_or_ge r.callDepth r.options.maxCallDepth with hlow | hd
    · cases mode with
      | plain receiver => rw [openCall_plain hres hlow]
      | construct =>
        by_cases hk : c.function.constructible = true
        · rw [openCall_construct hres hlow hk]
          cases r.instancePrototype c.target with
          | error e => exact .refl
          | ok prototype => exact edits_createObjectWithPrototype (some prototype) r
        · rw [openCall_notConstructor hres hlow hk]
    · rw [openCall_exceeded hres hd]

theorem openCall_frame (mode : CallMode) (callee : Value) (arguments : List Value) (r : Realm) :
    SameFrame r (openCall mode callee arguments r).2 :=
  .of_edits (edits_openCall mode callee arguments r)

/-- An adapter is entered one level deeper, and left again. -/
theorem enter_frame {respond : (op : Operation) → Action op.Reply}
    (hr : ∀ op r, SameFrame r (respond op r).2) (f : NativeFunction) (c : Context) (r : Realm) :
    SameFrame r (enter respond f c r).2 := by
  have h := Program.run_rel SameFrame.refl SameFrame.trans hr (f.adapter c)
    { r with callDepth := r.callDepth + 1 }
  refine ⟨h.options, ?_⟩
  show ((f.adapter c).run respond { r with callDepth := r.callDepth + 1 }).2.callDepth - 1 = _
  rw [h.callDepth]
  exact Nat.add_sub_cancel _ _

theorem dispatchWithin_frame : ∀ (levels : Nat) (mode : CallMode) (callee : Value)
    (arguments : List Value) (r : Realm),
    SameFrame r (dispatchWithin levels mode callee arguments r).2
  | 0, _, _, _, r => .refl r
  | levels + 1, mode, callee, arguments, r =>
    SameFrame.bind (openCall_frame mode callee arguments)
      (fun p => enter_frame (respondWith_frame fun callee receiver =>
        dispatchWithin_frame levels (.plain receiver) callee) p.1 p.2) r

/-- A call leaves options and call depth as they were. -/
theorem dispatch_frame (mode : CallMode) (callee : Value) (arguments : List Value) (r : Realm) :
    SameFrame r (dispatch mode callee arguments r).2 :=
  dispatchWithin_frame _ mode callee arguments r

theorem respond_frame (op : Operation) (r : Realm) : SameFrame r (respond op r).2 :=
  respondWith_frame (fun callee receiver => dispatch_frame (.plain receiver) callee) op r

/-! ### The equation -/

/-- One level deeper, the calls of an adapter are dispatched with one level less. -/
theorem enter_levels {levels : Nat} {r : Realm}
    (hl : r.options.maxCallDepth - r.callDepth = levels + 1) (f : NativeFunction) (c : Context) :
    enter (respondWith fun callee receiver => dispatchWithin levels (.plain receiver) callee)
      f c r = enter respond f c r := by
  let deeper : Realm := { r with callDepth := r.callDepth + 1 }
  let within := respondWith fun callee receiver => dispatchWithin levels (.plain receiver) callee
  have keep : ∀ op s, SameFrame deeper s → SameFrame deeper (within op s).2 := fun op s hs =>
    hs.trans (respondWith_frame
      (fun callee receiver => dispatchWithin_frame levels (.plain receiver) callee) op s)
  have same : ∀ op s, SameFrame deeper s → within op s = respond op s := by
    intro op s hs
    have hlevels : s.options.maxCallDepth - s.callDepth = levels := by
      rw [hs.options, hs.callDepth]
      show r.options.maxCallDepth - (r.callDepth + 1) = levels
      omega
    cases op with
    | call callee receiver arguments =>
      show dispatchWithin levels (.plain receiver) callee arguments s =
        dispatchWithin (s.options.maxCallDepth - s.callDepth) (.plain receiver) callee arguments s
      rw [hlevels]
    | _ => rfl
  have hrun : (f.adapter c).run within deeper = (f.adapter c).run respond deeper :=
    Program.run_congr same keep (f.adapter c) (.refl deeper)
  unfold enter
  rw [hrun]

/-- A call that is opened has a level left for its adapter. -/
theorem callDepth_lt_of_openCall {mode : CallMode} {callee : Value} {arguments : List Value}
    {r r' : Realm} {p : NativeFunction × Context}
    (h : openCall mode callee arguments r = (.ok p, r')) :
    r.callDepth < r.options.maxCallDepth := by
  rcases Nat.lt_or_ge r.callDepth r.options.maxCallDepth with hlow | hd
  · exact hlow
  · cases hres : r.resolve callee with
    | error e =>
      rw [openCall_unresolved hres] at h
      simp at h
    | ok c =>
      rw [openCall_exceeded hres hd] at h
      simp at h

theorem dispatch_eq (mode : CallMode) (callee : Value) (arguments : List Value) (r : Realm) :
    dispatch mode callee arguments r = match openCall mode callee arguments r with
      | (.ok (f, c), r') => enter respond f c r'
      | (.error e, r') => (.error e, r') := by
  have hframe := openCall_frame mode callee arguments r
  by_cases hd : r.options.maxCallDepth ≤ r.callDepth
  · have hlevels : r.options.maxCallDepth - r.callDepth = 0 := Nat.sub_eq_zero_of_le hd
    rw [dispatch, hlevels]
    simp only [dispatchWithin, Action.read]
    cases hres : r.resolve callee with
    | error e => rw [openCall_unresolved hres]
    | ok c => rw [openCall_exceeded hres hd]
  · obtain ⟨levels, hl⟩ : ∃ levels, r.options.maxCallDepth - r.callDepth = levels + 1 :=
      ⟨r.options.maxCallDepth - r.callDepth - 1, by omega⟩
    have hstep : dispatch mode callee arguments r = match openCall mode callee arguments r with
        | (.ok (f, c), r') => enter
            (respondWith fun callee receiver => dispatchWithin levels (.plain receiver) callee)
            f c r'
        | (.error e, r') => (.error e, r') := by
      rw [dispatch, hl, dispatchWithin, Action.bind_apply]
      generalize openCall mode callee arguments r = opened
      obtain ⟨e | p, r'⟩ := opened <;> rfl
    rw [hstep]
    generalize openCall mode callee arguments r = opened at hframe
    obtain ⟨e | ⟨f, c⟩, r'⟩ := opened
    · rfl
    · refine enter_levels ?_ f c
      rw [hframe.options, hframe.callDepth, hl]

theorem enter_eq (f : NativeFunction) (c : Context) (r : Realm) : enter respond f c r =
    match (f.adapter c).run respond { r with callDepth := r.callDepth + 1 } with
    | (outcome, r') => (outcome.map c.result, { r' with callDepth := r.callDepth }) := by
  have hdepth := (Program.run_rel SameFrame.refl SameFrame.trans respond_frame (f.adapter c)
    { r with callDepth := r.callDepth + 1 }).callDepth
  unfold enter
  generalize (f.adapter c).run respond { r with callDepth := r.callDepth + 1 } = result at hdepth
  obtain ⟨outcome, r'⟩ := result
  have hback : r'.callDepth - 1 = r.callDepth := by
    rw [hdepth]
    exact Nat.add_sub_cancel _ _
  simp only [hback]

end Realm
end Invocation
