/-
# Calls from their dispatch to their end

A call runs to its end: from its dispatch on, adapters advance a finite number of
steps until the caller gets the outcome, and outcome and realm are then those of
`Realm.dispatch` (`dispatch_ends`, `serve_ends`). All that time an adapter above
the caller is at work, and the call depth counts those that were entered since: it
is one more than theirs that wait, never above the limit, and the old one again
when the call is over (`State.Above`, `Serves`). Nothing is asked of the adapters,
which may call back, fail and go on after a fault as they like.

So over a whole run the call depth is the number of adapters that are active, and
there are never more of them than the limit says (`reachable_callDepth`).

Key definitions: `Run.State.Above`, `Run.Serves`, `Run.DispatchEnds`, `Run.Control.active`.
Key theorems: `Run.dispatch_ends`, `Run.serve_ends`, `Run.reachable_callDepth`.
-/
import Mathlib.Logic.Function.Iterate
import Invocation.Proofs.Run.Invariant

namespace Invocation
namespace Run

/-! ### Adapters above a caller -/

/-- An adapter is at work above those that wait in `waiting`. The call depth, which was
`base` before the first one above them was entered, counts the adapters since then and is
within the limit. -/
def State.Above (base : Nat) (waiting : List Waiting) (s : State) : Prop :=
  ∃ (a : Activation) (inner : List Waiting), s.control = .adapter a (inner ++ waiting) ∧
    s.realm.callDepth = base + inner.length + 1 ∧
    s.realm.callDepth ≤ s.realm.options.maxCallDepth

/-- In a number of steps adapters advance from one state to another, and before each of the steps an
adapter above `waiting` is at work. -/
inductive Serves (base : Nat) (waiting : List Waiting) : Nat → State → State → Prop
  | done (s : State) : Serves base waiting 0 s s
  | step {n : Nat} {s s' : State} : s.Above base waiting → Serves base waiting n s.advance s' →
      Serves base waiting (n + 1) s s'

variable {base n : Nat} {w : Waiting} {waiting : List Waiting} {s s' s'' : State}

theorem State.Above.entered {r : Realm} {a : Activation} {raised : List Fault}
    (hdepth : r.callDepth = base + 1) (hwithin : r.callDepth ≤ r.options.maxCallDepth) :
    State.Above base waiting ⟨r, .adapter a waiting, raised⟩ := ⟨a, [], rfl, hdepth, hwithin⟩

theorem State.Above.outer (h : s.Above (base + 1) (w :: waiting)) : s.Above base waiting := by
  obtain ⟨a, inner, hs, hdepth, hmax⟩ := h
  have hsplit : inner ++ w :: waiting = (inner ++ [w]) ++ waiting := by simp
  have hlength : (inner ++ [w]).length = inner.length + 1 := by simp
  refine ⟨a, inner ++ [w], by rw [hs, hsplit], ?_, hmax⟩
  rw [hdepth, hlength]
  omega

namespace Serves

theorem trans {m : Nat} (h : Serves base waiting n s s') (h' : Serves base waiting m s' s'') :
    Serves base waiting (n + m) s s'' := by
  induction h with
  | done _ =>
    rw [Nat.zero_add]
    exact h'
  | step habove _ ih =>
    rw [Nat.succ_add_eq_add_succ]
    exact .step habove (ih h')

theorem outer (h : Serves (base + 1) (w :: waiting) n s s') : Serves base waiting n s s' := by
  induction h with
  | done s => exact .done s
  | step habove _ ih => exact .step habove.outer ih

/-- The steps one by one: where they lead, and what holds before each of them. -/
theorem iterate (h : Serves base waiting n s s') :
    State.advance^[n] s = s' ∧ ∀ m < n, (State.advance^[m] s).Above base waiting := by
  induction h with
  | done s => exact ⟨rfl, fun m hm => absurd hm (Nat.not_lt_zero m)⟩
  | step habove _ ih =>
    obtain ⟨hend, hall⟩ := ih
    refine ⟨hend, fun m hm => ?_⟩
    cases m with
    | zero => exact habove
    | succ m => exact hall m (Nat.lt_of_succ_lt_succ hm)

end Serves

/-! ### From the dispatch to the end -/

/-- A call that is dispatched in a realm comes to its end, with the outcome and the realm of
`Realm.dispatch`, whoever waits for it. -/
def DispatchEnds (r : Realm) : Prop :=
  ∀ raised mode callee arguments waiting, ∃ n raised',
    Serves r.callDepth waiting n (.dispatch r raised mode callee arguments waiting)
      (.deliver (Realm.dispatch mode callee arguments r).2 raised'
        (Realm.dispatch mode callee arguments r).1 waiting)

/-- An adapter that goes on with a program in a realm is left in the end, with the outcome and the
realm of the program, whoever waits for it. -/
def ProgramEnds (base : Nat) (waiting : List Waiting) (c : Context) (p : Program Value)
    (r : Realm) : Prop :=
  ∀ raised received, ∃ n raised',
    Serves base waiting n ⟨r, .adapter ⟨c, received, p⟩ waiting, raised⟩
      (.leave (p.run Realm.respond r).2 raised' c (p.run Realm.respond r).1 waiting)

theorem failed_ends {c : Context} {r : Realm} (e : Fault) (hdepth : r.callDepth = base + 1)
    (hwithin : r.callDepth ≤ r.options.maxCallDepth) : ProgramEnds base waiting c (.fail e) r :=
  fun raised _ => ⟨1, raised, .step (.entered hdepth hwithin) (.done _)⟩

/-- The program of an adapter runs to its end if the calls in it do. -/
theorem program_ends (base : Nat) (c : Context) (waiting : List Waiting) {limit : Nat}
    (hlimit : base + 1 ≤ limit)
    (hcalls : ∀ r : Realm, r.options.maxCallDepth = limit → r.callDepth = base + 1 →
      DispatchEnds r) :
    ∀ (p : Program Value) (r : Realm), r.options.maxCallDepth = limit → r.callDepth = base + 1 →
      ProgramEnds base waiting c p r
  | .done v, r, hmax, hdepth => fun raised received =>
    ⟨1, raised, .step (.entered hdepth (by rw [hmax, hdepth]; exact hlimit)) (.done _)⟩
  | .fail e, r, hmax, hdepth => failed_ends e hdepth (by rw [hmax, hdepth]; exact hlimit)
  | .perform op next, r, hmax, hdepth => by
    intro raised received
    have hframe := Realm.respond_frame op r
    have hmax' : (Realm.respond op r).2.options.maxCallDepth = limit := by rw [hframe.options, hmax]
    have hdepth' : (Realm.respond op r).2.callDepth = base + 1 := by rw [hframe.callDepth, hdepth]
    have hwithin : r.callDepth ≤ r.options.maxCallDepth := by rwa [hmax, hdepth]
    have hwithin' : (Realm.respond op r).2.callDepth ≤
        (Realm.respond op r).2.options.maxCallDepth := by rwa [hmax', hdepth']
    have habove : State.Above base waiting
        ⟨r, .adapter ⟨c, received, .perform op next⟩ waiting, raised⟩ := .entered hdepth hwithin
    -- after a panic the program is over, and else it is the one that follows the outcome
    have hresumed : ProgramEnds base waiting c (.resume next (Realm.respond op r).1)
        (Realm.respond op r).2 := by
      obtain ⟨cause, -, hover⟩ | hgoes := Program.resume_cases next (Realm.respond op r).1
      · rw [hover]
        exact failed_ends _ hdepth' hwithin'
      · rw [hgoes]
        exact program_ends base c waiting hlimit hcalls (next _) _ hmax' hdepth'
    have hrun : (Program.perform op next).run Realm.respond r =
        (Program.resume next (Realm.respond op r).1).run Realm.respond (Realm.respond op r).2 :=
      Program.run_perform _ op next r
    rw [hrun]
    by_cases hcall : op.isCall = true
    · cases op with
      | call callee receiver arguments =>
        -- the call runs to its end, and its outcome comes back to this adapter
        obtain ⟨n, raised1, h1⟩ := hcalls r hmax hdepth raised (.plain receiver) callee arguments
          (⟨c, received, next⟩ :: waiting)
        obtain ⟨m, raised2, h2⟩ := hresumed raised1 _
        rw [hdepth] at h1
        exact ⟨n + m + 1, raised2, .step habove (h1.outer.trans h2)⟩
      | _ => cases hcall
    · let s : State := ⟨r, .adapter ⟨c, received, .perform op next⟩ waiting, raised⟩
      have hstep := State.advance_leaf (show s.control = _ from rfl) (Bool.eq_false_iff.mpr hcall)
      obtain ⟨n, raised', h⟩ := hresumed _ _
      refine ⟨n + 1, raised', .step habove ?_⟩
      rw [hstep]
      exact h

/-- A dispatched call comes to its end if those of its adapter do, one level deeper. -/
theorem dispatch_ends_step {r : Realm}
    (deeper : ∀ r' : Realm, r'.options.maxCallDepth = r.options.maxCallDepth →
      r'.callDepth = r.callDepth + 1 → r.callDepth < r.options.maxCallDepth → DispatchEnds r') :
    DispatchEnds r := by
  intro raised mode callee arguments waiting
  have heq := Realm.dispatch_eq mode callee arguments r
  have hframe := Realm.openCall_frame mode callee arguments r
  unfold State.dispatch
  rcases hopen : Realm.openCall mode callee arguments r with ⟨e | ⟨f, c⟩, r'⟩
  · rw [hopen] at heq
    refine ⟨0, e :: raised, ?_⟩
    rw [heq]
    exact .done _
  · rw [hopen] at heq hframe
    have hlow := Realm.callDepth_lt_of_openCall hopen
    have hmax : r'.options.maxCallDepth = r.options.maxCallDepth := by rw [hframe.options]
    have hdepth : r'.callDepth + 1 = r.callDepth + 1 := by rw [hframe.callDepth]
    obtain ⟨n, raised', h⟩ := program_ends r.callDepth c waiting hlow
      (fun r1 hmax1 hdepth1 => deeper r1 hmax1 hdepth1 hlow)
      (f.adapter c) { r' with callDepth := r'.callDepth + 1 } hmax hdepth raised c.handles
    refine ⟨n, raised', ?_⟩
    rw [heq]
    exact h

/-- Every dispatched call comes to its end, whatever its adapters do: by induction on the levels
that the call depth leaves. -/
theorem dispatch_ends : ∀ (levels : Nat) {r : Realm},
    r.options.maxCallDepth - r.callDepth = levels → DispatchEnds r
  | 0, r, hl => dispatch_ends_step fun r' hmax hdepth hlow => by omega
  | levels + 1, r, hl => dispatch_ends_step fun r' hmax hdepth hlow =>
    dispatch_ends levels (by rw [hmax, hdepth]; omega)

/-- From a call of the host on, adapters advance until the host gets the outcome of the call and the
realm that the call leaves behind. -/
theorem serve_ends (s : State) (c : Call) : ∃ n raised,
    Serves s.realm.callDepth [] n (s.serve c)
      ⟨(c.act s.realm).2, .host (c.act s.realm).1, raised⟩ := by
  have heq := c.act_eq s.realm
  unfold State.serve
  cases hp : c.prepare s.realm with
  | error e =>
    rw [hp] at heq
    refine ⟨0, e :: s.raised, ?_⟩
    rw [heq]
    exact .done _
  | ok p =>
    obtain ⟨mode, callee, arguments⟩ := p
    rw [hp] at heq
    rw [heq]
    exact dispatch_ends _ rfl s.raised mode callee arguments []

/-! ### Whole runs -/

/-- How many adapters are active: the one at work and those that wait. -/
def Control.active : Control → Nat
  | .host _ => 0
  | .adapter _ waiting => waiting.length + 1

theorem Task.act_frame (t : Task) (r : Realm) : Realm.SameFrame r (t.act r).2 :=
  .of_edits (t.act_edits r)

theorem Call.act_frame (c : Call) (r : Realm) : Realm.SameFrame r (c.act r).2 := by
  rw [c.act_eq r]
  cases c.prepare r with
  | error e => exact .refl r
  | ok p => exact Realm.dispatch_frame p.1 p.2.1 p.2.2 r

/-- The call depth is the number of active adapters, and within the limit. -/
structure Counts (options : Options) (s : State) : Prop where
  limits : s.realm.options = options
  callDepth : s.realm.callDepth = s.control.active
  within : s.control.active ≤ options.maxCallDepth

section Counting

variable {options : Options} {r : Realm} {raised : List Fault} {outcome : Except Fault Value}

theorem deliver_counts (ho : r.options = options) (hd : r.callDepth = waiting.length)
    (hl : waiting.length ≤ options.maxCallDepth) :
    Counts options (.deliver r raised outcome waiting) := by
  cases waiting with
  | nil => exact ⟨ho, hd, hl⟩
  | cons w ws => exact ⟨ho, hd, hl⟩

theorem dispatch_counts {mode : CallMode} {callee : Value} {arguments : List Value}
    (ho : r.options = options) (hd : r.callDepth = waiting.length)
    (hl : waiting.length ≤ options.maxCallDepth) :
    Counts options (.dispatch r raised mode callee arguments waiting) := by
  have hframe := Realm.openCall_frame mode callee arguments r
  unfold State.dispatch
  rcases hopen : Realm.openCall mode callee arguments r with ⟨e | ⟨f, c⟩, r'⟩
  · rw [hopen] at hframe
    exact deliver_counts (hframe.options.trans ho) (hframe.callDepth.trans hd) hl
  · rw [hopen] at hframe
    have hlow := Realm.callDepth_lt_of_openCall hopen
    rw [ho, hd] at hlow
    have hdepth : r'.callDepth + 1 = waiting.length + 1 := by rw [hframe.callDepth, hd]
    exact ⟨hframe.options.trans ho, hdepth, hlow⟩

theorem advance_counts {a : Activation} (hc : Counts options s)
    (hs : s.control = .adapter a waiting) : Counts options s.advance := by
  obtain ⟨ho, hd, hl⟩ := hc
  rw [hs] at hd hl
  have hbelow : s.realm.callDepth - 1 = waiting.length := by
    rw [hd]
    exact Nat.add_sub_cancel _ _
  refine State.advance_cases hs ?_ ?_ ?_
  · intro outcome _
    exact deliver_counts ho hbelow (Nat.le_of_succ_le hl)
  · intro callee receiver arguments next _
    exact dispatch_counts ho hd hl
  · intro op next _ _
    have hframe := Realm.respond_frame op s.realm
    exact ⟨hframe.options.trans ho, hframe.callDepth.trans hd, hl⟩

theorem step_counts (hc : Counts options s) (step : Step s s') : Counts options s' := by
  cases step with
  | task t hs _ =>
    have hframe := t.act_frame s.realm
    exact ⟨hframe.options.trans hc.limits, hframe.callDepth.trans hc.callDepth, hc.within⟩
  | call c hs _ =>
    have hd : s.realm.callDepth = 0 := by rw [hc.callDepth, hs]; rfl
    unfold State.serve
    cases c.prepare s.realm with
    | error e => exact deliver_counts hc.limits hd (Nat.zero_le _)
    | ok p => exact dispatch_counts hc.limits hd (Nat.zero_le _)
  | adapter hs _ => exact advance_counts hc hs

/-- In every state of a run the call depth is the number of active adapters, and there are not more
of them than the limit says. -/
theorem reachable_callDepth (hs : Reachable options s) :
    s.realm.callDepth = s.control.active ∧ s.control.active ≤ options.maxCallDepth := by
  have hc : Counts options s := by
    induction hs with
    | refl => exact ⟨rfl, rfl, Nat.zero_le _⟩
    | tail _ step ih => exact step_counts ih step
  exact ⟨hc.callDepth, hc.within⟩

end Counting

/-! ### What callers can rely on -/

theorem State.dispatch_error {r r' : Realm} {mode : CallMode} {callee : Value}
    {arguments : List Value} {e : Fault}
    (h : Realm.openCall mode callee arguments r = (.error e, r')) (raised : List Fault)
    (waiting : List Waiting) : State.dispatch r raised mode callee arguments waiting =
      .deliver r' (e :: raised) (.error e) waiting := by
  rw [dispatch, h]

theorem State.openCall_of_entered {r : Realm} {raised : List Fault} {mode : CallMode}
    {callee : Value}
    {arguments : List Value} {a : Activation}
    (h : (State.dispatch r raised mode callee arguments waiting).control = .adapter a waiting) :
    ∃ f c r', Realm.openCall mode callee arguments r = (.ok (f, c), r') ∧
      State.dispatch r raised mode callee arguments waiting =
        ⟨{ r' with callDepth := r'.callDepth + 1 }, .adapter ⟨c, c.handles, f.adapter c⟩ waiting,
          raised⟩ := by
  rcases hopen : Realm.openCall mode callee arguments r with ⟨e | ⟨f, c⟩, r'⟩
  · rw [State.dispatch_error hopen] at h
    cases waiting with
    | nil => cases h
    | cons w ws =>
      have hws : ws = w :: ws := (Control.adapter.inj h).2
      exact absurd (congrArg List.length hws) (by simp)
  · refine ⟨f, c, r', rfl, ?_⟩
    rw [State.dispatch, hopen]

/-- Calls are balanced and nest no deeper than the limit. From a call on, of the host or of an
adapter, a finite number of steps leads to its outcome, and the call depth is then what it was
before the call, be the outcome a result or a fault; before each of these steps an adapter above
the caller is at work, at a call depth that counts the adapters since the call and is within the
limit. An adapter is entered only below the limit, one level deeper; at the limit a call that
resolves fails and no adapter is entered. And over a whole run the call depth is the number of
active adapters. -/
theorem calls_balanced :
    (∀ (s : State) (c : Call), ∃ n raised,
      State.advance^[n] (s.serve c) = ⟨(c.act s.realm).2, .host (c.act s.realm).1, raised⟩ ∧
      (c.act s.realm).2.callDepth = s.realm.callDepth ∧
      ∀ m < n, (State.advance^[m] (s.serve c)).Above s.realm.callDepth []) ∧
    (∀ (s : State) (c : Context) (received : List ObjectHandle) (callee receiver : Value)
      (arguments : List Value) (next : Except Fault Value → Program Value) (waiting : List Waiting),
      s.control = .adapter ⟨c, received, .perform (.call callee receiver arguments) next⟩ waiting →
      ∃ n raised outcome r',
        Realm.callWithReceiver callee receiver arguments s.realm = (outcome, r') ∧
        State.advance^[n + 1] s = ⟨r', .adapter
          ⟨c, handlesOf Value.handles outcome ++ received, .resume next outcome⟩ waiting, raised⟩ ∧
        r'.callDepth = s.realm.callDepth ∧
        ∀ m < n,
          (State.advance^[m + 1] s).Above s.realm.callDepth (⟨c, received, next⟩ :: waiting)) ∧
    (∀ (r : Realm) (raised : List Fault) (mode : CallMode) (callee : Value) (arguments : List Value)
      (waiting : List Waiting) (a : Activation),
      (State.dispatch r raised mode callee arguments waiting).control = .adapter a waiting →
      r.callDepth < r.options.maxCallDepth ∧
        (State.dispatch r raised mode callee arguments waiting).realm.callDepth = r.callDepth + 1) ∧
    (∀ (r : Realm) (mode : CallMode) (callee : Value) (arguments : List Value) (c : ResolvedCallee),
      r.callDepth = r.options.maxCallDepth → r.resolve callee = .ok c →
      Realm.dispatch mode callee arguments r =
        (.error (.stackExceeded r.options.maxCallDepth), r) ∧
      ∀ raised waiting, State.dispatch r raised mode callee arguments waiting =
        .deliver r (.stackExceeded r.options.maxCallDepth :: raised)
          (.error (.stackExceeded r.options.maxCallDepth)) waiting) ∧
    (∀ (options : Options) (s : State), Reachable options s →
      s.realm.callDepth = s.control.active ∧ s.control.active ≤ options.maxCallDepth) := by
  refine ⟨?_, ?_, ?_, ?_, fun options s hs => reachable_callDepth hs⟩
  · intro s c
    obtain ⟨n, raised, h⟩ := serve_ends s c
    obtain ⟨hend, habove⟩ := h.iterate
    exact ⟨n, raised, hend, (c.act_frame s.realm).callDepth, habove⟩
  · intro s c received callee receiver arguments next waiting hs
    have hstep : s.advance = .dispatch s.realm s.raised (.plain receiver) callee arguments
        (⟨c, received, next⟩ :: waiting) := by
      rw [State.advance, hs]
    obtain ⟨n, raised, h⟩ := dispatch_ends _ rfl s.raised (.plain receiver) callee arguments
      (⟨c, received, next⟩ :: waiting)
    obtain ⟨hend, habove⟩ := h.iterate
    rw [← hstep] at hend habove
    have hframe := Realm.dispatch_frame (.plain receiver) callee arguments s.realm
    exact ⟨n, raised, _, _, rfl, hend, hframe.callDepth, habove⟩
  · intro r raised mode callee arguments waiting a h
    obtain ⟨f, c, r', hopen, hentered⟩ := State.openCall_of_entered h
    have hframe := Realm.openCall_frame mode callee arguments r
    rw [hopen] at hframe
    refine ⟨Realm.callDepth_lt_of_openCall hopen, ?_⟩
    rw [hentered]
    exact congrArg (· + 1) hframe.callDepth
  · intro r mode callee arguments c hd hres
    have hopen : Realm.openCall mode callee arguments r =
        (.error (.stackExceeded r.options.maxCallDepth), r) :=
      Realm.openCall_exceeded hres (Nat.le_of_eq hd.symm)
    refine ⟨?_, fun raised waiting => State.dispatch_error hopen raised waiting⟩
    rw [Realm.dispatch_eq, hopen]

/-- A realm for one active adapter, with a function that calls itself. -/
def oneLevel : State := (State.start { maxCallDepth := 1 }).perform (.instantiate nesting)

/-- The function was called and has made its array: it is about to call itself. -/
def atLimit : State := (oneLevel.serve (.callWithReceiver (.object ⟨4⟩) (.object ⟨0⟩) [])).advance

theorem reachable_atLimit : Reachable { maxCallDepth := 1 } atLimit := by
  refine .head (.task (.instantiate nesting) rfl (by decide)) ?_
  refine .head (.call (.callWithReceiver (.object ⟨4⟩) (.object ⟨0⟩) []) rfl (by decide)) ?_
  exact .single (.adapter rfl (by decide))

/-- The call that it makes fails at the limit; it gets the fault, one level deep as before. -/
theorem atLimit_balanced :
    (∃ n raised received, State.advance^[n + 1] atLimit =
      ⟨atLimit.realm, .adapter ⟨⟨.plain, ⟨4⟩, "nesting", .object ⟨0⟩, .object ⟨0⟩, []⟩, received,
        .fail (.stackExceeded 1)⟩ [], raised⟩) ∧
    oneLevel.realm.callDepth < 1 ∧
    Realm.dispatch (.plain (.object ⟨5⟩)) (.object ⟨4⟩) [] atLimit.realm =
      (.error (.stackExceeded 1), atLimit.realm) ∧
    atLimit.realm.callDepth = 1 := by
  obtain ⟨-, hcall, hentered, hlimit, hrun⟩ := calls_balanced
  have hexceeded : Realm.dispatch (.plain (.object ⟨5⟩)) (.object ⟨4⟩) [] atLimit.realm =
      (.error (.stackExceeded 1), atLimit.realm) :=
    (hlimit atLimit.realm (.plain (.object ⟨5⟩)) (.object ⟨4⟩) [] _ rfl rfl).1
  refine ⟨?_, (hentered oneLevel.realm [] (.plain (.object ⟨0⟩)) (.object ⟨4⟩) [] [] _ rfl).1,
    hexceeded, (hrun _ atLimit reachable_atLimit).1⟩
  obtain ⟨n, raised, outcome, r', houtcome, hend, -⟩ :=
    hcall atLimit ⟨.plain, ⟨4⟩, "nesting", .object ⟨0⟩, .object ⟨0⟩, []⟩ _ (.object ⟨4⟩)
      (.object ⟨5⟩) [] _ [] rfl
  have hsame : (outcome, r') = (.error (.stackExceeded 1), atLimit.realm) :=
    houtcome.symm.trans hexceeded
  obtain ⟨rfl, rfl⟩ := Prod.mk.inj hsame
  exact ⟨n, raised, _, hend⟩

end Run
end Invocation
