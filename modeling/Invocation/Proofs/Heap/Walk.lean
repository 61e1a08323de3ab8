/-
# Walks along a lookup chain

The links of a lookup chain are numbered: the first is the object itself, and each
further one is the prototype of the object that the one before names. A walk with a
limit visits the scopes that the first links name, and ends in one of three ways: no
link is left, there is a further link but no room for a scope, or the next link names
no object (`Heap.Walks`). Which scopes it visits and how it ends is determined by the
links and the limit alone, also if the links are cyclic.

A listed chain is the visited scopes and then the fault that the walk ends in. Reading
a property takes the same walk, but stops at the first scope that has it, so that a
fault behind that scope is never seen.

Key definitions: `Heap.linkAt`, `WalkEnd`, `Heap.Walks`.
Key theorems: `Heap.exists_walks`, `Heap.Walks.unique`, `Heap.Walks.chain`,
`Heap.Walks.property`, `Heap.walk_along_chain`.
-/
import Invocation.Proofs.Heap.Path
import Invocation.Realm.Objects

namespace Invocation

/-- How a walk along a lookup chain ends. -/
inductive WalkEnd where
  /-- No link is left. -/
  | complete
  /-- The chain goes on past the limit. -/
  | tooDeep
  /-- A link names no object. -/
  | dangling (link : ObjectHandle)

/-- The fault that the walk ends in, if it does. -/
def WalkEnd.fault? (limit : Nat) : WalkEnd → Option Fault
  | .complete => none
  | .tooDeep => some (.chainTooDeep limit)
  | .dangling link => some (.invalidHandle link.index)

namespace Heap

/-- The links of the lookup chain of `start` by number: `start` itself, its prototype, the prototype
of that, and so on. -/
def linkAt (h : Heap) (start : ObjectHandle) : Nat → Option ObjectHandle
  | 0 => some start
  | i + 1 => (h.linkAt start i).bind fun x => (h.object? x).bind HeapObject.prototype

/-- Why a walk that may visit `limit` scopes ends before a link when it has visited `n` scopes. -/
inductive EndsAt (h : Heap) (limit n : Nat) : Option ObjectHandle → WalkEnd → Prop
  | complete : n ≤ limit → EndsAt h limit n none .complete
  | tooDeep (next : ObjectHandle) : n = limit → EndsAt h limit n (some next) .tooDeep
  | dangling (next : ObjectHandle) : n < limit → ¬ h.Contains next →
      EndsAt h limit n (some next) (.dangling next)

/-- A walk from `start` that may visit `limit` scopes visits `scopes`, in order, and ends in a
certain way. -/
structure Walks (h : Heap) (limit : Nat) (start : ObjectHandle) (scopes : List ObjectHandle)
    (e : WalkEnd) : Prop where
  links : ∀ (i : Nat) (hi : i < scopes.length), h.linkAt start i = some (scopes.get ⟨i, hi⟩)
  objects : ∀ x ∈ scopes, h.Contains x
  ending : h.EndsAt limit scopes.length (h.linkAt start scopes.length) e

variable {h : Heap} {limit : Nat} {start x y : ObjectHandle} {o : HeapObject}
  {link rest : Option ObjectHandle} {scopes scopes' : List ObjectHandle} {e e' : WalkEnd}

/-! ### Links by number -/

theorem linkAt_succ (ho : h.object? x = some o) (hp : o.prototype = some y) :
    ∀ i, h.linkAt x (i + 1) = h.linkAt y i
  | 0 => by simp only [linkAt, Option.bind_some, ho, hp]
  | i + 1 => by rw [linkAt, linkAt_succ ho hp i, linkAt]

theorem Path.linkAt_length (hp : h.Path link scopes rest) :
    ∀ start, link = some start → h.linkAt start scopes.length = rest := by
  induction hp with
  | stop link => exact fun start hstart => hstart.symm
  | @scope x o scopes rest ho hp ih =>
    intro start hstart
    cases hstart
    cases hproto : o.prototype with
    | none =>
      rw [hproto] at hp
      cases hp
      simp only [List.length_cons, List.length_nil, linkAt, Option.bind_some, ho, hproto]
    | some y => rw [List.length_cons, linkAt_succ ho hproto, ih y hproto]

/-- A path visits the scopes that the links before that one name. -/
theorem Path.linkAt_get (hp : h.Path (some start) scopes rest) (i : Nat) (hi : i < scopes.length) :
    h.linkAt start i = some (scopes.get ⟨i, hi⟩) := by
  have hsplit : scopes.take i ++ scopes.get ⟨i, hi⟩ :: scopes.drop (i + 1) = scopes := by
    rw [List.get_eq_getElem, ← List.drop_eq_getElem_cons hi, List.take_append_drop]
  rw [← hsplit] at hp
  obtain ⟨mid, hearly, hlate⟩ := hp.split
  obtain ⟨rfl, -⟩ := hlate.cons_inv
  have hlink := hearly.linkAt_length start rfl
  rwa [List.length_take, Nat.min_eq_left (Nat.le_of_lt hi)] at hlink

theorem path_of_links : ∀ {scopes : List ObjectHandle} {start : ObjectHandle},
    (∀ (i : Nat) (hi : i < scopes.length), h.linkAt start i = some (scopes.get ⟨i, hi⟩)) →
    (∀ x ∈ scopes, h.Contains x) → h.Path (some start) scopes (h.linkAt start scopes.length)
  | [], start, _, _ => .stop _
  | x :: scopes, start, hlinks, hobjects => by
    have hstart : start = x := Option.some.inj (hlinks 0 (Nat.succ_pos _))
    subst hstart
    obtain ⟨o, ho⟩ := contains_iff.mp (hobjects start List.mem_cons_self)
    refine .scope ho ?_
    cases hproto : o.prototype with
    | none =>
      have hone : h.linkAt start 1 = none := by
        simp only [linkAt, Option.bind_some, ho, hproto]
      cases scopes with
      | nil =>
        rw [List.length_singleton, hone]
        exact .stop _
      | cons y scopes =>
        have hsecond := hlinks 1 (by simp)
        rw [hone] at hsecond
        cases hsecond
    | some y =>
      rw [List.length_cons, linkAt_succ ho hproto]
      refine path_of_links (fun i hi => ?_) fun z hz => hobjects z (List.mem_cons_of_mem _ hz)
      rw [← linkAt_succ ho hproto]
      exact hlinks (i + 1) (Nat.succ_lt_succ hi)

namespace EndsAt

variable {n : Nat}

theorem le_limit (he : h.EndsAt limit n rest e) : n ≤ limit := by
  cases he with
  | complete hn => exact hn
  | tooDeep _ hn => exact Nat.le_of_eq hn
  | dangling _ hn _ => exact Nat.le_of_lt hn

theorem not_contains (he : h.EndsAt limit n rest e) (hn : n < limit) :
    ∀ x ∈ rest, ¬ h.Contains x := by
  rintro x hx
  cases he with
  | complete _ => cases hx
  | tooDeep _ hfull => exact absurd hfull (Nat.ne_of_lt hn)
  | dangling _ _ hno =>
    cases hx
    exact hno

theorem unique (he : h.EndsAt limit n rest e) (he' : h.EndsAt limit n rest e') : e = e' := by
  cases he with
  | complete _ =>
    cases he'
    rfl
  | tooDeep _ hn =>
    cases he' with
    | tooDeep _ _ => rfl
    | dangling _ hn' _ => exact absurd hn (Nat.ne_of_lt hn')
  | dangling _ hn _ =>
    cases he' with
    | tooDeep _ hn' => exact absurd hn' (Nat.ne_of_lt hn)
    | dangling _ _ _ => rfl

end EndsAt

/-! ### Walks -/

namespace Walks

theorem path (hw : h.Walks limit start scopes e) :
    h.Path (some start) scopes (h.linkAt start scopes.length) := path_of_links hw.links hw.objects

theorem length_le (hw : h.Walks limit start scopes e) (hw' : h.Walks limit start scopes' e') :
    scopes'.length ≤ scopes.length := by
  refine Nat.le_of_not_lt fun hlt => ?_
  have hroom : scopes.length < limit := Nat.lt_of_lt_of_le hlt hw'.ending.le_limit
  have hlink := hw'.links scopes.length hlt
  exact hw.ending.not_contains hroom _ hlink (hw'.objects _ (List.get_mem ..))

theorem unique (hw : h.Walks limit start scopes e) (hw' : h.Walks limit start scopes' e') :
    scopes' = scopes ∧ e' = e := by
  have hlength : scopes'.length = scopes.length :=
    Nat.le_antisymm (hw.length_le hw') (hw'.length_le hw)
  have hscopes : scopes' = scopes := by
    refine List.ext_get hlength fun i hi hi' => Option.some.inj ?_
    rw [← hw.links i hi', ← hw'.links i hi]
  subst hscopes
  exact ⟨rfl, hw'.ending.unique hw.ending⟩

end Walks

theorem exists_walks (h : Heap) (limit : Nat) (start : ObjectHandle) :
    ∃ scopes e, h.Walks limit start scopes e := by
  obtain ⟨scopes, rest, hp, -, hl, hstop⟩ :=
    findScopeFrom?_stops h (fun _ _ => (none : Option Unit)) limit (some start)
  have hrest : h.linkAt start scopes.length = rest := hp.linkAt_length start rfl
  obtain ⟨e, he⟩ : ∃ e, h.EndsAt limit scopes.length rest e := by
    cases rest with
    | none => exact ⟨.complete, .complete hl⟩
    | some next =>
      rcases Nat.lt_or_eq_of_le hl with hlow | hfull
      · refine ⟨.dangling next, .dangling next hlow fun hc => ?_⟩
        obtain ⟨o, ho⟩ := contains_iff.mp hc
        rcases hstop next rfl with hfull | hno | ⟨p, a, -, ha⟩
        · omega
        · rw [ho] at hno
          cases hno
        · cases ha
      · exact ⟨.tooDeep, .tooDeep next hfull⟩
  exact ⟨scopes, e, hp.linkAt_get, hp.contains, hrest.symm ▸ he⟩

/-! ### Listing a chain -/

/-- A listed chain begins with the scopes of a path as far as the limit allows. -/
theorem chainFrom_along (limit : Nat) (hp : h.Path link scopes rest) : ∀ {left : Nat},
    scopes.length ≤ left → h.chainFrom limit left link =
      scopes.map Except.ok ++ h.chainFrom limit (left - scopes.length) rest := by
  induction hp with
  | stop _ => exact fun _ => rfl
  | @scope x o scopes rest ho _ ih =>
    intro left hl
    rw [List.length_cons] at hl
    obtain ⟨left, rfl⟩ : ∃ n, left = n + 1 := ⟨left - 1, by omega⟩
    have hstep : h.chainFrom limit (left + 1) (some x) =
        Except.ok x :: h.chainFrom limit left o.prototype := by
      simp only [chainFrom, object_eq_ok.mpr ho]
    rw [hstep, ih (by omega), List.length_cons, Nat.add_sub_add_right, List.map_cons,
      List.cons_append]

theorem chainFrom_ends {n : Nat} (he : h.EndsAt limit n rest e) :
    h.chainFrom limit (limit - n) rest = (e.fault? limit).toList.map Except.error := by
  cases he with
  | complete _ => cases limit - n <;> rfl
  | tooDeep next hn =>
    rw [hn, Nat.sub_self]
    rfl
  | dangling next hn hno =>
    obtain ⟨room, hroom⟩ : ∃ room, limit - n = room + 1 := ⟨limit - n - 1, by omega⟩
    have hnone : h.object? next = none :=
      Option.eq_none_iff_forall_ne_some.mpr fun o ho => hno (contains_of_object? ho)
    have herr : h.object next = .error (.invalidHandle next.index) :=
      object_eq_error.mpr ⟨hnone, rfl⟩
    rw [hroom]
    simp only [chainFrom, herr]
    rfl

namespace Walks

theorem chain (hw : h.Walks limit start scopes e) :
    h.chain limit start = scopes.map .ok ++ (e.fault? limit).toList.map .error := by
  unfold Heap.chain
  rw [chainFrom_along limit hw.path hw.ending.le_limit, chainFrom_ends hw.ending]

/-! ### Searching a chain -/

variable {α : Type} {found : ObjectHandle → HeapObject → Option α}

/-- A search finds what is at the first scope of the walk that has it, whatever lies beyond, and
otherwise ends as the walk does. -/
theorem findScope? (hw : h.Walks limit start scopes e) :
    h.findScope? limit found start =
      match scopes.findSome? fun x => (h.object? x).bind (found x), e.fault? limit with
      | some a, _ => .ok (some a)
      | none, some fault => .error fault
      | none, none => .ok none := by
  have hp := hw.path
  have hending := hw.ending
  cases hfound : scopes.findSome? fun x => (h.object? x).bind (found x) with
  | some a =>
    obtain ⟨before, x, after, hsplit, hx, hbefore⟩ := List.findSome?_eq_some_iff.mp hfound
    obtain ⟨o, ho, ha⟩ := Option.bind_eq_some_iff.mp hx
    rw [hsplit] at hp
    obtain ⟨mid, hearly, hlate⟩ := hp.split
    obtain ⟨rfl, -⟩ := hlate.cons_inv
    have hlength := hending.le_limit
    rw [hsplit, List.length_append, List.length_cons] at hlength
    refine findScopeFrom?_eq_some.mpr ⟨before, x, o, hearly, by omega, fun y hy p hyp => ?_, ho, ha⟩
    have hnone := hbefore y hy
    rwa [hyp] at hnone
  | none =>
    have hpass : h.Passes found scopes := fun y hy p hyp => by
      have hnone := List.findSome?_eq_none_iff.mp hfound y hy
      rwa [hyp] at hnone
    generalize h.linkAt start scopes.length = rest at hp hending
    cases hending with
    | complete hl => exact findScopeFrom?_eq_none.mpr ⟨scopes, hp, hl, hpass⟩
    | tooDeep next hl =>
      exact findScopeFrom?_eq_error.mpr ⟨scopes, next, hp, hpass, Or.inl ⟨hl, rfl⟩⟩
    | dangling next hl hno =>
      have hnone : h.object? next = none :=
        Option.eq_none_iff_forall_ne_some.mpr fun o ho => hno (contains_of_object? ho)
      exact findScopeFrom?_eq_error.mpr ⟨scopes, next, hp, hpass, Or.inr ⟨hl, hnone, rfl⟩⟩

theorem property {r : Realm} (hw : r.heap.Walks r.options.maxPrototypeDepth start scopes e)
    (key : PropertyKey) : r.property (.object start) key =
      match scopes.findSome? fun x => (r.heap.object? x).bind (·.ownProperty? key),
        e.fault? r.options.maxPrototypeDepth with
      | some v, _ => .ok v
      | none, some fault => .error fault
      | none, none => .ok .undefined := by
  unfold Realm.property
  simp only [hw.findScope?]
  cases scopes.findSome? fun x => (r.heap.object? x).bind (·.ownProperty? key) with
  | some v => rfl
  | none => cases e <;> rfl

end Walks

/-- A lookup chain and what is read along it, for every heap, limit and object, cyclic and dangling
links included. A walk visits objects, each named by the next link, and at most as many as the limit
allows; it ends after the last link, at a further link for which there is no room, or while there is
room at a link that names no object. There is exactly one such walk. The chain lists its scopes in
order and then the fault that it ends in, if there is one, so at most one more item than the limit.
A property of the object is read from the first scope of the walk that has it as its own; if none
has it, the read ends in the fault of the walk, or it gives Undefined. -/
theorem walk_along_chain (h : Heap) (limit : Nat) (start : ObjectHandle) :
    ∃ scopes e,
      (∀ scopes' e', h.Walks limit start scopes' e' ↔ scopes' = scopes ∧ e' = e) ∧
      h.chain limit start = scopes.map .ok ++ (e.fault? limit).toList.map .error ∧
      (h.chain limit start).length ≤ limit + 1 ∧
      ∀ r : Realm, r.heap = h → r.options.maxPrototypeDepth = limit → ∀ key,
        r.property (.object start) key =
          match scopes.findSome? fun x => (h.object? x).bind (·.ownProperty? key),
            e.fault? limit with
          | some v, _ => .ok v
          | none, some fault => .error fault
          | none, none => .ok .undefined := by
  obtain ⟨scopes, e, hw⟩ := exists_walks h limit start
  refine ⟨scopes, e, fun scopes' e' => ⟨hw.unique, ?_⟩, hw.chain, ?_, ?_⟩
  · rintro ⟨rfl, rfl⟩
    exact hw
  · have hfault : (e.fault? limit).toList.length ≤ 1 := by cases e <;> simp [WalkEnd.fault?]
    have hlength := hw.ending.le_limit
    rw [hw.chain, List.length_append, List.length_map, List.length_map]
    omega
  · rintro r rfl rfl key
    exact hw.property key

/-- A realm of two objects that inherit from each other and of one that inherits from nothing that
is there. -/
def twoLoop : Realm :=
  { Realm.ofOptions { maxPrototypeDepth := 3 } with
    heap := ⟨#[{ prototype := some ⟨1⟩ },
      { prototype := some ⟨0⟩, properties := .ofList [("m", .null)] },
      { prototype := some ⟨7⟩, properties := .ofList [("n", .null)] }]⟩ }

/-- On the loop a property of the second object is read and any other read takes the walk to
the limit. -/
theorem walk_along_twoLoop :
    twoLoop.heap.chain 3 ⟨0⟩ =
        [.ok ⟨0⟩, .ok ⟨1⟩, .ok ⟨0⟩, .error (.chainTooDeep 3)] ∧
      twoLoop.property (.object ⟨0⟩) "m" = .ok .null ∧
      twoLoop.property (.object ⟨0⟩) "n" = .error (.chainTooDeep 3) := by
  have hw : twoLoop.heap.Walks 3 ⟨0⟩ [⟨0⟩, ⟨1⟩, ⟨0⟩] .tooDeep :=
    ⟨by decide, by decide, .tooDeep ⟨1⟩ rfl⟩
  obtain ⟨scopes, e, hunique, hchain, -, hread⟩ := walk_along_chain twoLoop.heap 3 ⟨0⟩
  obtain ⟨rfl, rfl⟩ := (hunique _ _).mp hw
  exact ⟨hchain, hread twoLoop rfl rfl "m", hread twoLoop rfl rfl "n"⟩

/-- Beside the loop, a property of the object itself is read, and any other read comes to the link
that names no object. -/
example : twoLoop.property (.object ⟨2⟩) "n" = .ok .null ∧
    twoLoop.property (.object ⟨2⟩) "m" = .error (.invalidHandle 7) := ⟨rfl, rfl⟩

end Heap
end Invocation
