/-
# Where the search for a holder ends

The search for the holder of a plain call follows the lookup chain of the receiver
and ends in one of four ways: at the first scope that declares one of the functions,
at the limit, at a link that names no object, or at the end of the chain. The path
taken says which (`Heap.SearchEnds`), and it is always exactly one. A scope declares
a function if its table holds it, under whatever key; elements of an array are not
in the table.

The end of the search is all that the holder depends on. The policy has a say only
if the chain was taken to its end, or if the receiver has none.

Key definitions: `Heap.Declares`, `SearchEnd`, `Heap.SearchEnds`.
Key theorems: `Heap.exists_searchEnds`, `Heap.holder_of_searchEnds`, `Heap.holder_search`.
-/
import Invocation.Holder
import Invocation.Proofs.Heap.Path

namespace Invocation

/-! ### Declaring -/

namespace HeapObject

variable {o : HeapObject} {functions : List ObjectHandle}

theorem declares_iff : o.declares functions = true ↔
    ∃ f ∈ functions, Value.object f ∈ o.properties.values := by
  unfold declares
  rw [List.any_eq_true]
  constructor
  · rintro ⟨v, hv, hf⟩
    cases v with
    | object f => exact ⟨f, List.contains_iff_mem.mp hf, hv⟩
    | _ => cases hf
  · rintro ⟨f, hf, hv⟩
    exact ⟨.object f, hv, List.contains_iff_mem.mpr hf⟩

theorem declares_iff_get? : o.declares functions = true ↔
    ∃ key, ∃ f ∈ functions, o.properties.get? key = some (.object f) := by
  rw [declares_iff]
  constructor
  · rintro ⟨f, hf, hv⟩
    obtain ⟨key, hkey⟩ := PropertyTable.mem_values_iff.mp hv
    exact ⟨key, f, hf, hkey⟩
  · rintro ⟨key, f, hf, hkey⟩
    exact ⟨f, hf, PropertyTable.mem_values_of_get? hkey⟩

end HeapObject

/-- How the search for a scope that declares a function may end. -/
inductive SearchEnd where
  /-- A scope declares one of the functions. -/
  | declared (scope : ObjectHandle)
  /-- The chain goes on past the limit. -/
  | tooDeep
  /-- A link names no object. -/
  | dangling (link : ObjectHandle)
  /-- The whole chain declares none of the functions, or there is no chain. -/
  | undeclared

/-- The holder of a call by the end of the search for it. -/
def SearchEnd.holder (limit : Nat) (receiver : Value) (name : String) (policy : HolderPolicy) :
    SearchEnd → Except Fault Value
  | .declared scope => .ok (.object scope)
  | .tooDeep => .error (.chainTooDeep limit)
  | .dangling link => .error (.invalidHandle link.index)
  | .undeclared =>
    match policy with
    | .lenient => .ok receiver
    | .strict => .error (.binding name)

/-- Under the strict policy different ends give different answers. -/
theorem SearchEnd.holder_injective {limit : Nat} {receiver : Value} {name : String}
    {e e' : SearchEnd}
    (heq : e.holder limit receiver name .strict = e'.holder limit receiver name .strict) :
    e = e' := by
  rcases e with s | _ | ⟨⟨i⟩⟩ | _ <;> rcases e' with s' | _ | ⟨⟨i'⟩⟩ | _ <;> simp_all [holder]

namespace Heap

/-- A scope declares one of the functions in its table. -/
def Declares (h : Heap) (scope : ObjectHandle) (functions : List ObjectHandle) : Prop :=
  ∃ o, h.object? scope = some o ∧ o.declares functions = true

/-- The search from a receiver, which may visit `limit` scopes, ends in a certain way. In each case
the scopes before the end declare none of the functions. -/
inductive SearchEnds (h : Heap) (limit : Nat) (functions : List ObjectHandle) :
    Value → SearchEnd → Prop
  | declared {start scope : ObjectHandle} {before : List ObjectHandle} :
      h.Path (some start) before (some scope) → before.length < limit →
      (∀ y ∈ before, ¬ h.Declares y functions) → h.Declares scope functions →
      SearchEnds h limit functions (.object start) (.declared scope)
  | tooDeep {start next : ObjectHandle} {before : List ObjectHandle} :
      h.Path (some start) before (some next) → before.length = limit →
      (∀ y ∈ before, ¬ h.Declares y functions) →
      SearchEnds h limit functions (.object start) .tooDeep
  | dangling {start link : ObjectHandle} {before : List ObjectHandle} :
      h.Path (some start) before (some link) → before.length < limit →
      (∀ y ∈ before, ¬ h.Declares y functions) → ¬ h.Contains link →
      SearchEnds h limit functions (.object start) (.dangling link)
  | undeclared {start : ObjectHandle} {scopes : List ObjectHandle} :
      h.Path (some start) scopes none → scopes.length ≤ limit →
      (∀ y ∈ scopes, ¬ h.Declares y functions) →
      SearchEnds h limit functions (.object start) .undeclared
  | primitive {receiver : Value} : receiver.isObject = false →
      SearchEnds h limit functions receiver .undeclared

variable {h : Heap} {limit : Nat} {start x s scope : ObjectHandle} {o : HeapObject}
  {before scopes : List ObjectHandle} {functions : List ObjectHandle} {name : String}
  {policy : HolderPolicy} {receiver v : Value} {e : SearchEnd}

theorem declares_of_object? (ho : h.object? x = some o) :
    h.Declares x functions ↔ o.declares functions = true := by
  constructor
  · rintro ⟨p, hp, hd⟩
    rw [ho] at hp
    cases hp
    exact hd
  · exact fun hd => ⟨o, ho, hd⟩

theorem not_declares (ho : h.object? x = some o) (hd : o.declares functions = false) :
    ¬ h.Declares x functions := by
  rw [declares_of_object? ho, hd]
  exact Bool.false_ne_true

theorem declares_modify_of_ne {f : HeapObject → HeapObject} (hne : x ≠ scope) :
    (h.modify x f).Declares scope functions ↔ h.Declares scope functions := by
  unfold Declares
  rw [object?_modify, if_neg hne]

theorem passes_iff :
    h.Passes (fun scope o => if o.declares functions then some scope else none) scopes ↔
      ∀ y ∈ scopes, ¬ h.Declares y functions := by
  constructor
  · rintro hpass y hy ⟨o, ho, hd⟩
    have hnone : (if o.declares functions = true then some y else none) = none := hpass y hy o ho
    rw [if_pos hd] at hnone
    cases hnone
  · intro hno y hy o ho
    exact if_neg fun hd => hno y hy ⟨o, ho, hd⟩

theorem declaringScope?_eq_some :
    h.declaringScope? limit (.object start) functions = .ok (some scope) ↔
    ∃ before, h.Path (some start) before (some scope) ∧ before.length < limit ∧
      (∀ y ∈ before, ¬ h.Declares y functions) ∧ h.Declares scope functions := by
  unfold declaringScope? findScope?
  simp only
  rw [findScopeFrom?_eq_some]
  constructor
  · rintro ⟨before, s, o, hp, hl, hpass, ho, hfound⟩
    by_cases hd : o.declares functions = true
    · rw [if_pos hd] at hfound
      cases hfound
      exact ⟨before, hp, hl, passes_iff.mp hpass, o, ho, hd⟩
    · rw [if_neg hd] at hfound
      cases hfound
  · rintro ⟨before, hp, hl, hnot, o, ho, hd⟩
    exact ⟨before, scope, o, hp, hl, passes_iff.mpr hnot, ho, if_pos hd⟩

/-! ### The end of the search -/

theorem exists_searchEnds (h : Heap) (limit : Nat) (functions : List ObjectHandle)
    (receiver : Value) : ∃ e, h.SearchEnds limit functions receiver e := by
  cases receiver with
  | object start =>
    obtain ⟨before, rest, hp, hpass, hl, hstop⟩ := findScopeFrom?_stops h
      (fun scope o => if o.declares functions then some scope else none) limit (some start)
    have hno := passes_iff.mp hpass
    rcases rest with _ | s
    · exact ⟨.undeclared, .undeclared hp hl hno⟩
    · rcases Nat.lt_or_eq_of_le hl with hlow | hfull
      · rcases hstop s rfl with h0 | hs | ⟨o, a, ho, ha⟩
        · omega
        · refine ⟨.dangling s, .dangling hp hlow hno fun hc => ?_⟩
          obtain ⟨o, ho⟩ := contains_iff.mp hc
          rw [hs] at ho
          cases ho
        · by_cases hd : o.declares functions = true
          · exact ⟨.declared s, .declared hp hlow hno ⟨o, ho, hd⟩⟩
          · have hnone : (if o.declares functions = true then some s else none) = some a := ha
            rw [if_neg hd] at hnone
            cases hnone
      · exact ⟨.tooDeep, .tooDeep hp hfull hno⟩
  | _ => exact ⟨.undeclared, .primitive rfl⟩

/-- The holder of a call is determined by the end of the search. -/
theorem holder_of_searchEnds (he : h.SearchEnds limit functions receiver e) (name : String)
    (policy : HolderPolicy) :
    h.holder limit receiver functions name policy = e.holder limit receiver name policy := by
  unfold holder
  cases he with
  | declared hp hl hno hd =>
    rw [declaringScope?_eq_some.mpr ⟨_, hp, hl, hno, hd⟩]
    rfl
  | @tooDeep start next before hp hl hno =>
    have hfault :
        h.declaringScope? limit (.object start) functions = .error (.chainTooDeep limit) :=
      findScopeFrom?_eq_error.mpr ⟨before, next, hp, passes_iff.mpr hno, Or.inl ⟨hl, rfl⟩⟩
    rw [hfault]
    rfl
  | @dangling start link before hp hl hno hlink =>
    have hnone : h.object? link = none :=
      Option.eq_none_iff_forall_ne_some.mpr fun o ho => hlink (contains_of_object? ho)
    have hfault : h.declaringScope? limit (.object start) functions =
        .error (.invalidHandle link.index) :=
      findScopeFrom?_eq_error.mpr ⟨before, link, hp, passes_iff.mpr hno, Or.inr ⟨hl, hnone, rfl⟩⟩
    rw [hfault]
    rfl
  | @undeclared start scopes hp hl hno =>
    have hnone : h.declaringScope? limit (.object start) functions = .ok none :=
      findScopeFrom?_eq_none.mpr ⟨scopes, hp, hl, passes_iff.mpr hno⟩
    rw [hnone]
    cases policy <;> rfl
  | primitive hv =>
    have hnone : h.declaringScope? limit receiver functions = .ok none := by
      cases receiver <;> first | rfl | cases hv
    rw [hnone]
    cases policy <;> rfl

theorem SearchEnds.unique {e' : SearchEnd} (he : h.SearchEnds limit functions receiver e)
    (he' : h.SearchEnds limit functions receiver e') : e = e' :=
  SearchEnd.holder_injective ((holder_of_searchEnds he "" .strict).symm.trans
    (holder_of_searchEnds he' "" .strict))

/-! ### Searches that end at a declaring scope -/

theorem SearchEnds.limit_pos (he : h.SearchEnds limit functions receiver (.declared s)) :
    0 < limit := by
  cases he with
  | declared _ hl _ _ => exact Nat.zero_lt_of_lt hl

theorem searchEnds_own (hl : 0 < limit) :
    h.SearchEnds limit functions (.object x) (.declared x) ↔ h.Declares x functions := by
  constructor
  · intro he
    cases he with
    | declared _ _ _ hd => exact hd
  · exact fun hd => .declared (.stop _) hl (fun y hy => by cases hy) hd

theorem SearchEnds.not_declares_receiver
    (he : h.SearchEnds limit functions (.object x) (.declared s)) (hs : s ≠ x) :
    ¬ h.Declares x functions := by
  cases he with
  | declared hp _ hno _ =>
    cases hp with
    | stop _ => exact absurd rfl hs
    | scope _ _ => exact hno x List.mem_cons_self

/-- The search ends at the same other scope after a change of the receiver that lets it declare none
of the functions. -/
theorem SearchEnds.modify {f : HeapObject → HeapObject}
    (he : h.SearchEnds limit functions (.object x) (.declared s)) (hs : s ≠ x)
    (hf : ∀ o, (f o).prototype = o.prototype) (hx : ¬ (h.modify x f).Declares x functions) :
    (h.modify x f).SearchEnds limit functions (.object x) (.declared s) := by
  cases he with
  | declared hp hl hno hd =>
    refine .declared (hp.modify hf) hl (fun y hy => ?_)
      ((declares_modify_of_ne (Ne.symm hs)).mpr hd)
    by_cases hxy : x = y
    · rw [← hxy]
      exact hx
    · rw [declares_modify_of_ne hxy]
      exact hno y hy

/-! ### Holders -/

/-- A holder is the first scope that declares one of the functions, or the receiver if the policy
makes up for that no scope does. -/
theorem holder_eq_ok : h.holder limit receiver functions name policy = .ok v ↔
    (∃ scope, h.SearchEnds limit functions receiver (.declared scope) ∧ v = .object scope) ∨
      (policy = .lenient ∧ h.SearchEnds limit functions receiver .undeclared ∧ v = receiver) := by
  constructor
  · intro hh
    obtain ⟨e, he⟩ := exists_searchEnds h limit functions receiver
    rw [holder_of_searchEnds he] at hh
    cases e with
    | declared scope =>
      cases hh
      exact Or.inl ⟨scope, he, rfl⟩
    | tooDeep => cases hh
    | dangling link => cases hh
    | undeclared =>
      cases policy with
      | strict => cases hh
      | lenient =>
        cases hh
        exact Or.inr ⟨rfl, he, rfl⟩
  · rintro (⟨scope, he, rfl⟩ | ⟨rfl, he, rfl⟩)
    · exact holder_of_searchEnds he name policy
    · exact holder_of_searchEnds he name .lenient

/-- A receiver that has a holder is no dangling handle. -/
theorem contains_of_holder (hh : h.holder limit (.object x) functions name policy = .ok v) :
    h.Contains x := by
  rcases holder_eq_ok.mp hh with ⟨scope, he, -⟩ | ⟨-, he, -⟩
  · cases he with
    | declared hp _ _ hd =>
      obtain ⟨o, ho, -⟩ := hd
      exact hp.contains_start fun y hy => Option.some.inj hy ▸ contains_of_object? ho
  · cases he with
    | undeclared hp _ _ => exact hp.contains_start fun y hy => by cases hy
    | primitive hv => cases hv

theorem holder_at (hp : h.Path (some start) before (some scope)) (hl : before.length < limit)
    (hno : ∀ y ∈ before, ¬ h.Declares y functions) (hd : h.Declares scope functions) :
    h.holder limit (.object start) functions name policy = .ok (.object scope) :=
  holder_of_searchEnds (.declared hp hl hno hd) name policy

theorem holder_own (ho : h.object? x = some o) (hd : o.declares functions = true)
    (hl : 1 ≤ limit) : h.holder limit (.object x) functions name policy = .ok (.object x) :=
  holder_at (.stop _) hl (fun y hy => by cases hy) ⟨o, ho, hd⟩

theorem holder_undeclared (hp : h.Path (some start) scopes none) (hl : scopes.length ≤ limit)
    (hno : ∀ y ∈ scopes, ¬ h.Declares y functions) :
    h.holder limit (.object start) functions name policy = match policy with
      | .lenient => .ok (.object start)
      | .strict => .error (.binding name) :=
  holder_of_searchEnds (.undeclared hp hl hno) name policy

theorem holder_tooDeep (hp : h.Path (some start) before (some s)) (hl : before.length = limit)
    (hno : ∀ y ∈ before, ¬ h.Declares y functions) :
    h.holder limit (.object start) functions name policy = .error (.chainTooDeep limit) :=
  holder_of_searchEnds (.tooDeep hp hl hno) name policy

/-- The holder is at or before a scope that declares the function, if the limit lets the search come
to that scope. -/
theorem holder_of_declares (hp : h.Path (some start) before (some s)) (hl : before.length < limit)
    (hd : ∃ scope ∈ before ++ [s], h.Declares scope functions) (name : String)
    (policy : HolderPolicy) : ∃ scope ∈ before ++ [s],
      h.holder limit (.object start) functions name policy = .ok (.object scope) := by
  classical
  -- the first scope that declares the function
  obtain ⟨scope, hfirst⟩ : ∃ scope,
      (before ++ [s]).find? (fun y => decide (h.Declares y functions)) = some scope := by
    obtain ⟨y, hy, hdy⟩ := hd
    rw [← Option.isSome_iff_exists, List.find?_isSome]
    exact ⟨y, hy, decide_eq_true hdy⟩
  obtain ⟨hscope, early, late, hsplit, hnot⟩ := List.find?_eq_some_iff_append.mp hfirst
  have hmem : scope ∈ before ++ [s] := by
    rw [hsplit]
    simp
  have hlength : early.length + late.length = before.length := by
    have := congrArg List.length hsplit
    simp only [List.length_append, List.length_cons, List.length_nil] at this
    omega
  have hpath : h.Path (some start) early (some scope) := hp.upTo hsplit
  refine ⟨scope, hmem, holder_at hpath (by omega) ?_ (of_decide_eq_true hscope)⟩
  intro y hy hdy
  have := hnot y hy
  simp [hdy] at this

theorem declares_of_holder (hh : h.holder limit (.object start) functions name .strict =
    .ok (.object scope)) : h.Declares scope functions := by
  rcases holder_eq_ok.mp hh with ⟨y, he, hy⟩ | ⟨hpolicy, -, -⟩
  · cases hy
    cases he with
    | declared _ _ _ hd => exact hd
  · cases hpolicy

/-- The holder of a call, for every heap, receiver, list of functions and limit. A scope declares a
function if its table holds it under some key. The search ends in exactly one way: at the first
scope that declares one of the functions, if the limit lets it come there, whatever lies beyond;
past the limit or at a link that names no object, if no scope before does; or without a declaring
scope, if the whole chain was taken or the receiver is no object. The end alone determines the
holder or the fault. The policies differ only if there is no declaring scope: then the lenient one
gives the receiver and the strict one fails. -/
theorem holder_search (h : Heap) (limit : Nat) (functions : List ObjectHandle) (receiver : Value) :
    (∀ scope, h.Declares scope functions ↔ ∃ o, h.object? scope = some o ∧
      ∃ key, ∃ f ∈ functions, o.properties.get? key = some (.object f)) ∧
    ∃ e, (∀ e', h.SearchEnds limit functions receiver e' ↔ e' = e) ∧
      (∀ name policy, h.holder limit receiver functions name policy =
        e.holder limit receiver name policy) ∧
      ∀ name, h.holder limit receiver functions name .strict ≠
        h.holder limit receiver functions name .lenient ↔ e = .undeclared := by
  constructor
  · intro scope
    simp only [Declares, HeapObject.declares_iff_get?]
  · obtain ⟨e, he⟩ := exists_searchEnds h limit functions receiver
    refine ⟨e, fun e' => ⟨fun he' => he'.unique he, fun heq => heq ▸ he⟩,
      holder_of_searchEnds he, fun name => ?_⟩
    rw [holder_of_searchEnds he, holder_of_searchEnds he]
    cases e <;> simp [SearchEnd.holder]

/-- On a chain that never ends the function is found at its second scope, and another one is sought
until the limit, whatever the policy. -/
example :
    let h : Heap := ⟨#[{ prototype := some ⟨1⟩ },
      { prototype := some ⟨0⟩, properties := .ofList [("m", .object ⟨7⟩)] }]⟩
    h.holder 2 (.object ⟨0⟩) [⟨7⟩] "m" .strict = .ok (.object ⟨1⟩) ∧
      h.holder 2 (.object ⟨0⟩) [⟨8⟩] "n" .lenient = .error (.chainTooDeep 2) := ⟨rfl, rfl⟩

end Heap
end Invocation
