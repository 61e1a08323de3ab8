/-
# Paths along prototype links

`Path h link scopes rest` follows the prototype links of a heap from `link`: it
visits `scopes`, in order, and stops before `rest`. A path is complete when no
link is left. What a walk along a lookup chain finds, and the fault it ends in,
is said by the path it takes (`findScopeFrom?_eq_some`, `findScopeFrom?_eq_none`,
`findScopeFrom?_eq_error`).

A heap is acyclic when a complete path starts at every object. A complete path
visits no scope twice, because the rest of the chain is determined by a scope; so
it is at most as long as the heap is large. Links to a path that does not lead
back keep a heap acyclic (`Acyclic.relink`).

Key definitions: `Heap.Path`, `Heap.Acyclic`.
Key theorems: `Heap.Path.nodup`, `Heap.Path.length_le`, `Heap.Acyclic.relink`.
-/
import Invocation.Heap.Chain
import Invocation.Proofs.Heap.Handles

namespace Invocation

theorem error_of_map {α β : Type} {k : α → β} {outcome : Except Fault α} {e : Fault}
    (he : outcome.map k = .error e) : outcome = .error e := by
  cases outcome with
  | error e' =>
    cases he
    rfl
  | ok a => cases he

namespace Heap

/-- Following links from a link on visits scopes in order and stops before the link that is left. -/
inductive Path (h : Heap) : Option ObjectHandle → List ObjectHandle → Option ObjectHandle → Prop
  | stop (link : Option ObjectHandle) : Path h link [] link
  | scope {handle : ObjectHandle} {o : HeapObject} {scopes : List ObjectHandle}
      {rest : Option ObjectHandle} : h.object? handle = some o → Path h o.prototype scopes rest →
      Path h (some handle) (handle :: scopes) rest

/-- Every object begins a chain that ends. -/
def Acyclic (h : Heap) : Prop := ∀ x, h.Contains x → ∃ scopes, h.Path (some x) scopes none

variable {h : Heap} {link mid rest : Option ObjectHandle} {x : ObjectHandle} {o : HeapObject}
  {scopes more : List ObjectHandle}

/-! ### Paths -/

namespace Path

theorem trans (h1 : h.Path link scopes mid) (h2 : h.Path mid more rest) :
    h.Path link (scopes ++ more) rest := by
  induction h1 with
  | stop _ => exact h2
  | scope ho _ ih => exact .scope ho (ih h2)

theorem cons_inv (hp : h.Path link (x :: scopes) rest) :
    link = some x ∧ ∃ o, h.object? x = some o ∧ h.Path o.prototype scopes rest := by
  cases hp with
  | scope ho hp => exact ⟨rfl, _, ho, hp⟩

theorem next (ho : h.object? x = some o) (hp : h.Path (some x) scopes none) :
    ∃ more, scopes = x :: more ∧ h.Path o.prototype more none := by
  cases hp with
  | scope ho' hp =>
    rw [ho] at ho'
    cases ho'
    exact ⟨_, rfl, hp⟩

/-- A path can be cut anywhere. -/
theorem split : ∀ {scopes : List ObjectHandle} {link : Option ObjectHandle},
    h.Path link (scopes ++ more) rest → ∃ mid, h.Path link scopes mid ∧ h.Path mid more rest
  | [], link, hp => ⟨link, .stop link, hp⟩
  | _ :: scopes, _, hp => by
    obtain ⟨rfl, o, ho, hp⟩ := cons_inv hp
    obtain ⟨mid, h1, h2⟩ := split hp
    exact ⟨mid, .scope ho h1, h2⟩

/-- A path that stops before `s` comes by every scope up to `s`. -/
theorem upTo {s : ObjectHandle} {before early late : List ObjectHandle}
    (hp : h.Path link before (some s)) (hsplit : before ++ [s] = early ++ x :: late) :
    h.Path link early (some x) := by
  rcases List.eq_nil_or_concat late with rfl | ⟨more, last, rfl⟩
  · obtain ⟨rfl, hs⟩ := List.append_inj' hsplit rfl
    cases hs
    exact hp
  · have hassoc : before ++ [s] = (early ++ x :: more) ++ [last] := by
      rw [hsplit]
      simp
    obtain ⟨rfl, -⟩ := List.append_inj' hassoc rfl
    obtain ⟨mid, h1, h2⟩ := hp.split
    obtain ⟨rfl, -⟩ := h2.cons_inv
    exact h1

/-- A complete path begins with every other path from the same link, and its remainder is the
complete path from where that one stops. -/
theorem remainder (h1 : h.Path link scopes mid) : ∀ {all : List ObjectHandle},
    h.Path link all none → ∃ more, all = scopes ++ more ∧ h.Path mid more none := by
  induction h1 with
  | stop _ => exact fun hp => ⟨_, rfl, hp⟩
  | scope ho _ ih =>
    intro all hp
    obtain ⟨tail, rfl, htail⟩ := next ho hp
    obtain ⟨more, rfl, hm⟩ := ih htail
    exact ⟨more, rfl, hm⟩

theorem unique (h1 : h.Path link scopes none) (h2 : h.Path link more none) : scopes = more := by
  obtain ⟨tail, rfl, ht⟩ := remainder h1 h2
  cases ht
  rw [List.append_nil]

/-- A complete path visits no scope twice: from a second visit on it would have to be as long as
from the first. -/
theorem nodup : ∀ {scopes : List ObjectHandle} {link : Option ObjectHandle},
    h.Path link scopes none → scopes.Nodup
  | [], _, _ => List.nodup_nil
  | x :: scopes, link, hp => by
    obtain ⟨rfl, o, ho, htail⟩ := cons_inv hp
    refine List.nodup_cons.mpr ⟨fun hx => ?_, nodup htail⟩
    obtain ⟨a, b, rfl⟩ := List.append_of_mem hx
    obtain ⟨mid, -, h2⟩ := split htail
    obtain ⟨rfl, -, -, -⟩ := cons_inv h2
    have heq := congrArg List.length (unique h2 hp)
    simp only [List.length_cons, List.length_append] at heq
    omega

theorem contains (hp : h.Path link scopes rest) : ∀ y ∈ scopes, h.Contains y := by
  induction hp with
  | stop _ => simp
  | scope ho _ ih =>
    intro y hy
    rcases List.mem_cons.mp hy with rfl | hy
    · exact contains_of_object? ho
    · exact ih y hy

theorem contains_rest (hc : h.Closed) (hp : h.Path link scopes rest) :
    (∀ y ∈ link, h.Contains y) → ∀ y ∈ rest, h.Contains y := by
  induction hp with
  | stop _ => exact fun hl => hl
  | scope ho _ ih => exact fun _ => ih fun y hy => hc.prototype ho hy

theorem length_le (hp : h.Path link scopes none) : scopes.length ≤ h.size := by
  have hnd : (scopes.map fun y => y.index.toNat).Nodup :=
    List.Pairwise.map _ (fun _ _ hne heq => hne (index_inj.mp heq)) hp.nodup
  have hsub : scopes.map (fun y => y.index.toNat) ⊆ List.range h.size := by
    intro i hi
    obtain ⟨y, hy, rfl⟩ := List.mem_map.mp hi
    exact List.mem_range.mpr (hp.contains y hy)
  have hle := hnd.length_le_of_subset hsub
  rwa [List.length_map, List.length_range] at hle

/-- A path stays one in a heap where its scopes have the same prototypes. -/
theorem transfer {h' : Heap} (hp : h.Path link scopes rest) :
    (∀ y ∈ scopes, ∀ o, h.object? y = some o →
      ∃ o', h'.object? y = some o' ∧ o'.prototype = o.prototype) →
    h'.Path link scopes rest := by
  induction hp with
  | stop link => exact fun _ => .stop link
  | scope ho _ ih =>
    intro same
    obtain ⟨o', ho', hproto⟩ := same _ List.mem_cons_self _ ho
    refine .scope ho' ?_
    rw [hproto]
    exact ih fun y hy => same y (List.mem_cons_of_mem _ hy)

theorem modify {f : HeapObject → HeapObject} (hf : ∀ o, (f o).prototype = o.prototype)
    (hp : h.Path link scopes rest) : (h.modify x f).Path link scopes rest := by
  refine hp.transfer fun y _ o ho => ?_
  rw [object?_modify, ho]
  split
  · exact ⟨f o, rfl, hf o⟩
  · exact ⟨o, rfl, rfl⟩

theorem contains_start (hp : h.Path (some x) scopes rest) (hrest : ∀ y ∈ rest, h.Contains y) :
    h.Contains x := by
  cases hp with
  | stop _ => exact hrest x rfl
  | scope ho _ => exact contains_of_object? ho

end Path

/-! ### Walks along a lookup chain -/

section Walks

variable {α : Type} {limit : Nat} {found : ObjectHandle → HeapObject → Option α}

/-- Nothing is found at any of the scopes. -/
def Passes (h : Heap) (found : ObjectHandle → HeapObject → Option α) (scopes : List ObjectHandle) :
    Prop := ∀ y ∈ scopes, ∀ o, h.object? y = some o → found y o = none

theorem passes_nil : h.Passes found [] := fun y hy => by simp at hy

theorem passes_cons (ho : h.object? x = some o) :
    h.Passes found (x :: scopes) ↔ found x o = none ∧ h.Passes found scopes := by
  constructor
  · intro hp
    exact ⟨hp x List.mem_cons_self o ho, fun y hy => hp y (List.mem_cons_of_mem _ hy)⟩
  · rintro ⟨hx, hp⟩ y hy p hyp
    rcases List.mem_cons.mp hy with rfl | hy
    · rw [ho] at hyp
      cases hyp
      exact hx
    · exact hp y hy p hyp

/-- A walk goes by scopes that have nothing as far as the limit allows. -/
theorem findScopeFrom?_along (hp : h.Path link scopes rest) : ∀ {left : Nat},
    h.Passes found scopes → scopes.length ≤ left →
      h.findScopeFrom? limit found left link =
        h.findScopeFrom? limit found (left - scopes.length) rest := by
  induction hp with
  | stop _ => exact fun _ _ => rfl
  | @scope x o scopes rest ho _ ih =>
    intro left hpass hl
    obtain ⟨hx, hpass⟩ := (passes_cons ho).mp hpass
    rw [List.length_cons] at hl
    obtain ⟨left, rfl⟩ : ∃ n, left = n + 1 := ⟨left - 1, by omega⟩
    have hstep : h.findScopeFrom? limit found (left + 1) (some x) =
        h.findScopeFrom? limit found left o.prototype := by
      simp only [findScopeFrom?, object_eq_ok.mpr ho, hx]
    rw [hstep, ih hpass (by omega), List.length_cons, Nat.add_sub_add_right]

/-- A walk with room for some more scopes stops before a link: there is none, or there is no room,
or it names no object, or something is found there. -/
def Stops (h : Heap) (found : ObjectHandle → HeapObject → Option α) (room : Nat)
    (rest : Option ObjectHandle) : Prop :=
  ∀ s, rest = some s → room = 0 ∨ h.object? s = none ∨
    ∃ o a, h.object? s = some o ∧ found s o = some a

theorem findScopeFrom?_stops (h : Heap) (found : ObjectHandle → HeapObject → Option α) :
    ∀ (left : Nat) (link : Option ObjectHandle), ∃ before rest, h.Path link before rest ∧
      h.Passes found before ∧ before.length ≤ left ∧ h.Stops found (left - before.length) rest
  | left, none => ⟨[], none, .stop none, passes_nil, Nat.zero_le left, fun s hs => by cases hs⟩
  | 0, some x => ⟨[], some x, .stop _, passes_nil, Nat.le_refl 0, fun _ _ => Or.inl rfl⟩
  | left + 1, some x => by
    rcases ho : h.object? x with _ | o
    · refine ⟨[], some x, .stop _, passes_nil, Nat.zero_le _, fun s hs => ?_⟩
      cases hs
      exact Or.inr (Or.inl ho)
    · rcases hx : found x o with _ | a
      · obtain ⟨before, rest, hp, hpass, hl, hstop⟩ := findScopeFrom?_stops h found left o.prototype
        refine ⟨x :: before, rest, .scope ho hp, (passes_cons ho).mpr ⟨hx, hpass⟩, ?_, ?_⟩
        · rw [List.length_cons]
          omega
        · rw [List.length_cons, Nat.add_sub_add_right]
          exact hstop
      · refine ⟨[], some x, .stop _, passes_nil, Nat.zero_le _, fun s hs => ?_⟩
        cases hs
        exact Or.inr (Or.inr ⟨o, a, ho, hx⟩)

theorem findScopeFrom?_of_stops (limit : Nat) {room : Nat} (hstop : h.Stops found room rest) :
    (rest = none ∧ h.findScopeFrom? limit found room rest = .ok none) ∨
    ∃ s, rest = some s ∧
      ((room = 0 ∧ h.findScopeFrom? limit found room rest = .error (.chainTooDeep limit)) ∨
        (0 < room ∧ h.object? s = none ∧
          h.findScopeFrom? limit found room rest = .error (.invalidHandle s.index)) ∨
        (0 < room ∧ ∃ o a, h.object? s = some o ∧ found s o = some a ∧
          h.findScopeFrom? limit found room rest = .ok (some a))) := by
  rcases rest with _ | s
  · refine Or.inl ⟨rfl, ?_⟩
    cases room <;> rfl
  · refine Or.inr ⟨s, rfl, ?_⟩
    rcases room with _ | room
    · exact Or.inl ⟨rfl, rfl⟩
    · have hpos : 0 < room + 1 := Nat.succ_pos room
      rcases hstop s rfl with h0 | ho | ⟨o, a, ho, ha⟩
      · omega
      · refine Or.inr (Or.inl ⟨hpos, ho, ?_⟩)
        have herr : h.object s = .error (.invalidHandle s.index) := object_eq_error.mpr ⟨ho, rfl⟩
        simp only [findScopeFrom?, herr]
      · refine Or.inr (Or.inr ⟨hpos, o, a, ho, ha, ?_⟩)
        simp only [findScopeFrom?, object_eq_ok.mpr ho, ha]

/-- A walk finds what is at the first scope that has it, if the limit lets the walk visit it. -/
theorem findScopeFrom?_eq_some {a : α} {left : Nat} :
    h.findScopeFrom? limit found left link = .ok (some a) ↔
      ∃ before s o, h.Path link before (some s) ∧ before.length < left ∧ h.Passes found before ∧
        h.object? s = some o ∧ found s o = some a := by
  constructor
  · intro hf
    obtain ⟨before, rest, hp, hpass, hl, hstop⟩ := findScopeFrom?_stops h found left link
    rw [findScopeFrom?_along hp hpass hl] at hf
    rcases findScopeFrom?_of_stops limit hstop with
      ⟨-, he⟩ | ⟨s, rfl, ⟨-, he⟩ | ⟨-, -, he⟩ | ⟨hpos, o, b, ho, hb, he⟩⟩
    · exact absurd (he.symm.trans hf) (by simp)
    · exact absurd (he.symm.trans hf) (by simp)
    · exact absurd (he.symm.trans hf) (by simp)
    · rw [he] at hf
      cases hf
      exact ⟨before, s, o, hp, by omega, hpass, ho, hb⟩
  · rintro ⟨before, s, o, hp, hl, hpass, ho, ha⟩
    obtain ⟨room, hroom⟩ : ∃ n, left - before.length = n + 1 := ⟨left - before.length - 1, by omega⟩
    rw [findScopeFrom?_along hp hpass (by omega), hroom]
    simp only [findScopeFrom?, object_eq_ok.mpr ho, ha]

/-- A walk finds nothing exactly if the limit lets it take the complete path and nothing
is there. -/
theorem findScopeFrom?_eq_none {left : Nat} :
    h.findScopeFrom? limit found left link = .ok none ↔
      ∃ scopes, h.Path link scopes none ∧ scopes.length ≤ left ∧ h.Passes found scopes := by
  constructor
  · intro hf
    obtain ⟨before, rest, hp, hpass, hl, hstop⟩ := findScopeFrom?_stops h found left link
    rw [findScopeFrom?_along hp hpass hl] at hf
    rcases findScopeFrom?_of_stops limit hstop with
      ⟨rfl, -⟩ | ⟨s, -, ⟨-, he⟩ | ⟨-, -, he⟩ | ⟨-, o, b, -, -, he⟩⟩
    · exact ⟨before, hp, hl, hpass⟩
    · exact absurd (he.symm.trans hf) (by simp)
    · exact absurd (he.symm.trans hf) (by simp)
    · exact absurd (he.symm.trans hf) (by simp)
  · rintro ⟨scopes, hp, hl, hpass⟩
    rw [findScopeFrom?_along hp hpass hl]
    cases left - scopes.length <;> rfl

/-- A walk that finds nothing on its way fails where the limit stops it before a further link, or
where it meets a link that names no object. -/
theorem findScopeFrom?_eq_error {e : Fault} {left : Nat} :
    h.findScopeFrom? limit found left link = .error e ↔
      ∃ before s, h.Path link before (some s) ∧ h.Passes found before ∧
        ((before.length = left ∧ e = .chainTooDeep limit) ∨
          (before.length < left ∧ h.object? s = none ∧ e = .invalidHandle s.index)) := by
  constructor
  · intro hf
    obtain ⟨before, rest, hp, hpass, hl, hstop⟩ := findScopeFrom?_stops h found left link
    rw [findScopeFrom?_along hp hpass hl] at hf
    rcases findScopeFrom?_of_stops limit hstop with
      ⟨-, he⟩ | ⟨s, rfl, ⟨h0, he⟩ | ⟨hpos, ho, he⟩ | ⟨-, o, b, -, -, he⟩⟩
    · exact absurd (he.symm.trans hf) (by simp)
    · rw [he] at hf
      cases hf
      exact ⟨before, s, hp, hpass, Or.inl ⟨by omega, rfl⟩⟩
    · rw [he] at hf
      cases hf
      exact ⟨before, s, hp, hpass, Or.inr ⟨by omega, ho, rfl⟩⟩
    · exact absurd (he.symm.trans hf) (by simp)
  · rintro ⟨before, s, hp, hpass, ⟨rfl, rfl⟩ | ⟨hl, ho, rfl⟩⟩
    · rw [findScopeFrom?_along hp hpass (Nat.le_refl _), Nat.sub_self]
      rfl
    · obtain ⟨room, hroom⟩ : ∃ n, left - before.length = n + 1 :=
        ⟨left - before.length - 1, by omega⟩
      have herr : h.object s = .error (.invalidHandle s.index) := object_eq_error.mpr ⟨ho, rfl⟩
      rw [findScopeFrom?_along hp hpass (by omega), hroom]
      simp only [findScopeFrom?, herr]

/-- In a closed heap a walk from an object meets no handle without an object. -/
theorem findScope?_ne_invalidHandle (hc : h.Closed) (hx : h.Contains x) (i : UInt32) :
    h.findScope? limit found x ≠ .error (.invalidHandle i) := by
  intro hf
  obtain ⟨before, s, hp, -, ⟨-, he⟩ | ⟨-, hs, -⟩⟩ := findScopeFrom?_eq_error.mp hf
  · cases he
  · have hcs : h.Contains s := hp.contains_rest hc (fun y hy => by cases hy; exact hx) s rfl
    obtain ⟨o, ho⟩ := contains_iff.mp hcs
    rw [hs] at ho
    cases ho

/-- A listed chain ends in the limit only if there are that many scopes and a further link. -/
theorem path_of_chainTooDeep {l : Nat} : ∀ {left : Nat} {link : Option ObjectHandle},
    .error (.chainTooDeep l) ∈ h.chainFrom limit left link →
      ∃ scopes s, h.Path link scopes (some s) ∧ scopes.length = left
  | _, none, hm => by
    rw [chainFrom] at hm
    cases hm
  | 0, some x, _ => ⟨[], x, .stop _, rfl⟩
  | left + 1, some x, hm => by
    rw [chainFrom] at hm
    split at hm
    · rename_i e he
      obtain ⟨-, rfl⟩ := object_eq_error.mp he
      simp at hm
    · rename_i o ho
      rcases List.mem_cons.mp hm with hm | hm
      · cases hm
      · obtain ⟨scopes, s, hp, hl⟩ := path_of_chainTooDeep hm
        exact ⟨x :: scopes, s, .scope (object_eq_ok.mp ho) hp, by rw [List.length_cons, hl]⟩

end Walks

/-! ### Acyclic heaps -/

namespace Acyclic

theorem chain_ends (ha : h.Acyclic) {start : ObjectHandle} {limit l : Nat} (hl : h.size ≤ limit)
    (hpos : 0 < limit) : .error (.chainTooDeep l) ∉ h.chain limit start := by
  intro hm
  obtain ⟨scopes, s, hp, hlen⟩ := path_of_chainTooDeep hm
  have hstart : h.Contains start := by
    cases hp with
    | stop _ => simp only [List.length_nil] at hlen; omega
    | scope ho _ => exact contains_of_object? ho
  obtain ⟨all, hall⟩ := ha start hstart
  obtain ⟨more, rfl, hmore⟩ := hp.remainder hall
  have hle := hall.length_le
  cases hmore with
  | scope _ _ => simp only [List.length_append, List.length_cons] at hle; omega

theorem alloc (ha : h.Acyclic) (ho : ∀ y ∈ o.prototype, h.Contains y) : (h.alloc o).2.Acyclic := by
  have old : ∀ {link scopes}, h.Path link scopes none → (h.alloc o).2.Path link scopes none :=
    fun hp => hp.transfer fun y hy p hyp =>
      ⟨p, by rw [object?_alloc_of_contains (hp.contains y hy), hyp], rfl⟩
  intro x hx
  by_cases hnew : x.index.toNat = h.size
  · have hxo : (h.alloc o).2.object? x = some o := by rw [object?_alloc, if_pos hnew]
    cases hproto : o.prototype with
    | none => exact ⟨[x], .scope hxo (by rw [hproto]; exact .stop _)⟩
    | some y =>
      obtain ⟨scopes, hp⟩ := ha y (ho y hproto)
      exact ⟨x :: scopes, .scope hxo (by rw [hproto]; exact old hp)⟩
  · rw [Contains, size_alloc] at hx
    obtain ⟨scopes, hp⟩ := ha x (by rw [Contains]; omega)
    exact ⟨scopes, old hp⟩

theorem modify {f : HeapObject → HeapObject} (ha : h.Acyclic)
    (hf : ∀ o, (f o).prototype = o.prototype) : (h.modify x f).Acyclic := by
  intro y hy
  obtain ⟨scopes, hp⟩ := ha y (contains_modify.mp hy)
  exact ⟨scopes, hp.modify hf⟩

/-- An object may inherit from whatever has a chain that ends without it. -/
theorem relink {prototype : Option ObjectHandle} (ha : h.Acyclic)
    (hp : h.Path prototype scopes none)
    (hx : x ∉ scopes) : (h.modify x fun o => { o with prototype }).Acyclic := by
  have keep : ∀ {link more rest}, h.Path link more rest → x ∉ more →
      (h.modify x fun o => { o with prototype }).Path link more rest := by
    intro link more rest hq hm
    refine hq.transfer fun z hz p hzp => ⟨p, ?_, rfl⟩
    have hne : x ≠ z := fun e => hm (by rw [e]; exact hz)
    rw [object?_modify, if_neg hne, hzp]
  intro y hy
  obtain ⟨all, hall⟩ := ha y (contains_modify.mp hy)
  by_cases hm : x ∈ all
  · -- the chain goes to `x` as before and from there along the new links
    obtain ⟨a, b, rfl⟩ := List.append_of_mem hm
    have hna : x ∉ a := fun hxa =>
      (List.nodup_append.mp hall.nodup).2.2 x hxa x List.mem_cons_self rfl
    obtain ⟨mid, h1, h2⟩ := hall.split
    obtain ⟨rfl, o, ho, -⟩ := h2.cons_inv
    have hxo : (h.modify x fun o => { o with prototype }).object? x =
        some { o with prototype } := by
      rw [object?_modify, if_pos rfl, ho]
      rfl
    exact ⟨a ++ x :: scopes, (keep h1 hna).trans (.scope hxo (keep hp hx))⟩
  · exact ⟨all, keep hall hm⟩

end Acyclic
end Heap
end Invocation
