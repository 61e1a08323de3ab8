/-
# Inspecting twice

The inspecting adapter writes onto the receiver what the search for a holder reads: an
object declares a function if its table holds it under any key, and the three that the
adapter writes are no exception. So a call can make its receiver a declaring scope, if
the function is the receiver or the holder, and it can take the only declaration away,
if that stands at one of the three keys. A second call finds the holder of the first,
and then changes nothing, exactly if the first did neither.

Key definitions: `Inspect.Keeps`.
Key theorems: `Inspect.record_record`, `Inspect.declares_record`, `Heap.searchEnds_record`,
`Realm.inspecting_again`.
-/
import Invocation.Proofs.ArgumentAdapters.Calls

namespace Invocation

namespace Inspect

variable {c : Context} {o : HeapObject} {f : ObjectHandle}

theorem get?_record_isConstructCall :
    (record c o).properties.get? isConstructCall = some (.bool c.isConstructCall) := by
  rw [get?_record, if_neg (by decide), if_neg (by decide), if_pos rfl]

theorem get?_record_thisValue : (record c o).properties.get? thisValue = some c.receiver := by
  rw [get?_record, if_neg (by decide), if_pos rfl]

theorem get?_record_holderValue : (record c o).properties.get? holderValue = some c.holder := by
  rw [get?_record, if_pos rfl]

theorem record_record (c : Context) (o : HeapObject) : record c (record c o) = record c o := by
  rw [record_eq c (record c o), PropertyTable.insert_of_get? get?_record_isConstructCall,
    PropertyTable.insert_of_get? get?_record_thisValue,
    PropertyTable.insert_of_get? get?_record_holderValue]

/-- The table of an object holds a function at a key that the inspecting adapter does not write. -/
def Keeps (o : HeapObject) (f : ObjectHandle) : Prop :=
  ∃ key, key ∉ fields ∧ o.properties.get? key = some (.object f)

theorem declares_of_keeps (hk : Keeps o f) : o.declares [f] = true := by
  obtain ⟨key, -, hkey⟩ := hk
  exact HeapObject.declares_iff_get?.mpr ⟨key, f, List.mem_singleton.mpr rfl, hkey⟩

/-- An inspected object declares its receiver and its holder, and what it declared at other keys. -/
theorem declares_record : (record c o).declares [f] = true ↔
    c.receiver = .object f ∨ c.holder = .object f ∨ Keeps o f := by
  rw [HeapObject.declares_iff_get?]
  constructor
  · rintro ⟨key, g, hg, hkey⟩
    obtain rfl := List.mem_singleton.mp hg
    by_cases hfield : key ∈ fields
    · rcases mem_fields.mp hfield with rfl | rfl | rfl
      · rw [get?_record_isConstructCall] at hkey
        cases hkey
      · rw [get?_record_thisValue] at hkey
        exact Or.inl (Option.some.inj hkey)
      · rw [get?_record_holderValue] at hkey
        exact Or.inr (Or.inl (Option.some.inj hkey))
    · rw [get?_record_of_not_mem hfield] at hkey
      exact Or.inr (Or.inr ⟨key, hfield, hkey⟩)
  · rintro (hthis | hholder | ⟨key, hfield, hkey⟩)
    · refine ⟨thisValue, f, List.mem_singleton.mpr rfl, ?_⟩
      rw [get?_record_thisValue, hthis]
    · refine ⟨holderValue, f, List.mem_singleton.mpr rfl, ?_⟩
      rw [get?_record_holderValue, hholder]
    · refine ⟨key, f, List.mem_singleton.mpr rfl, ?_⟩
      rw [get?_record_of_not_mem hfield, hkey]

end Inspect

namespace Heap

variable {h : Heap} {limit : Nat} {c : Context} {f x s : ObjectHandle} {o : HeapObject}

/-- An inspected receiver declares the function if it is the function, if its holder is, or if it
held the function at another key. -/
theorem declares_inspected (hx : h.object? x = some o) (hthis : c.receiver = .object x)
    (hholder : c.holder = .object s) :
    (h.modify x (Inspect.record c)).Declares x [f] ↔ x = f ∨ s = f ∨ Inspect.Keeps o f := by
  rw [declares_of_object? (object?_modify_self hx), Inspect.declares_record, hthis, hholder,
    Value.object.injEq, Value.object.injEq]

/-- The search from a receiver ends at the same scope after the receiver was inspected exactly if
the receiver has neither ceased to declare the function nor begun to. -/
theorem searchEnds_record (hx : h.object? x = some o)
    (he : h.SearchEnds limit [f] (.object x) (.declared s)) (hthis : c.receiver = .object x)
    (hholder : c.holder = .object s) :
    (h.modify x (Inspect.record c)).SearchEnds limit [f] (.object x) (.declared s) ↔
      (s = x ∧ (x = f ∨ Inspect.Keeps o f)) ∨ (s ≠ x ∧ x ≠ f ∧ s ≠ f) := by
  have hself := declares_inspected (f := f) hx hthis hholder
  by_cases hs : s = x
  · subst hs
    rw [searchEnds_own he.limit_pos, hself]
    simp
  · have hkeeps : ¬ Inspect.Keeps o f := fun hk =>
      he.not_declares_receiver hs ((declares_of_object? hx).mpr (Inspect.declares_of_keeps hk))
    have hbegun : ¬ (h.modify x (Inspect.record c)).Declares x [f] ↔ x ≠ f ∧ s ≠ f := by
      rw [hself]
      simp [hkeeps]
    constructor
    · intro he'
      exact Or.inr ⟨hs, hbegun.mp (he'.not_declares_receiver hs)⟩
    · rintro (⟨hs', -⟩ | ⟨-, hf⟩)
      · exact absurd hs' hs
      · exact he.modify hs (fun _ => Inspect.prototype_record) (hbegun.mpr hf)

end Heap

namespace Realm

variable {r r1 : Realm} {fh x s : ObjectHandle} {fo o : HeapObject} {f : NativeFunction}
  {receiver v : Value} {arguments : List Value}

/-- A call of the inspecting adapter that succeeds finds the first declaring scope as its holder. -/
theorem held_of_inspecting (hf : f.adapter = inspectAdapter) (hpolicy : f.policy = .strict)
    (ho : r.heap.object? fh = some fo) (hk : fo.kind = .native f)
    (hok : callWithReceiver (.object fh) receiver arguments r = (.ok v, r1)) :
    ∃ x s, receiver = .object x ∧ r.Admits [] fh f receiver (.object s) ∧
      r.heap.SearchEnds r.options.maxPrototypeDepth [fh] receiver (.declared s) ∧
      r1 = r.onHeap (·.modify x (Inspect.record
        ⟨.plain, fh, f.name, .object x, .object s, arguments⟩)) := by
  rcases callWithReceiver_inspecting hf (.native ho hk) receiver arguments with
    ⟨x, holder, hx, ha, hcall⟩ | ⟨-, e, hcall⟩
  · rw [hok] at hcall
    rcases Heap.holder_eq_ok.mp ha.held with ⟨s, he, rfl⟩ | ⟨hlenient, -⟩
    · exact ⟨x, s, hx, ha, he, (Prod.mk.inj hcall).2⟩
    · rw [hpolicy] at hlenient
      cases hlenient
  · rw [hok] at hcall
    cases (Prod.mk.inj hcall).1

theorem holderValue_inspected (hx : r.heap.object? x = some o) (c : Context) :
    (r.onHeap (·.modify x (Inspect.record c))).ownProperty? (.object x) Inspect.holderValue =
      .ok (some c.holder) := by
  have hobject : (r.onHeap (·.modify x (Inspect.record c))).object (.object x) =
      .ok (Inspect.record c o) := Heap.object_eq_ok.mpr (Heap.object?_modify_self hx)
  rw [ownProperty?, hobject, Except.map, Inspect.holderValue_record]

theorem native_inspected (ho : r.heap.object? fh = some fo) (hk : fo.kind = .native f)
    (c : Context) :
    ∃ fo1, (r.onHeap (·.modify x (Inspect.record c))).heap.object? fh = some fo1 ∧
      fo1.kind = .native f := by
  show ∃ fo1, (r.heap.modify x (Inspect.record c)).object? fh = some fo1 ∧ fo1.kind = .native f
  rw [Heap.object?_modify, ho]
  split
  · exact ⟨_, rfl, Inspect.kind_record.trans hk⟩
  · exact ⟨fo, rfl, hk⟩

theorem inspected_twice (r : Realm) (x : ObjectHandle) (c : Context) :
    (r.onHeap (·.modify x (Inspect.record c))).onHeap (·.modify x (Inspect.record c)) =
      r.onHeap (·.modify x (Inspect.record c)) := by
  have hsame : Inspect.record c ∘ Inspect.record c = Inspect.record c :=
    funext fun o => Inspect.record_record c o
  unfold onHeap
  simp only [Heap.modify_modify, hsame]

/-- A call of the inspecting adapter is repeated without a change exactly if the search ends at the
same scope again. -/
theorem repeats_iff {c : Context} (hc : c = ⟨.plain, fh, f.name, .object x, .object s, arguments⟩)
    (hf : f.adapter = inspectAdapter) (hpolicy : f.policy = .strict)
    (ho : r.heap.object? fh = some fo) (hk : fo.kind = .native f) (hx : r.heap.object? x = some o)
    (ha : r.Admits [] fh f (.object x) (.object s))
    (hr : r1 = r.onHeap (·.modify x (Inspect.record c))) :
    callWithReceiver (.object fh) (.object x) arguments r1 = (.ok .undefined, r1) ↔
      r1.heap.SearchEnds r1.options.maxPrototypeDepth [fh] (.object x) (.declared s) := by
  obtain ⟨fo1, ho1, hk1⟩ : ∃ fo1, r1.heap.object? fh = some fo1 ∧ fo1.kind = .native f := by
    rw [hr]
    exact native_inspected ho hk c
  have hx1 : r1.heap.object? x = some (Inspect.record c o) := by
    rw [hr]
    exact Heap.object?_modify_self hx
  constructor
  · intro hagain
    obtain ⟨x', s', hx', -, he', hr'⟩ := held_of_inspecting hf hpolicy ho1 hk1 hagain
    cases hx'
    -- the realm after the second call shows the second holder, and it is the realm before
    have hshown := holderValue_inspected hx c
    have hshown' := holderValue_inspected hx1 ⟨.plain, fh, f.name, .object x, .object s', arguments⟩
    rw [← hr', hr, hshown, hc] at hshown'
    cases hshown'
    exact he'
  · intro he
    have hdepth : r1.callDepth < r1.options.maxCallDepth := by
      rw [hr]
      exact ha.depth
    have hcall : callWithReceiver (.object fh) (.object x) arguments r1 =
        (.ok .undefined, r1.onHeap (·.modify x (Inspect.record
          ⟨.plain, fh, f.name, .object x, .object s, arguments⟩))) :=
      call_inspecting hf (.native ho1 hk1) (Nat.zero_lt_of_lt hdepth) hdepth rfl
        (Heap.holder_of_searchEnds he f.name f.policy)
    -- the second call writes what the first wrote
    rw [hcall, ← hc, hr, inspected_twice]

/-- A call of a strict function with the inspecting adapter that succeeded, made again. Its holder
is the first scope that declares the function, and the receiver shows it afterwards. The second call
succeeds, finds the same holder and leaves the realm as it is exactly if what the first call wrote
did not change where the function is declared: the holder is the receiver and still declares the
function, because it is the function or holds it at a key besides the three that were written; or
the holder is another scope, and the function is neither the receiver nor the holder. -/
theorem inspecting_again (hf : f.adapter = inspectAdapter) (hpolicy : f.policy = .strict)
    (ho : r.heap.object? fh = some fo) (hk : fo.kind = .native f)
    (hok : callWithReceiver (.object fh) receiver arguments r = (.ok v, r1)) :
    ∃ x o s, receiver = .object x ∧ r.heap.object? x = some o ∧
      r.heap.SearchEnds r.options.maxPrototypeDepth [fh] receiver (.declared s) ∧
      r1.ownProperty? receiver Inspect.holderValue = .ok (some (.object s)) ∧
      (callWithReceiver (.object fh) receiver arguments r1 = (.ok .undefined, r1) ↔
        (s = x ∧ (x = fh ∨ Inspect.Keeps o fh)) ∨ (s ≠ x ∧ x ≠ fh ∧ s ≠ fh)) := by
  obtain ⟨x, s, rfl, ha, he, hr⟩ := held_of_inspecting hf hpolicy ho hk hok
  obtain ⟨o, hx⟩ := Heap.contains_iff.mp (Heap.contains_of_holder ha.held)
  have hagain := repeats_iff rfl hf hpolicy ho hk hx ha hr
  subst hr
  exact ⟨x, o, s, rfl, hx, he, holderValue_inspected hx _,
    hagain.trans (Heap.searchEnds_record hx he rfl rfl)⟩

/-- A run that makes an inspecting function and an object that inherits from it. -/
def heirMade : Run.State :=
  ((Run.State.start {}).perform (.instantiate inspectFunction)).perform
    (.createObjectWithPrototype (some ⟨4⟩))

/-- The same run when the function became a property of some object. -/
def declaredBy (scope : ObjectHandle) (key : PropertyKey) : Run.State :=
  heirMade.perform (.operation (.setProperty (.object scope) key (.object ⟨4⟩)) rfl)

theorem reachable_declaredBy {scope : ObjectHandle} (key : PropertyKey)
    (hscope : heirMade.realm.heap.Contains scope) : Run.Reachable {} (declaredBy scope key) := by
  refine .head (.task (.instantiate inspectFunction) rfl (by decide)) ?_
  refine .head (.task (.createObjectWithPrototype (some ⟨4⟩)) rfl (by decide)) ?_
  refine .single (.task (.operation (.setProperty (.object scope) key (.object ⟨4⟩)) rfl) rfl ?_)
  show ∀ x ∈ [scope, ⟨4⟩], heirMade.realm.heap.Contains x
  rintro x hx
  rcases List.mem_cons.mp hx with rfl | hx
  · exact hscope
  · obtain rfl := List.mem_singleton.mp hx
    decide

/-- Declared by the prototype of functions, the function inspects its heir as often as it is called:
the second call changes nothing. -/
theorem heir_again : ∃ r1,
    callWithReceiver (.object ⟨4⟩) (.object ⟨6⟩) [] (declaredBy ⟨1⟩ "m").realm =
        (.ok .undefined, r1) ∧
      callWithReceiver (.object ⟨4⟩) (.object ⟨6⟩) [] r1 = (.ok .undefined, r1) := by
  obtain ⟨r1, hok⟩ : ∃ r1, callWithReceiver (.object ⟨4⟩) (.object ⟨6⟩) []
      (declaredBy ⟨1⟩ "m").realm = (.ok .undefined, r1) := ⟨_, rfl⟩
  have hend : (declaredBy ⟨1⟩ "m").realm.heap.SearchEnds 1024 [⟨4⟩] (.object ⟨6⟩) (.declared ⟨1⟩) :=
    .declared (.scope rfl (.scope rfl (.stop _))) (by decide)
      (List.forall_mem_cons.mpr ⟨Heap.not_declares rfl rfl,
        List.forall_mem_singleton.mpr (Heap.not_declares rfl rfl)⟩) ⟨_, rfl, rfl⟩
  obtain ⟨x, o, s, hx, -, hs, -, hagain⟩ := inspecting_again rfl rfl rfl rfl hok
  cases hx
  cases hs.unique hend
  exact ⟨r1, hok, hagain.mpr (Or.inr ⟨by decide, by decide, by decide⟩)⟩

/-- The outcomes of two calls of the function in a row, each with the holder that the receiver shows
after it. -/
def inspectTwice (x : ObjectHandle) (r : Realm) :
    List (Except Fault Value × Except Fault (Option Value)) :=
  let (first, r1) := callWithReceiver (.object ⟨4⟩) (.object x) [] r
  let (second, r2) := callWithReceiver (.object ⟨4⟩) (.object x) [] r1
  [(first, r1.ownProperty? (.object x) Inspect.holderValue),
    (second, r2.ownProperty? (.object x) Inspect.holderValue)]

/-- Three runs after which the second of two calls does not find the holder of the first. An heir
that holds the function as its `thisValue` and nowhere else is its own holder, and then has none.
The function itself, declared by the prototype of functions, declares itself after the first call;
and so does an heir of the function whose holder the function was. -/
theorem inspecting_differs :
    (Run.Reachable {} (declaredBy ⟨6⟩ "thisValue") ∧
      ((declaredBy ⟨6⟩ "thisValue").realm.heap.object? ⟨4⟩).map HeapObject.kind =
        some (.native inspectFunction) ∧
      inspectTwice ⟨6⟩ (declaredBy ⟨6⟩ "thisValue").realm =
        [(.ok .undefined, .ok (some (.object ⟨6⟩))),
          (.error (.binding "Arguments_FunctionWithArguments"), .ok (some (.object ⟨6⟩)))]) ∧
    (Run.Reachable {} (declaredBy ⟨1⟩ "m") ∧
      ((declaredBy ⟨1⟩ "m").realm.heap.object? ⟨4⟩).map HeapObject.kind =
        some (.native inspectFunction) ∧
      inspectTwice ⟨4⟩ (declaredBy ⟨1⟩ "m").realm =
        [(.ok .undefined, .ok (some (.object ⟨1⟩))), (.ok .undefined, .ok (some (.object ⟨4⟩)))]) ∧
    (Run.Reachable {} (declaredBy ⟨4⟩ "self") ∧
      ((declaredBy ⟨4⟩ "self").realm.heap.object? ⟨4⟩).map HeapObject.kind =
        some (.native inspectFunction) ∧
      inspectTwice ⟨6⟩ (declaredBy ⟨4⟩ "self").realm =
        [(.ok .undefined, .ok (some (.object ⟨4⟩))), (.ok .undefined, .ok (some (.object ⟨6⟩)))]) :=
  ⟨⟨reachable_declaredBy _ (by decide), rfl, rfl⟩, ⟨reachable_declaredBy _ (by decide), rfl, rfl⟩,
    ⟨reachable_declaredBy _ (by decide), rfl, rfl⟩⟩

end Realm
end Invocation
