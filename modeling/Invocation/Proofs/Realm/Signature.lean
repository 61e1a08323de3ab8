/-
# Names and lengths of functions

Every function object is made with a `name` and a `length` of its own, its signature. A
write at another name leaves them, and what instantiating makes has the signature of the
native function (`nativeObject_signature`). Binding reads both from its target along the
lookup chain, which begins at the target, so a target with a signature answers with its
own: the function that binding returns is named after it and has the parameters that are
left (`bind_signature`).

Key definitions: `HeapObject.HasSignature`, `Heap.HasSignature`.
Key theorems: `HeapObject.named_signature`, `Realm.instantiate_signature`,
`Realm.binds_own`, `Realm.bind_signature`.
-/
import Invocation.Proofs.Number.Whole
import Invocation.Proofs.Realm.Growth
import Invocation.Proofs.Realm.Reading

namespace Invocation

namespace HeapObject

variable {o : HeapObject} {key : PropertyKey} {name : String} {length : Nat} {v : Value}

/-- A function object with a `name` and a `length` of its own. -/
structure HasSignature (o : HeapObject) (name : String) (length : Nat) : Prop where
  isFunction : o.isFunction = true
  name : o.ownProperty? "name" = some (.text name)
  length : o.ownProperty? "length" = some (.ofLength length)

/-- A function is no array, so all of its properties are in the table. -/
theorem not_array_of_isFunction (hfun : o.isFunction = true) (key : PropertyKey) :
    o.isLength key = false ∧ o.isPosition key = false := by
  unfold isFunction at hfun
  unfold isLength isPosition
  split at hfun
  · rename_i f hk
    simp only [hk, and_self]
  · rename_i b hk
    simp only [hk, and_self]
  · cases hfun

theorem isFunction_write (o : HeapObject) (key : PropertyKey) (v : Value) :
    (o.write key v).isFunction = o.isFunction := (o.growsTo_write key v).isFunction

theorem ownProperty?_write_function (hfun : o.isFunction = true) (key : PropertyKey) (v : Value)
    (k : PropertyKey) :
    (o.write key v).ownProperty? k = if k = key then some v else o.ownProperty? k := by
  obtain ⟨hlen, hpos⟩ := not_array_of_isFunction hfun key
  exact ownProperty?_write hlen hpos v k

theorem named_signature (hfun : o.isFunction = true) (name : String) (length : Nat) :
    (o.named name length).HasSignature name length := by
  have hnamed : (o.write "name" (.text name)).isFunction = true := by
    rw [isFunction_write, hfun]
  unfold named
  refine ⟨?_, ?_, ?_⟩
  · rw [isFunction_write, hnamed]
  · rw [ownProperty?_write_function hnamed, if_neg (by decide), ownProperty?_write_function hfun,
      if_pos rfl]
  · rw [ownProperty?_write_function hnamed, if_pos rfl]

/-- A write at any other name leaves the signature. -/
theorem HasSignature.write (h : o.HasSignature name length) (hname : key ≠ "name")
    (hlength : key ≠ "length") (v : Value) : (o.write key v).HasSignature name length := by
  refine ⟨?_, ?_, ?_⟩
  · rw [isFunction_write, h.isFunction]
  · rw [ownProperty?_write_function h.isFunction, if_neg (Ne.symm hname), h.name]
  · rw [ownProperty?_write_function h.isFunction, if_neg (Ne.symm hlength), h.length]

end HeapObject

/-- A handle names a function object with a `name` and a `length` of its own. -/
def Heap.HasSignature (h : Heap) (x : ObjectHandle) (name : String) (length : Nat) : Prop :=
  ∃ o, h.object? x = some o ∧ o.HasSignature name length

namespace Realm

variable {r r' : Realm} {x y : ObjectHandle} {o : HeapObject} {name : String} {length : Nat}
  {receiver v : Value}
  {arguments : List Value}

/-- The `length` property of a function reads as what it was made from. -/
theorem declaredLength_ofLength {n : Nat} (hlt : n < 0x20000000000000) :
    (declaredLength (.ofLength n)).toInt = n := by
  unfold Value.ofLength
  split
  · rename_i hn
    exact (Int32.toInt_toInt64 _).trans (Int32.toInt_ofNat_of_lt hn)
  · unfold declaredLength
    simp only [Binary64.isFinite_ofNat hlt, Binary64.truncate_ofNat hlt, ↓reduceIte]
    rw [Int64.toInt_ofInt_of_le (by omega) (by omega)]
    omega

theorem argumentCount_toInt (arguments : List Value) :
    (argumentCount arguments).toInt = min (arguments.length : Int) 0x7fffffffffffffff := by
  have hcount : (0 : Int) ≤ arguments.length := Int.natCast_nonneg _
  exact Int64.toInt_ofInt_of_le (by omega) (by omega)

/-- The arguments can be taken from what a `length` property was made from: no difference leaves its
word, and more arguments than parameters leave none. -/
theorem sub_argumentCount {n : Nat} (hlt : n < 0x20000000000000) (arguments : List Value) :
    ∃ left, Checked.sub (declaredLength (.ofLength n)) (argumentCount arguments) = .ok left ∧
      left.toInt.toNat = n - arguments.length := by
  have hn := declaredLength_ofLength hlt
  have hcount := argumentCount_toInt arguments
  obtain ⟨left, hleft, hint⟩ := Checked.sub_of_range (a := declaredLength (.ofLength n))
    (b := argumentCount arguments) (by omega) (by omega)
  exact ⟨left, hleft, by omega⟩

theorem binds_own (ho : r.heap.object? x = some o) (hs : o.HasSignature name length)
    (hlt : length < 0x20000000000000) (hp : 1 ≤ r.options.maxPrototypeDepth)
    (arguments : List Value) : r.Binds x arguments name (length - arguments.length) := by
  have hname : r.nameString x = .flat name := by
    unfold nameString
    rw [property_own ho hs.name hp]
    rfl
  obtain ⟨left, hleft, hnat⟩ := sub_argumentCount hlt arguments
  exact ⟨by rw [hname]; rfl, _, left, property_own ho hs.length hp, hleft, hnat⟩

theorem nativeObject_signature (prototype : ObjectHandle) (f : NativeFunction) :
    (nativeObject prototype f).HasSignature f.name f.length.toNat :=
  HeapObject.named_signature (o := { prototype := some prototype, kind := .native f }) rfl _ _

theorem instantiate_signature (f : NativeFunction) (hsize : r.heap.size + 1 < UInt32.size) :
    ∃ r' o, instantiate f r = (.ok (.object r.heap.nextHandle), r') ∧
      r'.heap.object? r.heap.nextHandle = some o ∧ o.kind = .native f ∧
      o.HasSignature f.name f.length.toNat := by
  have hsmall : r.heap.size < UInt32.size := Nat.lt_of_succ_lt hsize
  have hs := nativeObject_signature r.functionPrototype f
  by_cases hk : f.constructible = true
  · let function : HeapObject := (nativeObject r.functionPrototype f).write "prototype"
      (.object ⟨(r.heap.size + 1).toUInt32⟩)
    have hfunction : ∀ instances : HeapObject,
        ((r.heap.alloc function).2.alloc instances).2.object? r.heap.nextHandle =
          some function := by
      intro instances
      rw [Heap.object?_alloc_of_contains Heap.contains_nextHandle, Heap.object?_alloc_new hsmall]
    refine ⟨_, function, instantiate_constructible hk hsize, hfunction _, rfl, ?_⟩
    exact hs.write (by decide) (by decide) _
  · rw [Bool.not_eq_true] at hk
    exact ⟨_, _, instantiate_plain hk hsmall, Heap.object?_alloc_new hsmall, rfl, hs⟩

/-- Binding a function with a signature never fails. What it returns has the name of the function
behind one more `bound` and the parameters that are left, if it is a function; and that it is, as
long as handles are left. -/
theorem bind_signature (h : r.heap.HasSignature x name length) (hlt : length < 0x20000000000000)
    (hp : 1 ≤ r.options.maxPrototypeDepth) (receiver : Value) (arguments : List Value) :
    ∃ r', bind (.object x) receiver arguments r = (.ok (.object r.heap.nextHandle), r') ∧
      (r.heap.size < UInt32.size → r'.heap.HasFunction r.heap.nextHandle) ∧
      (r'.heap.HasFunction r.heap.nextHandle →
        r'.heap.HasSignature r.heap.nextHandle ("bound " ++ name) (length - arguments.length)) := by
  obtain ⟨o, ho, hs⟩ := h
  let bound : HeapObject := { prototype := o.prototype, kind := .bound ⟨x, receiver, arguments⟩ }
  let naming : HeapObject → HeapObject := (·.named ("bound " ++ name) (length - arguments.length))
  have hbind : bind (.object x) receiver arguments r = (.ok (.object r.heap.nextHandle),
      r.onHeap fun h => (h.alloc bound).2.modify h.nextHandle naming) :=
    bind_modify ho hs.isFunction (binds_own ho hs hlt hp arguments)
  refine ⟨_, hbind, ?_, ?_⟩
  · intro hsize
    have hnew : ((r.heap.alloc bound).2.modify r.heap.nextHandle naming).object? r.heap.nextHandle =
        some (naming bound) := Heap.object?_modify_self (Heap.object?_alloc_new hsize)
    exact ⟨naming bound, hnew, (HeapObject.named_signature rfl _ _).isFunction⟩
  · -- the two writes are what the signature reads, whatever object they are onto
    rintro ⟨p, hp, hfun⟩
    simp only [onHeap, Heap.object?_modify, ↓reduceIte, Option.map_eq_some_iff] at hp
    obtain ⟨q, hq, rfl⟩ := hp
    have hqfun : q.isFunction = true := by
      unfold naming HeapObject.named at hfun
      rw [HeapObject.isFunction_write, HeapObject.isFunction_write] at hfun
      exact hfun
    exact ⟨naming q, Heap.object?_modify_self hq, HeapObject.named_signature hqfun _ _⟩

end Realm
end Invocation
