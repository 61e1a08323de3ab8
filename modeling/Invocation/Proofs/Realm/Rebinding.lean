/-
# Binding again and again

A bound function can be bound like any other. Each time it is named after its target, and
the parameters it declares are those of its target less the arguments that it puts in
front, but never less than none. The number is kept as a value, an integer or a double by
its size, and read back from there for the next binding; no step on the way rounds, and
what is cut off at zero early stays there. So any number of bindings declares what one
binding with all the arguments does (`rebinding_composes`).

Key definitions: `Realm.Rebinds`.
Key theorems: `Realm.Rebinds.signature`, `Realm.rebinding_composes`.
-/
import Invocation.Proofs.Realm.ReadBack
import Invocation.Proofs.Realm.Signature

namespace Invocation
namespace Realm

/-- Functions that were bound one after the other. The first is a native function with the name and
the length that it was made with, each other one is the function that binding the one before it with
the next arguments returned, and nobody has overwritten the `name` or the `length` of the last one
so far. -/
inductive Rebinds (f : NativeFunction) : List (List Value) → Realm → ObjectHandle → Prop
  | native {r : Realm} {x : ObjectHandle} {o : HeapObject} :
      r.heap.object? x = some o → o.kind = .native f → o.HasSignature f.name f.length.toNat →
      Rebinds f [] r x
  | later {lists : List (List Value)} {r r' : Realm} {x : ObjectHandle} :
      Rebinds f lists r x → Evolves r r' →
      r'.ownProperty? (.object x) "name" = r.ownProperty? (.object x) "name" →
      r'.ownProperty? (.object x) "length" = r.ownProperty? (.object x) "length" →
      Rebinds f lists r' x
  | bound {lists : List (List Value)} {r r' : Realm} {x y : ObjectHandle} {receiver : Value}
      {arguments : List Value} :
      Rebinds f lists r x → bind (.object x) receiver arguments r = (.ok (.object y), r') →
      r'.heap.HasFunction y → Rebinds f (lists ++ [arguments]) r' y

variable {f : NativeFunction} {lists : List (List Value)} {r r' : Realm} {x y : ObjectHandle}
  {name : String} {length : Nat} {receiver : Value} {arguments : List Value}

theorem rebinds_instantiate (f : NativeFunction) (hsize : r.heap.size + 1 < UInt32.size) :
    ∃ r', instantiate f r = (.ok (.object r.heap.nextHandle), r') ∧
      Rebinds f [] r' r.heap.nextHandle := by
  obtain ⟨r', o, hmade, ho, hk, hs⟩ := instantiate_signature f hsize
  exact ⟨r', hmade, .native ho hk hs⟩

/-- A function that keeps its own `name` and `length` keeps its signature. -/
theorem hasSignature_later (h : r.heap.HasSignature x name length) (hevolves : Evolves r r')
    (hname : r'.ownProperty? (.object x) "name" = r.ownProperty? (.object x) "name")
    (hlength : r'.ownProperty? (.object x) "length" = r.ownProperty? (.object x) "length") :
    r'.heap.HasSignature x name length := by
  obtain ⟨o, ho, hs⟩ := h
  obtain ⟨o', ho', hgrows⟩ := hevolves.growsTo.objects x o ho
  rw [ownProperty?_object ho', ownProperty?_object ho] at hname hlength
  refine ⟨o', ho', ?_, ?_, ?_⟩
  · rw [hgrows.isFunction, hs.isFunction]
  · rw [Except.ok.inj hname, hs.name]
  · rw [Except.ok.inj hlength, hs.length]

theorem left_lt (f : NativeFunction) (n : Nat) : f.length.toNat - n < 0x20000000000000 := by
  have hlt := f.length.toNat_lt
  omega

/-- The last function is called `bound` as often as it was bound, and declares what all the
arguments leave. -/
theorem Rebinds.signature (h : Rebinds f lists r x) (hp : 1 ≤ r.options.maxPrototypeDepth) :
    r.heap.HasSignature x (String.join (List.replicate lists.length "bound ") ++ f.name)
      (f.length.toNat - lists.flatten.length) := by
  induction h with
  | native ho hk hs => exact ⟨_, ho, hs⟩
  | later _ hevolves hname hlength ih =>
    rw [hevolves.growsTo.options] at hp
    exact hasSignature_later (ih hp) hevolves hname hlength
  | @bound lists r r' x y receiver arguments _ hbind hfun ih =>
    rw [(growsTo_bind hbind).options] at hp
    obtain ⟨r1, hbind1, -, hsignature⟩ :=
      bind_signature (ih hp) (left_lt f _) hp receiver arguments
    rw [hbind1] at hbind
    cases hbind
    have hname : "bound " ++ (String.join (List.replicate lists.length "bound ") ++ f.name) =
        String.join (List.replicate (lists ++ [arguments]).length "bound ") ++ f.name := by
      rw [List.length_append, List.length_singleton, List.replicate_succ, String.join_cons,
        String.append_assoc]
    have hleft : f.length.toNat - lists.flatten.length - arguments.length =
        f.length.toNat - (lists ++ [arguments]).flatten.length := by
      rw [List.flatten_append, List.length_append, List.flatten_singleton, Nat.sub_sub]
    rw [← hname, ← hleft]
    exact hsignature hfun

/-- What any number of bindings come to. The name of the last function has as many times `bound` in
front as there were bindings, and its length is that of the native function less all the arguments,
but at least zero: the length that one binding with all the arguments gives. And binding it once
more never fails; what that returns is a function, bound like the others, as long as there are fewer
objects than handles. -/
theorem rebinding_composes (h : Rebinds f lists r x) (hp : 1 ≤ r.options.maxPrototypeDepth) :
    r.ownProperty? (.object x) "name" =
      .ok (some (.text (String.join (List.replicate lists.length "bound ") ++ f.name))) ∧
    r.ownProperty? (.object x) "length" =
      .ok (some (.ofLength (f.length.toNat - lists.flatten.length))) ∧
    (∀ r1 y, 1 ≤ r1.options.maxPrototypeDepth → Rebinds f [lists.flatten] r1 y →
      r1.ownProperty? (.object y) "length" = r.ownProperty? (.object x) "length") ∧
    ∀ receiver arguments, ∃ y r', bind (.object x) receiver arguments r = (.ok (.object y), r') ∧
      (r.heap.size < UInt32.size → Rebinds f (lists ++ [arguments]) r' y) := by
  obtain ⟨o, ho, hs⟩ := h.signature hp
  refine ⟨?_, ?_, ?_, ?_⟩
  · rw [ownProperty?_object ho, hs.name]
  · rw [ownProperty?_object ho, hs.length]
  · intro r1 y hp1 hone
    obtain ⟨o1, ho1, hs1⟩ := hone.signature hp1
    rw [ownProperty?_object ho1, ownProperty?_object ho, hs1.length, hs.length,
      List.flatten_singleton]
  · intro receiver arguments
    obtain ⟨r', hbind, hfun, -⟩ := bind_signature ⟨o, ho, hs⟩ (left_lt f _) hp receiver arguments
    exact ⟨r.heap.nextHandle, r', hbind, fun hsize => h.bound hbind (hfun hsize)⟩

def taking : NativeFunction :=
  { name := "take", length := 3, constructible := false, adapter := fun _ => pure .undefined }

/-- A run that makes the function, and binds it to one argument and then to more than are left. -/
def boundTwice : Run.State :=
  (((Run.State.start {}).perform (.instantiate taking)).perform
    (.bind (.object ⟨4⟩) .null [.int 1])).perform
      (.bind (.object ⟨5⟩) .undefined [.int 2, .int 3, .int 4])

theorem rebinding_boundTwice :
    boundTwice.realm.ownProperty? (.object ⟨6⟩) "name" = .ok (some (.text "bound bound take")) ∧
      boundTwice.realm.ownProperty? (.object ⟨6⟩) "length" = .ok (some (.int 0)) := by
  let made : Run.State := (Run.State.start {}).perform (.instantiate taking)
  let once : Run.State := made.perform (.bind (.object ⟨4⟩) .null [.int 1])
  have hmade : Rebinds taking [] made.realm ⟨4⟩ := by
    obtain ⟨r', hr, h⟩ := rebinds_instantiate taking (r := (Run.State.start {}).realm) (by decide)
    cases hr
    exact h
  have honce : Rebinds taking [[.int 1]] once.realm ⟨5⟩ := by
    have hbind : bind (.object ⟨4⟩) .null [.int 1] made.realm = (.ok (.object ⟨5⟩), once.realm) :=
      rfl
    exact hmade.bound hbind ⟨_, rfl, rfl⟩
  have htwice : Rebinds taking [[.int 1], [.int 2, .int 3, .int 4]] boundTwice.realm ⟨6⟩ := by
    obtain ⟨r', hbind, hfun, -⟩ := bind_signature (honce.signature (by decide)) (left_lt taking _)
      (by decide) .undefined [.int 2, .int 3, .int 4]
    have hstep : boundTwice.realm = r' := by
      unfold boundTwice
      rw [Run.State.realm_perform]
      exact congrArg Prod.snd hbind
    rw [hstep]
    exact honce.bound hbind (hfun (by decide))
  obtain ⟨hname, hlength, -⟩ := rebinding_composes htwice (by decide)
  exact ⟨hname, hlength⟩

end Realm
end Invocation
