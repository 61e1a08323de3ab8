/-
# Realms only grow

Nothing that is in a realm is lost, whatever is done with it. An object keeps its
handle, its kind and its own properties: a function stays the function that it is, an
array gets no shorter, and a property may get another value but not go away. A symbol
keeps its id and its description. All of it is seen at single edits (`Edit.growsTo`) and
holds for any number of them.

So the handle of a new object differs from every handle that was given before, as long
as there are fewer objects than handles. And the target of a bound function is older
than the function itself (`Heap.Grounded`), which is why it stays decided whether a
function constructs.

Key definitions: `HeapObject.GrowsTo`, `Realm.GrowsTo`, `Realm.Evolves`, `Realm.Creates`,
`Heap.Grounded`.
Key theorems: `Realm.Evolves.growsTo`, `Realm.Creates.answers`, `Realm.Evolves.grounded`,
`Realm.GrowsTo.isConstructor`.
-/
import Invocation.Proofs.Realm.Writing

namespace Invocation

/-! ### Objects -/

/-- What may become of the kind of an object: nothing, but that an array may get more elements. -/
inductive ObjectKind.GrowsTo : ObjectKind → ObjectKind → Prop
  | ordinary : GrowsTo .ordinary .ordinary
  | array {items items' : Array Value} : items.size ≤ items'.size →
      GrowsTo (.array items) (.array items')
  | native (f : NativeFunction) : GrowsTo (.native f) (.native f)
  | bound (b : BoundFunction) : GrowsTo (.bound b) (.bound b)

namespace ObjectKind.GrowsTo

variable {k k' k'' : ObjectKind}

theorem refl : ∀ k : ObjectKind, k.GrowsTo k
  | .ordinary => .ordinary
  | .array _ => .array (Nat.le_refl _)
  | .native f => .native f
  | .bound b => .bound b

theorem trans (h : k.GrowsTo k') (h' : k'.GrowsTo k'') : k.GrowsTo k'' := by
  cases h with
  | array hsize =>
    cases h' with
    | array hsize' => exact .array (Nat.le_trans hsize hsize')
  | _ => exact h'

end ObjectKind.GrowsTo

namespace HeapObject

/-- An object keeps its kind and has the own properties that it had. -/
structure GrowsTo (o o' : HeapObject) : Prop where
  kind : o.kind.GrowsTo o'.kind
  own : ∀ key, o.hasOwnProperty key = true → o'.hasOwnProperty key = true

variable {o o' o'' : HeapObject}

namespace GrowsTo

theorem refl (o : HeapObject) : o.GrowsTo o := ⟨.refl _, fun _ h => h⟩

theorem trans (h : o.GrowsTo o') (h' : o'.GrowsTo o'') : o.GrowsTo o'' :=
  ⟨h.kind.trans h'.kind, fun key hk => h'.own key (h.own key hk)⟩

/-- The own properties are those of the kind and those in the table. -/
theorem of_table (hkind : o.kind.GrowsTo o'.kind)
    (htable : ∀ key, (o.properties.get? key).isSome → (o'.properties.get? key).isSome) :
    o.GrowsTo o' := by
  refine ⟨hkind, fun key hkey => ?_⟩
  unfold hasOwnProperty ownProperty? at hkey ⊢
  generalize o.kind = k at hkind hkey
  generalize o'.kind = k' at hkind ⊢
  cases hkind with
  | @array items items' hsize =>
    cases key with
    | symbol id => exact htable _ hkey
    | text name =>
      simp only at hkey ⊢
      split
      · rfl
      · rename_i hname
        rw [if_neg hname] at hkey
        cases hi : arrayIndex? name with
        | none =>
          rw [hi] at hkey
          exact htable _ hkey
        | some i =>
          rw [hi] at hkey
          simp only [isSome_getElem?] at hkey ⊢
          exact Nat.lt_of_lt_of_le hkey hsize
  | _ => exact htable _ hkey

theorem isFunction (h : o.GrowsTo o') : o'.isFunction = o.isFunction := by
  have hkind := h.kind
  unfold HeapObject.isFunction
  generalize o.kind = k at hkind
  generalize o'.kind = k' at hkind
  cases hkind <;> rfl

theorem isBound (h : o.GrowsTo o') : o'.isBound = o.isBound := by
  have hkind := h.kind
  unfold HeapObject.isBound
  generalize o.kind = k at hkind
  generalize o'.kind = k' at hkind
  cases hkind <;> rfl

/-- Anything but an array keeps its kind as it is. -/
theorem kind_eq (h : o.GrowsTo o') (hk : ∀ items, o.kind ≠ .array items) : o'.kind = o.kind := by
  have hkind := h.kind
  generalize o.kind = k at hkind hk
  generalize o'.kind = k' at hkind
  cases hkind with
  | array _ => exact absurd rfl (hk _)
  | _ => rfl

/-- Only a bound function becomes a bound function, and it is the same. -/
theorem of_bound {b : BoundFunction} (h : o.GrowsTo o') (hb : o'.kind = .bound b) :
    o.kind = .bound b := by
  have hkind := h.kind
  rw [hb] at hkind
  generalize o.kind = k at hkind
  cases hkind
  rfl

end GrowsTo

theorem growsTo_write (o : HeapObject) (key : PropertyKey) (v : Value) :
    o.GrowsTo (o.write key v) := by
  cases hpos : o.isPosition key with
  | true =>
    obtain ⟨items, name, i, hk, rfl, hi⟩ := exists_of_isPosition hpos
    rw [write_element hk hi]
    refine .of_table ?_ fun _ h => h
    rw [hk]
    refine .array ?_
    rw [size_writeElement]
    exact Nat.le_max_left _ _
  | false =>
    rw [write_table hpos]
    refine .of_table (.refl _) fun k hk => ?_
    simp only [PropertyTable.get?_insert]
    split
    · rfl
    · exact hk

theorem growsTo_link (o : HeapObject) (prototype : Option ObjectHandle) :
    o.GrowsTo { o with prototype } := .of_table (.refl _) fun _ h => h

end HeapObject

/-! ### Realms -/

namespace Realm

/-- A symbol of the realm. -/
def HasSymbol (r : Realm) (id : SymbolId) : Prop := id.index.toNat < r.symbols.size

/-- A realm has become another, which has the same options, all its objects and all its symbols. -/
structure GrowsTo (r r' : Realm) : Prop where
  options : r'.options = r.options
  size : r.heap.size ≤ r'.heap.size
  objects : ∀ x o, r.heap.object? x = some o → ∃ o', r'.heap.object? x = some o' ∧ o.GrowsTo o'
  symbols : r.symbols.size ≤ r'.symbols.size
  descriptions : ∀ id, r.HasSymbol id → r'.symbolDescription id = r.symbolDescription id

variable {r r' r'' : Realm} {x : ObjectHandle} {v : Value}

namespace GrowsTo

theorem refl (r : Realm) : GrowsTo r r where
  options := rfl
  size := Nat.le_refl _
  objects := fun _ o ho => ⟨o, ho, .refl o⟩
  symbols := Nat.le_refl _
  descriptions := fun _ _ => rfl

theorem hasSymbol {id : SymbolId} (h : GrowsTo r r') (hid : r.HasSymbol id) : r'.HasSymbol id :=
  Nat.lt_of_lt_of_le hid h.symbols

theorem trans (h : GrowsTo r r') (h' : GrowsTo r' r'') : GrowsTo r r'' where
  options := h'.options.trans h.options
  size := Nat.le_trans h.size h'.size
  objects := by
    intro x o ho
    obtain ⟨o', ho', hgrows⟩ := h.objects x o ho
    obtain ⟨o'', ho'', hgrows'⟩ := h'.objects x o' ho'
    exact ⟨o'', ho'', hgrows.trans hgrows'⟩
  symbols := Nat.le_trans h.symbols h'.symbols
  descriptions := fun id hid =>
    (h'.descriptions id (h.hasSymbol hid)).trans (h.descriptions id hid)

theorem contains (h : GrowsTo r r') (hx : r.heap.Contains x) : r'.heap.Contains x :=
  Nat.lt_of_lt_of_le hx h.size

theorem hasFunction (h : GrowsTo r r') (hx : r.heap.HasFunction x) : r'.heap.HasFunction x := by
  obtain ⟨o, ho, hfun⟩ := hx
  obtain ⟨o', ho', hgrows⟩ := h.objects x o ho
  exact ⟨o', ho', hgrows.isFunction.trans hfun⟩

/-- An object is changed to one that has become of it. -/
theorem modify (x : ObjectHandle) {f : HeapObject → HeapObject}
    (hf : ∀ o : HeapObject, o.GrowsTo (f o)) :
    GrowsTo r { r with heap := r.heap.modify x f } where
  options := rfl
  size := Nat.le_of_eq Heap.size_modify.symm
  objects := by
    intro y o ho
    rw [Heap.object?_modify, ho]
    split
    · exact ⟨f o, rfl, hf o⟩
    · exact ⟨o, rfl, .refl o⟩
  symbols := Nat.le_refl _
  descriptions := fun _ _ => rfl

end GrowsTo

theorem Edit.growsTo (h : Edit r r') : GrowsTo r r' := by
  cases h with
  | alloc _ =>
    refine ⟨rfl, ?_, fun x o hx => ⟨o, ?_, .refl o⟩, Nat.le_refl _, fun _ _ => rfl⟩
    · simp only [Heap.size_alloc]
      exact Nat.le_succ _
    · exact (Heap.object?_alloc_of_contains (Heap.contains_of_object? hx)).trans hx
  | write _ _ => exact .modify _ fun o => o.growsTo_write _ _
  | link _ _ _ => exact .modify _ fun o => o.growsTo_link _
  | symbol description =>
    refine ⟨rfl, Nat.le_refl _, fun x o hx => ⟨o, hx, .refl o⟩, ?_, fun id hid => ?_⟩
    · simp only [Array.size_push]
      exact Nat.le_succ _
    · unfold symbolDescription
      rw [Array.getElem?_push, if_neg (Nat.ne_of_lt hid)]
  | foreign =>
    exact ⟨rfl, Nat.le_refl _, fun x o hx => ⟨o, hx, .refl o⟩, Nat.le_refl _, fun _ _ => rfl⟩

/-- One thing that happens to a realm in a run: an edit, or the call depth is set. -/
inductive Evolve : Realm → Realm → Prop
  | edit {r r' : Realm} : Edit r r' → Evolve r r'
  | depth {r : Realm} (n : Nat) : Evolve r { r with callDepth := n }

/-- Any number of edits and call depths. -/
abbrev Evolves : Realm → Realm → Prop := Relation.ReflTransGen Evolve

theorem Edits.evolves (h : Edits r r') : Evolves r r' :=
  Relation.ReflTransGen.mono (fun _ _ => Evolve.edit) _ _ h

theorem Evolves.growsTo (h : Evolves r r') : GrowsTo r r' := by
  induction h with
  | refl => exact .refl r
  | tail _ step ih =>
    refine ih.trans ?_
    cases step with
    | edit hedit => exact hedit.growsTo
    | depth n =>
      exact ⟨rfl, Nat.le_refl _, fun x o hx => ⟨o, hx, .refl o⟩, Nat.le_refl _, fun _ _ => rfl⟩

/-- Binding only adds to a realm. -/
theorem growsTo_bind {callee receiver : Value} {arguments : List Value} {v : Value}
    (h : bind callee receiver arguments r = (.ok v, r')) : GrowsTo r r' := by
  have hedits := edits_bind callee receiver arguments r
  rw [h] at hedits
  exact hedits.evolves.growsTo

/-- What edits keep of a heap is kept when a realm evolves. -/
theorem Evolves.keeps {P : Heap → Prop} (hP : ∀ {r r' : Realm}, Edit r r' → P r.heap → P r'.heap)
    (h : Evolves r r') (hr : P r.heap) : P r'.heap := by
  induction h with
  | refl => exact hr
  | tail _ step ih =>
    cases step with
    | edit hedit => exact hP hedit ih
    | depth n => exact ih

/-- The objects of a fresh realm are ordinary ones. -/
theorem kind_ofOptions {options : Options} {o : HeapObject}
    (ho : (ofOptions options).heap.object? x = some o) : o.kind = .ordinary := by
  have hplain : ∀ o ∈ (ofOptions options).heap.objects, o.kind = .ordinary := by
    simp [ofOptions, Heap.alloc, Heap.empty]
  exact hplain o (Heap.mem_objects ho)

/-! ### New objects and new symbols -/

/-- The operations that answer with an object that they add to the heap. -/
inductive Creates : Action Value → Prop
  | object : Creates createObject
  | withPrototype (prototype : Option ObjectHandle) : Creates (createObjectWithPrototype prototype)
  | record (fields : List (PropertyKey × Value)) : Creates (createRecord fields)
  | array (items : List Value) : Creates (createArray items)
  | function (f : NativeFunction) : Creates (instantiate f)
  | registered (registry : Registry) (name : String) : Creates (instantiateRegistered registry name)
  | exports (registry : Registry) : Creates (loadExports registry)
  | bound (callee receiver : Value) (arguments : List Value) :
      Creates (bind callee receiver arguments)
  | receiver (callee : Value) (arguments : List Value) :
      Creates (do
        let (_, c) ← openCall .construct callee arguments
        pure c.receiver)

/-- The receiver of a construct call is an object made for it. -/
theorem makes_receiver {callee : Value} {arguments : List Value} {f : NativeFunction} {c : Context}
    (h : openCall .construct callee arguments r = (.ok (f, c), r')) : Makes r c.receiver r' := by
  have hlow := callDepth_lt_of_openCall h
  cases hres : r.resolve callee with
  | error e =>
    rw [openCall_unresolved hres] at h
    cases (Prod.mk.inj h).1
  | ok callee' =>
    by_cases hk : callee'.function.constructible = true
    · rw [openCall_construct hres hlow hk] at h
      cases hi : r.instancePrototype callee'.target with
      | error e =>
        rw [hi] at h
        cases (Prod.mk.inj h).1
      | ok prototype =>
        rw [hi] at h
        cases h
        exact ⟨rfl, by simp⟩
    · rw [openCall_notConstructor hres hlow hk] at h
      cases (Prod.mk.inj h).1

/-- What they answer with is the object of the next handle. -/
theorem Creates.answers {a : Action Value} (ha : Creates a) (h : a r = (.ok v, r')) :
    Makes r v r' := by
  cases ha with
  | object => exact (yields_createObject r).of_ok h
  | withPrototype prototype =>
    cases h
    exact ⟨rfl, by simp⟩
  | record fields =>
    cases h
    exact ⟨rfl, by simp⟩
  | array items =>
    cases h
    exact ⟨rfl, by simp⟩
  | function f => exact (yields_instantiate f r).of_ok h
  | registered registry name =>
    unfold instantiateRegistered at h
    cases hf : registry.find? name with
    | none =>
      rw [hf] at h
      cases (Prod.mk.inj h).1
    | some f =>
      rw [hf] at h
      exact (yields_instantiate f r).of_ok h
  | exports registry =>
    obtain ⟨object, r1, h1, h⟩ := Action.ok_of_bind h
    obtain ⟨_, r2, h2, h⟩ := Action.ok_of_bind h
    obtain ⟨hobject, hsize⟩ := (yields_createObject r).of_ok h1
    have hgrows := (edits_loadInto registry object registry.names r1).evolves.growsTo
    rw [h2] at hgrows
    cases h
    exact ⟨hobject, Nat.lt_of_lt_of_le hsize hgrows.size⟩
  | bound callee receiver arguments =>
    obtain ⟨x, -, h⟩ := Action.ok_of_read_bind h
    obtain ⟨length, -, h⟩ := Action.ok_of_read_bind h
    obtain ⟨left, -, h⟩ := Action.ok_of_read_bind h
    obtain ⟨name, -, h⟩ := Action.ok_of_read_bind h
    obtain ⟨o, -, h⟩ := Action.ok_of_read_bind h
    exact (yields_boundFunction _ _ _ r).of_ok h
  | receiver callee arguments =>
    obtain ⟨⟨f, c⟩, r1, hopen, h⟩ := Action.ok_of_bind h
    cases h
    exact makes_receiver hopen

theorem Creates.edits {a : Action Value} (ha : Creates a) (r : Realm) : Edits r (a r).2 := by
  cases ha with
  | object => exact edits_createObjectWithPrototype (some r.objectPrototype) r
  | withPrototype prototype => exact edits_createObjectWithPrototype prototype r
  | record fields => exact edits_createRecord fields r
  | array items => exact edits_createArray items r
  | function f => exact edits_instantiate f r
  | registered registry name => exact edits_instantiateRegistered registry name r
  | exports registry => exact edits_loadExports registry r
  | bound callee receiver arguments => exact edits_bind callee receiver arguments r
  | receiver callee arguments =>
    exact Edits.bind (edits_openCall .construct callee arguments) (fun _ _ => .refl) r

/-- A new object or a new symbol: an operation answers with it, or it is an object that an operation
adds on its way. -/
inductive Introduces (r : Realm) : Value → Realm → Prop
  | object {a : Action Value} {v : Value} {r' : Realm} :
      Creates a → a r = (.ok v, r') → Introduces r v r'
  | symbol {description : Option String} {v : Value} {r' : Realm} :
      createSymbol description r = (.ok v, r') → Introduces r v r'
  | alloc {o : HeapObject} : r.heap.WellMade o →
      Introduces r (.object (r.heap.alloc o).1) { r with heap := (r.heap.alloc o).2 }

theorem Introduces.evolves (h : r.Introduces v r') : Evolves r r' := by
  cases h with
  | object ha h =>
    have hedits := ha.edits r
    rw [h] at hedits
    exact hedits.evolves
  | @symbol description v r' h =>
    cases h
    exact .single (.edit (.symbol description))
  | alloc ho => exact .single (.edit (.alloc ho))

/-- A value is an object or a symbol of the realm. -/
def Names (r : Realm) : Value → Prop
  | .object x => r.heap.Contains x
  | .symbol id => r.HasSymbol id
  | _ => False

theorem GrowsTo.names (h : GrowsTo r r') (hv : r.Names v) : r'.Names v := by
  cases v with
  | object x => exact h.contains hv
  | symbol id => exact h.hasSymbol hv
  | _ => exact hv

/-- While handles and ids are left, what is new was not in the realm before. -/
theorem Introduces.fresh (h : r.Introduces v r') (hsize : r'.heap.size < UInt32.size)
    (hsymbols : r'.symbols.size < UInt32.size) : ¬ r.Names v ∧ r'.Names v := by
  cases h with
  | object ha h =>
    have hmakes := ha.answers h
    rw [hmakes.value]
    exact ⟨Heap.not_contains_nextHandle (Nat.lt_trans hmakes.size hsize), hmakes.contains⟩
  | symbol h =>
    cases h
    simp only [Array.size_push] at hsymbols
    have hindex : r.symbols.size.toUInt32.toNat = r.symbols.size :=
      UInt32.toNat_ofNat_of_lt' (Nat.lt_of_succ_lt hsymbols)
    simp only [Names, HasSymbol, hindex, Array.size_push]
    exact ⟨Nat.lt_irrefl _, Nat.lt_succ_self _⟩
  | alloc _ =>
    simp only [Heap.size_alloc] at hsize
    exact ⟨Heap.not_contains_nextHandle (Nat.lt_of_succ_lt hsize), Heap.contains_nextHandle⟩

/-- The well-known symbols are symbols of every realm. -/
theorem hasSymbol_wellKnown {options : Options} (h : Evolves (ofOptions options) r)
    (w : WellKnownSymbol) : r.HasSymbol w.id := by
  have hfresh : (ofOptions options).HasSymbol w.id := by
    show w.id.index.toNat < 3
    cases w <;> decide
  exact h.growsTo.hasSymbol hfresh

end Realm

/-! ### Bound functions -/

/-- The target of a bound function is a function that was there before it. -/
def Heap.Grounded (h : Heap) : Prop :=
  ∀ x o b, h.object? x = some o → o.kind = .bound b →
    h.HasFunction b.target ∧ b.target.index.toNat < x.index.toNat

namespace Realm

variable {r r' : Realm} {x : ObjectHandle} {v : Value}

theorem Edit.grounded (h : Edit r r') (hg : r.heap.Grounded) : r'.heap.Grounded := by
  have hgrows := h.growsTo
  -- an object of the realm before answers for what has become of it
  have keep : ∀ x o o' b, r.heap.object? x = some o → o.GrowsTo o' → o'.kind = .bound b →
      r'.heap.HasFunction b.target ∧ b.target.index.toNat < x.index.toNat := by
    intro x o o' b ho hoo hb
    obtain ⟨hfun, hlt⟩ := hg x o b ho (hoo.of_bound hb)
    exact ⟨hgrows.hasFunction hfun, hlt⟩
  have modified : ∀ (y : ObjectHandle) (f : HeapObject → HeapObject),
      (∀ o : HeapObject, o.GrowsTo (f o)) → r'.heap = r.heap.modify y f → r'.heap.Grounded := by
    intro y f hf heq x o' b ho' hb
    rw [heq, Heap.object?_modify] at ho'
    split at ho'
    · obtain ⟨o, ho, rfl⟩ := Option.map_eq_some_iff.mp ho'
      exact keep x o _ b ho (hf o) hb
    · exact keep x o' o' b ho' (.refl o') hb
  cases h with
  | @alloc o hmade =>
    intro x o' b ho' hb
    rw [Heap.object?_alloc] at ho'
    split at ho'
    · rename_i hx
      cases ho'
      have hfun := hmade.target b hb
      obtain ⟨t, ht, -⟩ := hfun
      refine ⟨hgrows.hasFunction (hmade.target b hb), ?_⟩
      rw [hx]
      exact Heap.contains_of_object? ht
    · exact keep x o' o' b ho' (.refl o') hb
  | write _ _ => exact modified _ _ (fun o => o.growsTo_write _ _) rfl
  | link _ _ _ => exact modified _ _ (fun o => o.growsTo_link _) rfl
  | symbol _ => exact hg
  | foreign => exact hg

theorem Evolves.grounded (h : Evolves r r') (hg : r.heap.Grounded) : r'.heap.Grounded :=
  h.keeps Edit.grounded hg

/-- A fresh realm has no bound function. -/
theorem grounded_ofOptions (options : Options) : (ofOptions options).heap.Grounded := by
  intro x o b ho hb
  rw [kind_ofOptions ho] at hb
  cases hb

/-! ### What is decided about a value -/

namespace GrowsTo

/-- Whether a function constructs is decided by functions that are there. -/
theorem constructsWithin (h : GrowsTo r r') (hg : r.heap.Grounded) :
    ∀ (layers : Nat) (x : ObjectHandle), r.heap.Contains x →
      Realm.constructsWithin r'.heap layers x = Realm.constructsWithin r.heap layers x
  | 0, _, _ => rfl
  | layers + 1, x, hx => by
    obtain ⟨o, ho⟩ := Heap.contains_iff.mp hx
    obtain ⟨o', ho', hgrows⟩ := h.objects x o ho
    have hkind := hgrows.kind
    have htarget := hg x o
    unfold Realm.constructsWithin
    rw [ho, ho']
    simp only [Option.map_some]
    generalize o.kind = k at hkind htarget
    generalize o'.kind = k' at hkind
    cases hkind with
    | bound b =>
      obtain ⟨⟨t, ht, -⟩, -⟩ := htarget b ho rfl
      exact constructsWithin h hg layers b.target (Heap.contains_of_object? ht)
    | _ => rfl

theorem isCallable (h : GrowsTo r r') (hv : ∀ x ∈ v.handles, r.heap.Contains x) :
    r'.isCallable v = r.isCallable v := by
  cases v with
  | object x =>
    obtain ⟨o, ho⟩ := Heap.contains_iff.mp (hv x (List.mem_singleton.mpr rfl))
    obtain ⟨o', ho', hgrows⟩ := h.objects x o ho
    unfold Realm.isCallable typeOf
    simp only [ho, ho', hgrows.isFunction]
  | _ => rfl

theorem isBoundFunction (h : GrowsTo r r') (hv : ∀ x ∈ v.handles, r.heap.Contains x) :
    r'.isBoundFunction v = r.isBoundFunction v := by
  cases v with
  | object x =>
    obtain ⟨o, ho⟩ := Heap.contains_iff.mp (hv x (List.mem_singleton.mpr rfl))
    obtain ⟨o', ho', hgrows⟩ := h.objects x o ho
    unfold Realm.isBoundFunction
    simp only [ho, ho', Option.any_some, hgrows.isBound]
  | _ => rfl

theorem isConstructor (h : GrowsTo r r') (hg : r.heap.Grounded)
    (hv : ∀ x ∈ v.handles, r.heap.Contains x) : r'.isConstructor v = r.isConstructor v := by
  cases v with
  | object x =>
    unfold Realm.isConstructor
    rw [h.options]
    exact h.constructsWithin hg _ x (hv x (List.mem_singleton.mpr rfl))
  | _ => rfl

end GrowsTo
end Realm
end Invocation
