/-
# Ropes

A `Rope` is a string that may put off joining its parts. A flat rope is a text;
a lazy one holds its two parts and its length in bytes, and keeps its text from
the first time that somebody reads it. Joining two ropes keeps the result flat
below a given length and lazy from there on, and joining with an empty rope gives
the other rope back.

Reading goes down the left spine of a rope, where it collects the right parts, and
then appends what it collected from left to right. It stops at every part that is
flat or keeps its text. So a rope grown by appending needs no depth; only right
parts nest.

Lengths are 64 bit words, and a text has less than `Checked.capacity` bytes. The
functions named `checked...` panic where a length does not fit or a text is too
long; this is what a realm does. The others say what the result is where there is
one, and take a sum of lengths as the word that is left of it.

Key definitions: `Rope.concat`, `Rope.appendTo`, `Rope.flatten`, `Rope.remember`,
`Rope.checkedConcat`, `Rope.checkedFlatten`, `Rope.checkedEq`, `Rope.content`,
`Rope.Faithful`.
Key theorems: `Rope.appendTo_eq`, `Rope.flatten_eq_content`, `Rope.faithful_concat`,
`Rope.faithful_remember`.
-/
import Invocation.Checked

namespace Invocation

/-- A string that is flat, or the lazy join of two strings, which may keep its text. -/
inductive Rope where
  | flat (text : String)
  | lazy (left right : Rope) (length : UInt64) (kept : Option String)

instance : Inhabited Rope := ⟨.flat ""⟩

namespace Rope

/-- The length in bytes of the UTF-8 text, as a 64 bit word. -/
def length : Rope → UInt64
  | .flat s => s.utf8ByteSize.toUInt64
  | .lazy _ _ n _ => n

def isEmpty (r : Rope) : Bool := r.length == 0

/-- Whether the rope was built as a join that was put off; reading it changes nothing about that. -/
def isLazy : Rope → Bool
  | .flat _ => false
  | .lazy .. => true

/-! ### Reading -/

/-- What hangs off the left spine of a rope, from left to right, followed by `rest`. The spine ends
at a part that is flat or keeps its text. -/
def leftSpine : Rope → List Rope → List Rope
  | .flat s, rest => .flat s :: rest
  | .lazy l r n (some s), rest => .lazy l r n (some s) :: rest
  | .lazy l r _ none, rest => l.leftSpine (r :: rest)

theorem sizeOf_lazy (l r : Rope) (n : UInt64) (kept : Option String) :
    sizeOf l + sizeOf r < sizeOf (lazy l r n kept) := by
  simp only [Rope.lazy.sizeOf_spec]
  omega

theorem sizeOf_le_of_mem_leftSpine {part : Rope} : ∀ (r : Rope) {rest : List Rope},
    part ∈ r.leftSpine rest → sizeOf part ≤ sizeOf r ∨ part ∈ rest
  | .flat _, rest, h => by
    rcases List.mem_cons.mp h with rfl | h
    · exact .inl (Nat.le_refl _)
    · exact .inr h
  | .lazy _ _ _ (some _), rest, h => by
    rcases List.mem_cons.mp h with rfl | h
    · exact .inl (Nat.le_refl _)
    · exact .inr h
  | .lazy l r n none, rest, h => by
    have hsize := sizeOf_lazy l r n none
    rcases sizeOf_le_of_mem_leftSpine l h with hl | h
    · exact .inl (by omega)
    · rcases List.mem_cons.mp h with rfl | h
      · exact .inl (by omega)
      · exact .inr h

theorem sizeOf_lt_of_mem_leftSpine {l r part : Rope} (n : UInt64) (kept : Option String)
    (h : part ∈ l.leftSpine [r]) : sizeOf part < sizeOf (lazy l r n kept) := by
  have hsize := sizeOf_lazy l r n kept
  rcases sizeOf_le_of_mem_leftSpine l h with hl | hr
  · omega
  · rw [List.mem_singleton.mp hr]
    omega

/-- Appends the text of a rope to `out`. -/
def appendTo : Rope → String → String
  | .flat s, out => out ++ s
  | .lazy _ _ _ (some s), out => out ++ s
  | .lazy l r _ none, out =>
    (l.leftSpine [r]).attach.foldl (fun out part => part.1.appendTo out) out
termination_by r => sizeOf r
decreasing_by exact sizeOf_lt_of_mem_leftSpine _ _ part.2

/-- The whole text. -/
def flatten : Rope → String
  | .flat s => s
  | .lazy _ _ _ (some s) => s
  | .lazy l r n none => (lazy l r n none).appendTo ""

/-- The whole text, unless it is to be made and is too long. -/
def checkedFlatten : Rope → Except Fault String
  | .flat s => .ok s
  | .lazy _ _ _ (some s) => .ok s
  | .lazy l r n none => do
    Checked.reserve n
    pure ((lazy l r n none).appendTo "")

/-- The same rope after it was read. -/
def remember : Rope → Rope
  | .flat s => .flat s
  | .lazy l r n kept => .lazy l r n (lazy l r n kept).checkedFlatten.toOption

/-! ### Joining -/

/-- Joins two ropes: the result is flat below `lazyFrom` bytes and lazy from there on. An empty
operand gives the other one back as it is. -/
def concat (lazyFrom : Nat) (l r : Rope) : Rope :=
  if l.isEmpty then r
  else if r.isEmpty then l
  else
    let n := l.length + r.length
    if n.toNat < lazyFrom then .flat (l.flatten ++ r.flatten) else .lazy l r n none

/-- Joins two ropes, unless their lengths have no sum or the result is to be flat and too long. -/
def checkedConcat (lazyFrom : Nat) (l r : Rope) : Except Fault Rope :=
  if l.isEmpty then .ok r
  else if r.isEmpty then .ok l
  else do
    let n ← Checked.add l.length r.length
    if n.toNat < lazyFrom then
      Checked.reserve n
      let left ← l.checkedFlatten
      let right ← r.checkedFlatten
      pure (.flat (left ++ right))
    else pure (.lazy l r n none)

/-! ### Comparing -/

/-- Whether two ropes have the same length and text. A rope is not read to be compared
with itself. -/
def sameText (a b : Rope) : Bool :=
  withPtrEq a b (fun _ => a.length == b.length && a.flatten == b.flatten) (by simp +contextual)

/-- Whether two ropes have the same length and text, where `shared` says that they are one and the
same in memory. Only ropes of equal lengths are read, and none that is compared with itself. -/
def checkedEq (shared : Bool) (a b : Rope) : Except Fault Bool :=
  if shared then .ok true
  else if a.length == b.length then do
    let s ← a.checkedFlatten
    let t ← b.checkedFlatten
    pure (s == t)
  else .ok false

/-- Whether a rope has the text `s`. -/
def checkedIsText (r : Rope) (s : String) : Except Fault Bool :=
  if r.length == s.utf8ByteSize.toUInt64 then r.checkedFlatten.map (· == s) else .ok false

/-! ### Content

The text that a rope stands for, read off its leaves and from nothing that was kept. -/

/-- The texts at the leaves, from left to right. -/
def leaves : Rope → List String
  | .flat s => [s]
  | .lazy l r _ _ => l.leaves ++ r.leaves

def content (r : Rope) : String := String.join r.leaves

@[simp] theorem content_flat (s : String) : (flat s).content = s := by
  simp [content, leaves]

@[simp] theorem content_lazy (l r : Rope) (n : UInt64) (kept : Option String) :
    (lazy l r n kept).content = l.content ++ r.content := by
  simp [content, leaves]

/-- Every text that is kept is the text at the leaves below it. -/
def Faithful : Rope → Prop
  | .flat _ => True
  | .lazy l r _ kept => l.Faithful ∧ r.Faithful ∧ ∀ s ∈ kept, s = l.content ++ r.content

/-- What hangs off the left spine of a faithful rope is faithful, and has its content. -/
theorem content_leftSpine : ∀ {r : Rope}, r.Faithful → ∀ rest : List Rope,
    (∀ part ∈ rest, part.Faithful) → (∀ part ∈ r.leftSpine rest, part.Faithful) ∧
      String.join ((r.leftSpine rest).map content) =
        r.content ++ String.join (rest.map content)
  | .flat s, h, rest, hrest => ⟨List.forall_mem_cons.mpr ⟨h, hrest⟩, String.join_cons ..⟩
  | .lazy l r n (some s), h, rest, hrest =>
    ⟨List.forall_mem_cons.mpr ⟨h, hrest⟩, String.join_cons ..⟩
  | .lazy l r n none, h, rest, hrest => by
    obtain ⟨hparts, hjoin⟩ :=
      content_leftSpine h.1 (r :: rest) (List.forall_mem_cons.mpr ⟨h.2.1, hrest⟩)
    refine ⟨hparts, ?_⟩
    rw [leftSpine, hjoin, List.map_cons, String.join_cons, content_lazy, String.append_assoc]

theorem foldl_appendTo : ∀ {parts : List Rope},
    (∀ part ∈ parts, ∀ out, part.appendTo out = out ++ part.content) → ∀ out,
    parts.foldl (fun out part => part.appendTo out) out = out ++ String.join (parts.map content)
  | [], _, out => String.append_empty.symm
  | part :: parts, h, out => by
    obtain ⟨hpart, hparts⟩ := List.forall_mem_cons.mp h
    rw [List.foldl_cons, foldl_appendTo hparts, hpart, List.map_cons, String.join_cons,
      String.append_assoc]

theorem appendTo_lazy (l r : Rope) (n : UInt64) (out : String) :
    (lazy l r n none).appendTo out =
      (l.leftSpine [r]).foldl (fun out part => part.appendTo out) out := by
  rw [appendTo]
  exact List.foldl_attach (f := fun (out : String) (part : Rope) => part.appendTo out)

theorem appendTo_eq (r : Rope) (h : r.Faithful) (out : String) :
    r.appendTo out = out ++ r.content := by
  match r, h with
  | .flat s, _ => rw [appendTo, content_flat]
  | .lazy l r n (some s), h => rw [appendTo, content_lazy, h.2.2 s rfl]
  | .lazy l r n none, h =>
    obtain ⟨hparts, hjoin⟩ :=
      content_leftSpine h.1 [r] (List.forall_mem_singleton.mpr h.2.1)
    have heach : ∀ part ∈ l.leftSpine [r], ∀ out, part.appendTo out = out ++ part.content :=
      fun part hpart => appendTo_eq part (hparts part hpart)
    rw [appendTo_lazy, foldl_appendTo heach, hjoin, content_lazy, List.map_singleton,
      String.join_cons, String.join_nil, String.append_empty]
termination_by sizeOf r
decreasing_by exact sizeOf_lt_of_mem_leftSpine _ _ hpart

theorem flatten_eq_content : ∀ r : Rope, r.Faithful → r.flatten = r.content
  | .flat s, _ => (content_flat s).symm
  | .lazy l r n (some s), h => (h.2.2 s rfl).trans (content_lazy ..).symm
  | .lazy l r n none, h => by rw [flatten, appendTo_eq _ h, String.empty_append]

/-- A rope is read as its text, unless that is to be made and is too long. -/
theorem checkedFlatten_eq : ∀ r : Rope, r.checkedFlatten = .ok r.flatten ∨
    Checked.capacity ≤ r.length.toNat ∧ r.checkedFlatten = .error (.panic .capacity)
  | .flat _ => .inl rfl
  | .lazy _ _ _ (some _) => .inl rfl
  | .lazy l r n none => by
    rw [checkedFlatten, flatten]
    by_cases hn : n.toNat < Checked.capacity
    · rw [Checked.reserve_of_lt hn]
      exact .inl rfl
    · rw [Checked.reserve_of_not_lt hn]
      exact .inr ⟨Nat.not_lt.mp hn, rfl⟩

theorem checkedFlatten_of_lt {r : Rope} (h : r.length.toNat < Checked.capacity) :
    r.checkedFlatten = .ok r.flatten :=
  r.checkedFlatten_eq.resolve_right fun hlong => Nat.not_lt.mpr hlong.1 h

theorem flatten_of_checkedFlatten {r : Rope} {s : String} (h : r.checkedFlatten = .ok s) :
    s = r.flatten := by
  rcases r.checkedFlatten_eq with hok | ⟨-, hpanic⟩
  · exact Except.ok.inj (h.symm.trans hok)
  · rw [hpanic] at h
    cases h

theorem panic_of_checkedFlatten {r : Rope} {e : Fault} (h : r.checkedFlatten = .error e) :
    e = .panic .capacity := by
  rcases r.checkedFlatten_eq with hok | ⟨-, hpanic⟩
  · rw [hok] at h
    cases h
  · exact Except.error.inj (h.symm.trans hpanic)

theorem faithful_concat {l r : Rope} (lazyFrom : Nat) (hl : l.Faithful) (hr : r.Faithful) :
    (concat lazyFrom l r).Faithful := by
  unfold concat
  split
  · exact hr
  · split
    · exact hl
    · simp only
      split
      · trivial
      · exact ⟨hl, hr, fun _ h => by cases h⟩

/-- Reading a rope leaves it as it is, or with its text kept. -/
theorem remember_cases : ∀ r : Rope, r.remember = r ∨
    ∃ left right n kept, r = lazy left right n kept ∧ r.checkedFlatten = .ok r.flatten ∧
      r.remember = lazy left right n (some r.flatten)
  | .flat _ => .inl rfl
  | .lazy l r n (some _) => .inr ⟨l, r, n, _, rfl, rfl, rfl⟩
  | .lazy l r n none => by
    rw [remember]
    rcases checkedFlatten_eq (lazy l r n none) with hok | ⟨-, hpanic⟩
    · rw [hok]
      exact .inr ⟨l, r, n, none, rfl, rfl, rfl⟩
    · rw [hpanic]
      exact .inl rfl

theorem faithful_remember {r : Rope} (h : r.Faithful) : r.remember.Faithful := by
  obtain hsame | ⟨left, right, n, kept, rfl, -, hkept⟩ := remember_cases r
  · rwa [hsame]
  · rw [hkept, flatten_eq_content _ h, content_lazy]
    exact ⟨h.1, h.2.1, fun s hs => (Option.some.inj hs).symm⟩

theorem flatten_remember (r : Rope) : r.remember.flatten = r.flatten := by
  obtain hsame | ⟨left, right, n, kept, -, -, hkept⟩ := remember_cases r
  · rw [hsame]
  · rw [hkept, flatten]

end Rope
end Invocation
