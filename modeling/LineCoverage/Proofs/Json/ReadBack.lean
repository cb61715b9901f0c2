import LineCoverage.Proofs.Json.Tokens
/-! The reader takes back what the writer writes.

`Shape.TakesBack s depth v` says that the reader of shape `s`, allowed `depth` more open arrays
and objects, reads the written form of `v` back as `v` from any cursor where it stands, given
more fuel than the form has bytes plus the shape's height. It is established twice: for values
of the wire format's own type under the shape that keeps any value (`Value.Fits`), and for the
values a shape describes (`Shape.Admits`). Arrays and objects are read by loops over their
items and entries; each loop is proved once, over items that are taken back, and the two
inductions only supply the items.

The nesting bound is the reader's: a container opened with one level left is refused, so a
value that nests `d` containers needs `d + 1` levels.
-/

set_option autoImplicit false

namespace LineCoverage.Json

open Text.Utf8 (toUTF8_toList)

/-! ## What is read back -/

/-- A value of the wire format's type nesting at most `depth` arrays and objects: its numbers
are integers of 64 bits, a natural number below 2^64 or a negative integer not below -2^63,
and every object holds its keys in strictly increasing order. -/
inductive Value.Fits : Nat → Value → Prop
  | null {depth : Nat} : Fits depth .null
  | bool {depth : Nat} (b : Bool) : Fits depth (.bool b)
  | nat {depth n : Nat} (small : n < 2 ^ 64) : Fits depth (.number (.nat n))
  | int {depth : Nat} {i : Int} (negative : i < 0) (small : -2 ^ 63 ≤ i) :
      Fits depth (.number (.int i))
  | string {depth : Nat} (s : String) : Fits depth (.string s)
  | array {depth : Nat} {items : List Value} (each : ∀ v ∈ items, Fits depth v) :
      Fits (depth + 1) (.array items)
  | object {depth : Nat} {fields : List (String × Value)}
      (sorted : (fields.map (·.1)).Pairwise (· < ·)) (each : ∀ e ∈ fields, Fits depth e.2) :
      Fits (depth + 1) (.object fields)

mutual
/-- How many reads a shape may take before it reaches a byte: one for each shape around
another. -/
def Shape.height : Shape → Nat
  | .optional s => s.height + 1
  | .list s => s.height + 1
  | .record _ fields => fieldsHeight fields + 1
  | _ => 0

def fieldsHeight : List (String × Bool × Shape) → Nat
  | [] => 0
  | (_, _, s) :: rest => max s.height (fieldsHeight rest)
end

/-- The values the reader of shape `s` takes back from their written form with `depth` more
arrays and objects allowed to open: any value of the wire format for `any`, a string, a
count below 2^64, `null` or a present value for an optional shape, an array of values of its
item shape, and a record written as an object with its fields in order. -/
inductive Shape.Admits : Shape → Nat → Value → Prop
  | any {depth : Nat} {v : Value} (fits : v.Fits depth) : Admits .any depth v
  | text {depth : Nat} (s : String) : Admits .text depth (.string s)
  | count {depth n : Nat} (small : n < 2 ^ 64) : Admits .count depth (.number (.nat n))
  | none {depth : Nat} {s : Shape} : Admits (.optional s) depth .null
  | some {depth : Nat} {s : Shape} {v : Value} (inner : Admits s depth v) (present : v ≠ .null) :
      Admits (.optional s) depth v
  | list {depth : Nat} {s : Shape} {items : List Value} (each : ∀ v ∈ items, Admits s depth v) :
      Admits (.list s) (depth + 1) (.array items)
  | record {depth : Nat} {name : String} {fields : List (String × Bool × Shape)}
      {entries : List (String × Value)} (names : entries.map (·.1) = fields.map (·.1))
      (distinct : (fields.map (·.1)).Nodup)
      (each : ∀ e ∈ entries, ∀ f ∈ fields, f.1 = e.1 → Admits f.2.2 depth e.2) :
      Admits (.record name fields) (depth + 1) (.object entries)

def Opening (b : UInt8) : Prop :=
  b = 110 ∨ b = 116 ∨ b = 102 ∨ b = 45 ∨ b = 34 ∨ b = 91 ∨ b = 123 ∨
    (48 ≤ b.toNat ∧ b.toNat ≤ 57)

/-- The reader of shape `s`, with `depth` levels, takes `v` back from its written form followed
by anything that may follow a value, given more fuel than the form has bytes plus the shape's
height. The form starts with a byte that opens a value, and with `n` only for `null`. -/
def Shape.TakesBack (s : Shape) (depth : Nat) (v : Value) : Prop :=
  (∃ b r, v.render.toUTF8.toList = b :: r ∧ Opening b ∧ (b = 110 → v = .null)) ∧
    ∀ (fuel : Nat) (c : Cursor) (t : List UInt8), c.rest = v.render.toUTF8.toList ++ t →
      AfterValue t → v.render.toUTF8.toList.length + s.height < fuel →
      ∃ e : Cursor, e.rest = t ∧ readShape fuel depth s c = .ok (v, e)

def entryBytes (e : String × Value) : List UInt8 :=
  (quote e.1).toUTF8.toList ++ 58 :: e.2.render.toUTF8.toList

/-! ## The written forms -/

theorem bytes_append (a b : String) :
    (a ++ b).toUTF8.toList = a.toUTF8.toList ++ b.toUTF8.toList := by
  rw [toUTF8_toList, toUTF8_toList, toUTF8_toList, String.toList_append, List.flatMap_append]

theorem render_array (items : List Value) :
    (Value.array items).render.toUTF8.toList = 91 :: ((renderItems items).toUTF8.toList ++ [93]) := by
  rw [Value.render, bytes_append, bytes_append, toUTF8_toList "[", toUTF8_toList "]"]
  rfl

theorem render_object (fields : List (String × Value)) :
    (Value.object fields).render.toUTF8.toList =
      123 :: ((renderFields fields).toUTF8.toList ++ [125]) := by
  rw [Value.render, bytes_append, bytes_append, toUTF8_toList "\x7b", toUTF8_toList "\x7d"]
  rfl

theorem comma_bytes : (",".toUTF8.toList : List UInt8) = [44] := by
  rw [toUTF8_toList]
  rfl

theorem colon_bytes : (":".toUTF8.toList : List UInt8) = [58] := by
  rw [toUTF8_toList]
  rfl

theorem renderItems_cons (v : Value) (vs : List Value) :
    (renderItems (v :: vs)).toUTF8.toList =
      v.render.toUTF8.toList ++ vs.flatMap fun w => 44 :: w.render.toUTF8.toList := by
  induction vs generalizing v with
  | nil => rw [renderItems, List.flatMap_nil, List.append_nil]
  | cons w ws ih =>
    rw [renderItems.eq_3 _ _ (List.cons_ne_nil w ws), bytes_append, bytes_append, ih,
      List.flatMap_cons, comma_bytes]
    simp only [List.append_assoc, List.cons_append, List.nil_append]

theorem renderFields_cons (e : String × Value) (es : List (String × Value)) :
    (renderFields (e :: es)).toUTF8.toList = entryBytes e ++ es.flatMap fun f => 44 :: entryBytes f := by
  induction es generalizing e with
  | nil =>
    rw [renderFields, List.flatMap_nil, List.append_nil, bytes_append, bytes_append, colon_bytes]
    simp [entryBytes]
  | cons f fs ih =>
    rw [renderFields.eq_3 _ _ _ (List.cons_ne_nil f fs), bytes_append, bytes_append, bytes_append,
      bytes_append, ih, List.flatMap_cons, colon_bytes, comma_bytes]
    simp [entryBytes]

theorem renderItems_eq (items : List Value) :
    renderItems items = ",".intercalate (items.map Value.render) := by
  induction items with
  | nil => rfl
  | cons v vs ih =>
    cases vs with
    | nil => rw [renderItems, List.map_singleton, String.intercalate_singleton]
    | cons w ws =>
      rw [renderItems.eq_3 _ _ (List.cons_ne_nil w ws), ih, List.map_cons, List.map_cons,
        List.map_cons, String.intercalate_cons_cons]

theorem renderFields_eq (fields : List (String × Value)) :
    renderFields fields = ",".intercalate (fields.map fun e => quote e.1 ++ ":" ++ e.2.render) := by
  induction fields with
  | nil => rfl
  | cons e es ih =>
    cases es with
    | nil => rw [renderFields, List.map_singleton, String.intercalate_singleton]
    | cons f fs =>
      rw [renderFields.eq_3 _ _ _ (List.cons_ne_nil f fs), ih, List.map_cons, List.map_cons,
        List.map_cons, String.intercalate_cons_cons]

theorem Opening.solid {b : UInt8} (h : Opening b) : isBlankByte b = false ∧ b ≠ 93 ∧ b ≠ 125 ∧ b ≠ 44 := by
  have byte : ∀ x : UInt8, b = x → b.toNat = x.toNat := fun x eq => by rw [eq]
  unfold Opening at h
  unfold isBlankByte
  rcases h with rfl | rfl | rfl | rfl | rfl | rfl | rfl | ⟨low, high⟩
  any_goals decide
  refine ⟨?_, fun eq => ?_, fun eq => ?_, fun eq => ?_⟩
  · simp only [Bool.or_eq_false_iff, decide_eq_false_iff_not]
    refine ⟨⟨⟨fun eq => ?_, fun eq => ?_⟩, fun eq => ?_⟩, fun eq => ?_⟩ <;> have := byte _ eq <;>
      simp only [UInt8.reduceToNat] at this <;> omega
  all_goals have := byte _ eq; simp only [UInt8.reduceToNat] at this; omega

theorem afterValue_commas {α : Type} (xs : List α) (bytes : α → List UInt8) {close : UInt8}
    (closing : close = 93 ∨ close = 125) (t : List UInt8) :
    AfterValue (xs.flatMap (fun x => 44 :: bytes x) ++ close :: t) := by
  intro b mem
  cases xs with
  | nil =>
    simp only [List.flatMap_nil, List.nil_append, List.head?_cons, Option.mem_def,
      Option.some.injEq] at mem
    exact .inr (mem ▸ closing)
  | cons x xs =>
    simp only [List.flatMap_cons, List.cons_append, List.head?_cons, Option.mem_def,
      Option.some.injEq] at mem
    exact .inl mem.symm

/-! ## Opening and closing a container -/

theorem enter_eq_ok (depth : Nat) (c : Cursor) : enter (depth + 2) c = .ok (depth + 1) := by
  unfold enter
  rw [if_neg (by omega)]
  rfl

theorem endList_eq_ok (c : Cursor) (t : List UInt8) (h : c.rest = 93 :: t) :
    endList c = .ok ((), c.advance) := by
  rw [endList, Cursor.skipBlanks_of_cons h rfl, h]
  rfl

theorem endObject_eq_ok (c : Cursor) (t : List UInt8) (h : c.rest = 125 :: t) :
    endObject c = .ok ((), c.advance) := by
  rw [endObject, Cursor.skipBlanks_of_cons h rfl, h]
  rfl

theorem closeWith_eq_ok {α : Type} {contents : Step α} {close : Cursor → Step Unit} {v : α}
    {c d : Cursor} (read : contents = .ok (v, c)) (closed : close c = .ok ((), d)) :
    closeWith contents close = .ok (v, d) := by
  simp only [closeWith, read, closed]

/-! ## The items of an array -/

section Items

variable {depth : Nat} {item : Shape}

theorem readItems_close (acc : List Value) (first : Bool) (fuel : Nat) (c : Cursor) (t : List UInt8)
    (h : c.rest = 93 :: t) : readItems (fuel + 1) depth item acc first c = .ok (acc.reverse, c) := by
  rw [readItems, Cursor.skipBlanks_of_cons h rfl, h]
  rfl

theorem readItems_step {v : Value} (back : item.TakesBack depth v) (acc : List Value) (first : Bool)
    (fuel : Nat) (c : Cursor) (t : List UInt8)
    (h : c.rest = (if first then [] else [44]) ++ v.render.toUTF8.toList ++ t) (after : AfterValue t)
    (enough : v.render.toUTF8.toList.length + item.height < fuel) :
    ∃ e : Cursor, e.rest = t ∧
      readItems (fuel + 1) depth item acc first c = readItems fuel depth item (v :: acc) false e := by
  obtain ⟨⟨b, r, bytes, opening, -⟩, reads⟩ := back
  obtain ⟨solid, notClose, -, notComma⟩ := opening.solid
  rw [bytes] at reads h enough
  -- where the item starts: here, or after the comma
  obtain ⟨d, start, next⟩ : ∃ d : Cursor, d.rest = b :: r ++ t ∧ ∃ b', c.rest = b' :: (c.rest.tail) ∧
      b' ≠ 93 ∧ isBlankByte b' = false ∧ nextItem first b' c = .ok d := by
    cases first
    · have comma : c.rest = 44 :: (b :: r ++ t) := by rw [h]; rfl
      have skipped : c.advance.skipBlanks = c.advance :=
        Cursor.skipBlanks_of_cons (by rw [Cursor.advance_rest, comma]; rfl) solid
      refine ⟨c.advance, by rw [Cursor.advance_rest, comma]; rfl, 44, by rw [comma]; rfl,
        by decide, rfl, ?_⟩
      have at_item : c.advance.rest = b :: (r ++ t) := by rw [Cursor.advance_rest, comma]; rfl
      rw [nextItem, if_pos (by decide), skipped]
      dsimp only
      rw [at_item]
      split
      · rename_i heq
        exact absurd (List.cons.inj heq).1 notClose
      · rename_i heq
        cases heq
      · rfl
    · refine ⟨c, by rw [h]; rfl, b, by rw [h]; rfl, notClose, solid, ?_⟩
      rw [nextItem, if_neg (by simp), if_pos rfl]
  obtain ⟨b', shape, notClose', solid', nextOk⟩ := next
  obtain ⟨e, rest, read⟩ := reads fuel d t start after enough
  refine ⟨e, rest, ?_⟩
  rw [readItems, Cursor.skipBlanks_of_cons shape solid']
  split
  · rename_i heq
    rw [shape] at heq
    cases heq
  · rename_i heq
    rw [shape] at heq
    exact absurd (List.cons.inj heq).1 notClose'
  · rename_i b'' _ heq
    rw [shape] at heq
    obtain ⟨rfl, -⟩ := List.cons.inj heq
    simp only [nextOk, read]

variable (t : List UInt8)

theorem readItems_rest (vs : List Value) (back : ∀ v ∈ vs, item.TakesBack depth v) :
    ∀ (acc : List Value) (fuel : Nat) (c : Cursor),
      c.rest = vs.flatMap (fun v => 44 :: v.render.toUTF8.toList) ++ 93 :: t →
      (vs.flatMap fun v => 44 :: v.render.toUTF8.toList).length + 1 + item.height < fuel →
      ∃ e : Cursor, e.rest = 93 :: t ∧
        readItems fuel depth item acc false c = .ok (acc.reverse ++ vs, e) := by
  induction vs with
  | nil =>
    intro acc fuel c h enough
    obtain ⟨fuel, rfl⟩ : ∃ f, fuel = f + 1 := ⟨fuel - 1, by omega⟩
    exact ⟨c, h, by rw [readItems_close acc false fuel c t h, List.append_nil]⟩
  | cons v vs ih =>
    intro acc fuel c h enough
    have first := back v (List.mem_cons_self ..)
    have nonempty : 1 ≤ v.render.toUTF8.toList.length := by
      obtain ⟨⟨b, r, bytes, -⟩, -⟩ := first
      rw [bytes]
      simp
    simp only [List.flatMap_cons, List.length_append, List.length_cons] at enough
    obtain ⟨fuel, rfl⟩ : ∃ f, fuel = f + 1 := ⟨fuel - 1, by omega⟩
    rw [List.flatMap_cons] at h
    obtain ⟨d, rest, step⟩ := readItems_step first acc false fuel c
      ((vs.flatMap fun v => 44 :: v.render.toUTF8.toList) ++ 93 :: t)
      (by rw [h]; simp) (afterValue_commas vs _ (.inl rfl) t) (by omega)
    obtain ⟨e, closing, rest'⟩ := ih (fun w mem => back w (List.mem_cons_of_mem _ mem)) (v :: acc)
      fuel d rest (by omega)
    refine ⟨e, closing, ?_⟩
    rw [step, rest', List.reverse_cons, List.append_assoc, List.singleton_append]

theorem readItems_all (items : List Value) (back : ∀ v ∈ items, item.TakesBack depth v)
    (fuel : Nat) (c : Cursor) (h : c.rest = (renderItems items).toUTF8.toList ++ 93 :: t)
    (enough : (renderItems items).toUTF8.toList.length + 1 + item.height < fuel) :
    ∃ e : Cursor, e.rest = 93 :: t ∧ readItems fuel depth item [] true c = .ok (items, e) := by
  obtain ⟨fuel, rfl⟩ : ∃ f, fuel = f + 1 := ⟨fuel - 1, by omega⟩
  cases items with
  | nil =>
    have empty : c.rest = 93 :: t := by rw [h, renderItems, toUTF8_toList]; rfl
    exact ⟨c, empty, readItems_close [] true fuel c t empty⟩
  | cons v vs =>
    rw [renderItems_cons] at h enough
    rw [List.length_append] at enough
    obtain ⟨d, rest, step⟩ := readItems_step (back v (List.mem_cons_self ..)) [] true fuel c
      ((vs.flatMap fun v => 44 :: v.render.toUTF8.toList) ++ 93 :: t) (by rw [h]; simp)
      (afterValue_commas vs _ (.inl rfl) t) (by omega)
    have nonempty : 1 ≤ v.render.toUTF8.toList.length := by
      obtain ⟨⟨b, r, bytes, -⟩, -⟩ := back v (List.mem_cons_self ..)
      rw [bytes]
      simp
    obtain ⟨e, closing, others⟩ := readItems_rest t vs
      (fun w mem => back w (List.mem_cons_of_mem _ mem)) [v] fuel d rest (by omega)
    exact ⟨e, closing, by rw [step, others]; rfl⟩

end Items

end LineCoverage.Json
