import LineCoverage.Proofs.Json.Entries
/-! Every value is taken back.

Each form of value is read back by a short argument: a keyword by its letters, a number by its
digits, a string by its escapes, and an array, object or record by the loops over its items,
entries or fields. The two inductions, over the values of the wire format and over the values
a shape describes, only put these together. A whole text is then the written form of such a
value with nothing after it.
-/

set_option autoImplicit false

namespace LineCoverage.Json

open Text.Utf8 (toUTF8_toList)

/-! ## What a written value starts with -/

theorem opening_of_digit {b : UInt8} (digit : isDigitByte b = true) : Opening b := by
  simp only [isDigitByte, Bool.and_eq_true, decide_eq_true_eq] at digit
  exact .inr (.inr (.inr (.inr (.inr (.inr (.inr digit))))))

theorem nat_bytes (n : Nat) :
    ∃ b r, (toString n).toUTF8.toList = b :: r ∧ isDigitByte b = true := by
  rw [toString_bytes]
  obtain ⟨f, more, digits⟩ :=
    List.exists_cons_of_ne_nil (Nat.toDigits_ne_nil (n := n) (b := 10))
  rw [digits, List.map_cons]
  exact ⟨_, _, rfl,
    isDigitByte_of_isDigit (isDigit_of_mem_toDigits (digits ▸ List.mem_cons_self ..))⟩

section Dispatch

variable {fuel depth : Nat} {c : Cursor} {b : UInt8} {r : List UInt8}

theorem readShape_any_digit (h : c.rest = b :: r) (digit : isDigitByte b = true) {n : Number}
    {d : Cursor} (read : readNumber true c = .ok (n, d)) :
    readShape (fuel + 1) depth .any c = .ok (.number n, d) := by
  rw [readShape, Cursor.skipBlanks_of_cons h (opening_of_digit digit).solid.1]
  -- a digit opens no other form of value
  split <;> rename_i heq <;> rw [h] at heq
  case h_8 =>
    obtain ⟨rfl, -⟩ := List.cons.inj heq
    rw [if_pos digit, read]
  case h_9 => cases heq
  all_goals
    obtain ⟨rfl, -⟩ := List.cons.inj heq
    exact absurd digit (by decide)

theorem readShape_count_digit (h : c.rest = b :: r) (digit : isDigitByte b = true) {n : Number}
    {d : Cursor} (read : readNumber true c = .ok (n, d)) :
    readShape (fuel + 1) depth .count c = countOf n d := by
  rw [readShape, Cursor.skipBlanks_of_cons h (opening_of_digit digit).solid.1]
  split <;> rename_i heq <;> rw [h] at heq
  case h_1 =>
    obtain ⟨rfl, -⟩ := List.cons.inj heq
    exact absurd digit (by decide)
  case h_2 =>
    obtain ⟨rfl, -⟩ := List.cons.inj heq
    rw [if_pos digit, read]
  case h_3 => cases heq

theorem readShape_optional_present {s : Shape} (h : c.rest = b :: r)
    (solid : isBlankByte b = false) (present : b ≠ 110) :
    readShape (fuel + 1) depth (.optional s) c = readShape fuel depth s c := by
  rw [readShape, Cursor.skipBlanks_of_cons h solid]
  split
  · rename_i heq
    rw [h] at heq
    exact absurd (List.cons.inj heq).1 present
  · rfl

end Dispatch

/-! ## Each form of value is taken back -/

theorem Shape.TakesBack.intro {s : Shape} {depth : Nat} {v : Value} {b : UInt8} {r : List UInt8}
    (bytes : v.render.toUTF8.toList = b :: r) (opening : Opening b) (isNull : b = 110 → v = .null)
    (reads : ∀ fuel c t, c.rest = b :: (r ++ t) → AfterValue t → r.length + s.height < fuel →
      ∃ e : Cursor, e.rest = t ∧ readShape (fuel + 1) depth s c = .ok (v, e)) :
    s.TakesBack depth v := by
  refine ⟨⟨b, r, bytes, opening, isNull⟩, fun fuel c t h after enough => ?_⟩
  rw [bytes, List.length_cons] at enough
  rw [bytes] at h
  obtain ⟨fuel, rfl⟩ : ∃ f, fuel = f + 1 := ⟨fuel - 1, by omega⟩
  exact reads fuel c t h after (by omega)

section Forms

variable {depth : Nat}

theorem takesBack_keyword {s : Shape} {v : Value} {w : UInt8} {ws : List UInt8}
    (bytes : v.render.toUTF8.toList = w :: ws) (opening : Opening w)
    (isNull : w = 110 → v = .null)
    (reads : ∀ fuel c t d, c.rest = w :: (ws ++ t) → expectWord c.advance ws = .ok ((), d) →
      readShape (fuel + 1) depth s c = .ok (v, d)) : s.TakesBack depth v :=
  .intro bytes opening isNull fun fuel c t h _ _ => by
    obtain ⟨d, rest, read⟩ := expectWord_eq_ok ws t c.advance
      (by rw [Cursor.advance_rest, h]; rfl)
    exact ⟨d, rest, reads fuel c t d h read⟩

theorem null_bytes : Value.null.render.toUTF8.toList = [110, 117, 108, 108] := by
  rw [Value.render, toUTF8_toList]
  rfl

theorem takesBack_null : Shape.any.TakesBack depth .null :=
  takesBack_keyword null_bytes (.inl rfl) (fun _ => rfl) fun _ c _ _ h read => by
    rw [readShape, Cursor.skipBlanks_of_cons h rfl]
    simp only [h, List.cons_append, read]

theorem takesBack_optional_null {s : Shape} : (Shape.optional s).TakesBack depth .null :=
  takesBack_keyword null_bytes (.inl rfl) (fun _ => rfl) fun _ c _ _ h read => by
    rw [readShape, Cursor.skipBlanks_of_cons h rfl]
    simp only [h, List.cons_append, read]

theorem takesBack_bool (v : Bool) : Shape.any.TakesBack depth (.bool v) := by
  cases v
  · have bytes : (Value.bool false).render.toUTF8.toList = [102, 97, 108, 115, 101] := by
      rw [Value.render, toUTF8_toList]
      rfl
    refine takesBack_keyword bytes (.inr (.inr (.inl rfl))) (fun eq => absurd eq (by decide))
      fun _ c _ _ h read => ?_
    rw [readShape, Cursor.skipBlanks_of_cons h rfl]
    simp only [h, List.cons_append, read]
  · have bytes : (Value.bool true).render.toUTF8.toList = [116, 114, 117, 101] := by
      rw [Value.render, toUTF8_toList]
      rfl
    refine takesBack_keyword bytes (.inr (.inl rfl)) (fun eq => absurd eq (by decide))
      fun _ c _ _ h read => ?_
    rw [readShape, Cursor.skipBlanks_of_cons h rfl]
    simp only [h, List.cons_append, read]

theorem readNumber_nat {n : Nat} (small : n < 2 ^ 64) {c : Cursor} {t : List UInt8}
    (h : c.rest = (toString n).toUTF8.toList ++ t) (after : AfterValue t) :
    ∃ e : Cursor, e.rest = t ∧ readNumber true c = .ok (.nat n, e) := by
  obtain ⟨e, rest, read⟩ := readNumber_digits true n c t h after (by unfold u64Limit; omega)
  exact ⟨e, rest, by rw [read, integerEnd_nat n e (rest ▸ after)]⟩

theorem takesBack_digits {s : Shape} {n : Nat} (small : n < 2 ^ 64)
    (reads : ∀ fuel c b r d, c.rest = b :: r → isDigitByte b = true →
      readNumber true c = .ok (.nat n, d) →
      readShape (fuel + 1) depth s c = .ok (.number (.nat n), d)) :
    s.TakesBack depth (.number (.nat n)) := by
  obtain ⟨b, r, bytes, digit⟩ := nat_bytes n
  refine .intro bytes (opening_of_digit digit)
    (fun eq => absurd digit (by rw [eq]; decide)) fun fuel c t h after _ => ?_
  obtain ⟨e, rest, read⟩ := readNumber_nat small (by rw [h, bytes]; rfl) after
  exact ⟨e, rest, reads fuel c b _ e h digit read⟩

theorem takesBack_nat {n : Nat} (small : n < 2 ^ 64) :
    Shape.any.TakesBack depth (.number (.nat n)) :=
  takesBack_digits small fun _ _ _ _ _ h digit read => readShape_any_digit h digit read

theorem takesBack_count {n : Nat} (small : n < 2 ^ 64) :
    Shape.count.TakesBack depth (.number (.nat n)) :=
  takesBack_digits small fun _ _ _ _ _ h digit read => readShape_count_digit h digit read

theorem negSucc_bytes (m : Nat) : (Value.number (.int (Int.negSucc m))).render.toUTF8.toList =
    45 :: (toString (m + 1)).toUTF8.toList := by
  show ("-" ++ toString (m + 1)).toUTF8.toList = _
  rw [bytes_append, toUTF8_toList "-"]
  rfl

theorem takesBack_int {i : Int} (negative : i < 0) (small : -2 ^ 63 ≤ i) :
    Shape.any.TakesBack depth (.number (.int i)) := by
  obtain ⟨m, rfl⟩ := Int.eq_negSucc_of_lt_zero negative
  have magnitude : m + 1 ≤ 2 ^ 63 := by rw [Int.negSucc_eq] at small; omega
  refine .intro (negSucc_bytes m) (.inr (.inr (.inr (.inl rfl))))
    (fun eq => absurd eq (by decide)) fun fuel c t h after _ => ?_
  obtain ⟨e, rest, read⟩ := readNumber_digits false (m + 1) c.advance t
    (by rw [Cursor.advance_rest, h]; rfl) after (by unfold u64Limit; omega)
  -- the reader negates the magnitude it read
  have value : -((m + 1 : Nat) : Int) = Int.negSucc m := by rw [Int.negSucc_eq]; push_cast; rfl
  rw [integerEnd_neg (m + 1) e (rest ▸ after) (by omega) magnitude, value] at read
  refine ⟨e, rest, ?_⟩
  rw [readShape, Cursor.skipBlanks_of_cons h rfl]
  simp only [h, read]

theorem takesBack_quoted {s : Shape} (str : String)
    (reads : ∀ fuel c r d, c.rest = 34 :: r → readString c.advance = .ok (str, d) →
      readShape (fuel + 1) depth s c = .ok (.string str, d)) :
    s.TakesBack depth (.string str) :=
  .intro (quote_bytes str) (.inr (.inr (.inr (.inr (.inl rfl)))))
    (fun eq => absurd eq (by decide)) fun fuel c t h _ _ => by
      obtain ⟨e, rest, read⟩ := readString_quote str c t (by rw [h, quote_bytes]; simp)
      exact ⟨e, rest, reads fuel c _ e h read⟩

theorem takesBack_string (s : String) : Shape.any.TakesBack depth (.string s) :=
  takesBack_quoted s fun _ c _ _ h read => by
    rw [readShape, Cursor.skipBlanks_of_cons h rfl]
    simp only [h, read]

theorem takesBack_text (s : String) : Shape.text.TakesBack depth (.string s) :=
  takesBack_quoted s fun _ c _ _ h read => by
    rw [readShape, Cursor.skipBlanks_of_cons h rfl]
    simp only [h, read]

theorem takesBack_optional {s : Shape} {v : Value} (back : s.TakesBack depth v)
    (present : v ≠ .null) : (Shape.optional s).TakesBack depth v := by
  obtain ⟨⟨b, r, bytes, opening, isNull⟩, reads⟩ := back
  refine .intro bytes opening isNull fun fuel c t h after enough => ?_
  have notNull : b ≠ 110 := fun eq => present (isNull eq)
  -- the optional shape's extra height pays for the step to the inner shape
  obtain ⟨e, rest, read⟩ := reads fuel c t (by rw [h, bytes]; rfl) after (by
    rw [bytes, List.length_cons]
    rw [Shape.height] at enough
    omega)
  exact ⟨e, rest, by rw [readShape_optional_present h opening.solid.1 notNull, read]⟩

theorem takesBack_bracketed {s item : Shape} {items : List Value}
    (back : ∀ v ∈ items, item.TakesBack (depth + 1) v) (tall : item.height ≤ s.height)
    (reads : ∀ fuel c r e, c.rest = 91 :: r →
      closeWith (readItems fuel (depth + 1) item [] true c.advance) endList = .ok (items, e) →
      readShape (fuel + 1) (depth + 2) s c = .ok (.array items, e)) :
    s.TakesBack (depth + 2) (.array items) := by
  refine .intro (render_array items) (.inr (.inr (.inr (.inr (.inr (.inl rfl))))))
    (fun eq => absurd eq (by decide)) fun fuel c t h _ enough => ?_
  rw [List.length_append, List.length_singleton] at enough
  obtain ⟨d, closing, read⟩ := readItems_all t items back fuel c.advance
    (by rw [Cursor.advance_rest, h]; simp) (by omega)
  exact ⟨d.advance, by rw [Cursor.advance_rest, closing]; rfl,
    reads fuel c _ d.advance h (closeWith_eq_ok read (endList_eq_ok d t closing))⟩

theorem takesBack_array {items : List Value}
    (back : ∀ v ∈ items, Shape.any.TakesBack (depth + 1) v) :
    Shape.any.TakesBack (depth + 2) (.array items) :=
  takesBack_bracketed back (Nat.le_refl _) fun _ c _ _ h read => by
    rw [readShape, Cursor.skipBlanks_of_cons h rfl]
    simp only [h, enter_eq_ok, read]

theorem takesBack_list {item : Shape} {items : List Value}
    (back : ∀ v ∈ items, item.TakesBack (depth + 1) v) :
    (Shape.list item).TakesBack (depth + 2) (.array items) :=
  takesBack_bracketed back (by rw [Shape.height]; omega) fun _ c _ _ h read => by
    rw [readShape, Cursor.skipBlanks_of_cons h rfl]
    simp only [h, enter_eq_ok, read]

theorem takesBack_object {fields : List (String × Value)}
    (sorted : (fields.map (·.1)).Pairwise (· < ·))
    (back : ∀ e ∈ fields, Shape.any.TakesBack (depth + 1) e.2) :
    Shape.any.TakesBack (depth + 2) (.object fields) := by
  refine .intro (render_object fields) (.inr (.inr (.inr (.inr (.inr (.inr (.inl rfl)))))))
    (fun eq => absurd eq (by decide)) fun fuel c t h _ enough => ?_
  obtain ⟨d, closing, read⟩ := readEntries_all t fields back sorted fuel c.advance
    (by rw [Cursor.advance_rest, h]; simp) (by simpa [Shape.height] using enough)
  refine ⟨d.advance, by rw [Cursor.advance_rest, closing]; rfl, ?_⟩
  rw [readShape, Cursor.skipBlanks_of_cons h rfl]
  simp only [h, enter_eq_ok, closeWith_eq_ok read (endObject_eq_ok d t closing)]

theorem takesBack_record {name : String} {fields : List (String × Bool × Shape)}
    {entries : List (String × Value)} (names : entries.map (·.1) = fields.map (·.1))
    (distinct : (fields.map (·.1)).Nodup)
    (back : ∀ e ∈ entries, ∀ f ∈ fields, f.1 = e.1 → f.2.2.TakesBack (depth + 1) e.2) :
    (Shape.record name fields).TakesBack (depth + 2) (.object entries) := by
  refine .intro (render_object entries) (.inr (.inr (.inr (.inr (.inr (.inr (.inl rfl)))))))
    (fun eq => absurd eq (by decide)) fun fuel c t h _ enough => ?_
  obtain ⟨d, closing, read⟩ := readRecordMap_all t entries names distinct back fuel c.advance
    (by rw [Cursor.advance_rest, h]; simp) (by
      simp only [List.length_append, List.length_cons, List.length_nil, Shape.height] at enough
      omega)
  -- the fields are found again under their names, in the record's order
  have filled : fillFields fields entries.reverse = entries := fillFields_of_found names
    fun e mem => find?_reverse_of_nodup (names ▸ distinct) mem
  refine ⟨d.advance, by rw [Cursor.advance_rest, closing]; rfl, ?_⟩
  rw [readShape, Cursor.skipBlanks_of_cons h rfl]
  simp only [h, enter_eq_ok, closeWith_eq_ok read (endObject_eq_ok d t closing), filled]

end Forms

/-! ## Every value is taken back -/

/-- A value of the wire format's type nesting at most `depth` arrays and objects is taken back
by the reader of any value with one level more. -/
theorem Value.Fits.takesBack {depth : Nat} {v : Value} (fits : v.Fits depth) :
    Shape.any.TakesBack (depth + 1) v := by
  induction fits with
  | null => exact takesBack_null
  | bool b => exact takesBack_bool b
  | nat small => exact takesBack_nat small
  | int negative small => exact takesBack_int negative small
  | string s => exact takesBack_string s
  | array _ ih => exact takesBack_array ih
  | object sorted _ ih => exact takesBack_object sorted ih

/-- A value a shape describes with `depth` levels is taken back by the reader of the shape
with one level more. -/
theorem Shape.Admits.takesBack {s : Shape} {depth : Nat} {v : Value}
    (admits : s.Admits depth v) : s.TakesBack (depth + 1) v := by
  induction admits with
  | any fits => exact fits.takesBack
  | text s => exact takesBack_text s
  | count small => exact takesBack_count small
  | none => exact takesBack_optional_null
  | some _ present ih => exact takesBack_optional ih present
  | list _ ih => exact takesBack_list ih
  | record names distinct _ ih => exact takesBack_record names distinct ih

/-- A whole text: the written form of a value the shape describes with the reader's levels,
read back as that value. -/
theorem readDocument_render {s : Shape} {v : Value} (admits : s.Admits (depthLimit - 1) v)
    (shallow : s.height ≤ 64) : readDocument s v.render.toUTF8.toList = .ok v := by
  obtain ⟨⟨b, r, bytes, -⟩, reads⟩ := admits.takesBack
  -- the reader's fuel, eight times the length and more, covers the length and the height
  obtain ⟨e, rest, read⟩ := reads (8 * v.render.toUTF8.toList.length + 64)
    (Cursor.start v.render.toUTF8.toList) [] (by rw [List.append_nil]; rfl)
    (fun _ mem => by cases mem) (by rw [bytes, List.length_cons]; omega)
  rw [show depthLimit - 1 + 1 = depthLimit from rfl] at read
  rw [readDocument, read]
  simp only [Cursor.skipBlanks_of_nil rest, rest]

theorem Shape.Admits.record_of_forall₂ {name : String} {fields : List (String × Bool × Shape)}
    {entries : List (String × Value)} {depth : Nat}
    (each : List.Forall₂ (fun f e => f.1 = e.1 ∧ f.2.2.Admits depth e.2) fields entries)
    (distinct : (fields.map (·.1)).Nodup) :
    (Shape.record name fields).Admits (depth + 1) (.object entries) := by
  -- the entries are named as the fields, and each is admitted by a field of its name
  have paired : entries.map (·.1) = fields.map (·.1) ∧
      ∀ e ∈ entries, ∃ f ∈ fields, f.1 = e.1 ∧ f.2.2.Admits depth e.2 := by
    clear distinct
    induction each with
    | nil => exact ⟨rfl, fun _ mem => by cases mem⟩
    | cons head _ ih =>
      refine ⟨by rw [List.map_cons, List.map_cons, ih.1, head.1], fun e mem => ?_⟩
      rcases List.mem_cons.mp mem with rfl | mem
      · exact ⟨_, List.mem_cons_self .., head⟩
      · obtain ⟨f, listed, same, admits⟩ := ih.2 e mem
        exact ⟨f, List.mem_cons_of_mem _ listed, same, admits⟩
  refine .record paired.1 distinct fun e mem f listed key => ?_
  obtain ⟨g, listed', same, admits⟩ := paired.2 e mem
  rwa [List.inj_on_of_nodup_map distinct listed listed' (key.trans same.symm)]

end LineCoverage.Json
