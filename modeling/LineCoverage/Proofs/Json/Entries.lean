import LineCoverage.Proofs.Json.ReadBack
import Mathlib
/-! The reader takes back the entries of objects.

An entry is a key, a colon and a value, behind a comma unless it is the first. The reader of
any value puts each entry it reads into its object at the place of its key, so entries written
with increasing keys are read back in the order written. The reader of a record looks each key
up among the record's fields, reads the value with the field's shape, refuses a field read
twice and, at the closing brace, a required field never read. Written in the record's order
with one entry per field, the fields are read into a list that grows at its front, and filling
the record's fields from that list in declaration order gives the entries back.
-/

set_option autoImplicit false

namespace LineCoverage.Json

open Text.Utf8 (toUTF8_toList)

/-! ## Keys -/

theorem colon_eq_ok (c : Cursor) (t : List UInt8) (h : c.rest = 58 :: t) :
    colon c = .ok c.advance := by
  rw [colon, Cursor.skipBlanks_of_cons h rfl, h]
  rfl

theorem key_step (first : Bool) (k : String) (c : Cursor) (r : List UInt8)
    (h : c.rest = (if first then [] else [44]) ++ (quote k).toUTF8.toList ++ 58 :: r) :
    ∃ b d e, c.rest = b :: c.rest.tail ∧ isBlankByte b = false ∧ b ≠ 125 ∧
      nextKey first b c = .ok d ∧ readString d.advance = .ok (k, e) ∧
      colon e = .ok e.advance ∧ e.advance.rest = r := by
  -- where the key's quote stands: here, or after the comma
  obtain ⟨b, d, shape, solid, notClose, next, at_key⟩ : ∃ b d, c.rest = b :: c.rest.tail ∧
      isBlankByte b = false ∧ b ≠ 125 ∧ nextKey first b c = .ok d ∧
      d.rest = (quote k).toUTF8.toList ++ 58 :: r := by
    cases first
    · have comma : c.rest = 44 :: ((quote k).toUTF8.toList ++ 58 :: r) := by rw [h]; rfl
      have at_quote : c.advance.rest = 34 :: ((quote k).toUTF8.toList.tail ++ 58 :: r) := by
        rw [Cursor.advance_rest, comma, List.tail_cons, quote_bytes]
        rfl
      refine ⟨44, c.advance, by rw [comma]; rfl, rfl, by decide, ?_,
        by rw [Cursor.advance_rest, comma]; rfl⟩
      rw [nextKey, if_pos (by decide)]
      dsimp only
      rw [Cursor.skipBlanks_of_cons at_quote rfl, at_quote]
      rfl
    · have at_quote : c.rest = 34 :: ((quote k).toUTF8.toList.tail ++ 58 :: r) := by
        rw [h, quote_bytes]
        rfl
      refine ⟨34, c, by rw [at_quote]; rfl, rfl, by decide, rfl, by rw [h]; rfl⟩
  obtain ⟨e, rest, key⟩ := readString_quote k d (58 :: r) at_key
  exact ⟨b, d, e, shape, solid, notClose, next, key, colon_eq_ok e r rest,
    by rw [Cursor.advance_rest, rest]; rfl⟩

/-! ## The entries of an object of any values -/

theorem value_lt_entry (e : String × Value) :
    e.2.render.toUTF8.toList.length < (entryBytes e).length := by
  rw [entryBytes, List.length_append, List.length_cons]
  omega

theorem insertField_of_lt {k : String} {v : Value} {acc : List (String × Value)}
    (below : ∀ e ∈ acc, e.1 < k) : insertField k v acc = acc ++ [(k, v)] := by
  induction acc with
  | nil => rfl
  | cons e acc ih =>
    obtain ⟨k₂, v₂⟩ := e
    have lt : k₂ < k := below _ (List.mem_cons_self ..)
    rw [insertField, if_neg (String.lt_asymm lt), if_neg (String.ne_of_lt lt).symm,
      ih fun e mem => below e (List.mem_cons_of_mem _ mem)]
    rfl

section Entries

variable {depth : Nat}

theorem readEntries_close (acc : List (String × Value)) (first : Bool) (fuel : Nat) (c : Cursor)
    (t : List UInt8) (h : c.rest = 125 :: t) :
    readEntries (fuel + 1) depth acc first c = .ok (acc, c) := by
  rw [readEntries, Cursor.skipBlanks_of_cons h rfl, h]
  rfl

theorem readEntries_step {e : String × Value} (back : Shape.any.TakesBack depth e.2)
    (acc : List (String × Value)) (first : Bool) (fuel : Nat) (c : Cursor) (t : List UInt8)
    (h : c.rest = (if first then [] else [44]) ++ entryBytes e ++ t) (after : AfterValue t)
    (enough : e.2.render.toUTF8.toList.length < fuel) :
    ∃ d : Cursor, d.rest = t ∧ readEntries (fuel + 1) depth acc first c =
      readEntries fuel depth (insertField e.1 e.2 acc) false d := by
  obtain ⟨b, d, k, shape, solid, notClose, next, key, sep, at_value⟩ :=
    key_step first e.1 c (e.2.render.toUTF8.toList ++ t) (by rw [h, entryBytes]; simp)
  obtain ⟨d', rest, read⟩ := back.2 fuel k.advance t at_value after enough
  refine ⟨d', rest, ?_⟩
  rw [readEntries, Cursor.skipBlanks_of_cons shape solid]
  -- the entry's first byte is neither the end of the text nor the closing brace
  split
  · rename_i heq
    rw [shape] at heq
    cases heq
  · rename_i heq
    rw [shape] at heq
    exact absurd (List.cons.inj heq).1 notClose
  · rename_i b' _ heq
    rw [shape] at heq
    obtain ⟨rfl, -⟩ := List.cons.inj heq
    simp only [next, key, sep, read]

variable (t : List UInt8)

/-- The entries after the first, each behind its comma, up to the closing brace: with keys in
increasing order each goes last. -/
theorem readEntries_rest (es : List (String × Value))
    (back : ∀ e ∈ es, Shape.any.TakesBack depth e.2)
    (sorted : (es.map (·.1)).Pairwise (· < ·)) :
    ∀ (acc : List (String × Value)) (fuel : Nat) (c : Cursor),
      (∀ a ∈ acc, ∀ e ∈ es, a.1 < e.1) →
      c.rest = es.flatMap (fun e => 44 :: entryBytes e) ++ 125 :: t →
      (es.flatMap fun e => 44 :: entryBytes e).length + 1 < fuel →
      ∃ d : Cursor, d.rest = 125 :: t ∧
        readEntries fuel depth acc false c = .ok (acc ++ es, d) := by
  induction es with
  | nil =>
    intro acc fuel c _ h enough
    obtain ⟨fuel, rfl⟩ : ∃ f, fuel = f + 1 := ⟨fuel - 1, by omega⟩
    exact ⟨c, h, by rw [readEntries_close acc false fuel c t h, List.append_nil]⟩
  | cons e es ih =>
    intro acc fuel c below h enough
    rw [List.map_cons, List.pairwise_cons] at sorted
    simp only [List.flatMap_cons, List.length_append, List.length_cons] at enough
    have inside := value_lt_entry e
    obtain ⟨fuel, rfl⟩ : ∃ f, fuel = f + 1 := ⟨fuel - 1, by omega⟩
    rw [List.flatMap_cons] at h
    obtain ⟨d, rest, step⟩ := readEntries_step (back e (List.mem_cons_self ..)) acc false fuel c
      ((es.flatMap fun e => 44 :: entryBytes e) ++ 125 :: t) (by rw [h]; simp)
      (afterValue_commas es entryBytes (.inr rfl) t) (by omega)
    -- the key read goes last, and comes before every key still to read
    have last := insertField_of_lt (v := e.2) fun a mem => below a mem e (List.mem_cons_self ..)
    obtain ⟨d', closing, rest'⟩ := ih (fun f mem => back f (List.mem_cons_of_mem _ mem))
      sorted.2 (acc ++ [e]) fuel d (by
        intro a mem f listed
        rcases List.mem_append.mp mem with mem | mem
        · exact below a mem f (List.mem_cons_of_mem _ listed)
        · rw [List.mem_singleton.mp mem]
          exact sorted.1 f.1 (List.mem_map_of_mem listed))
      rest (by omega)
    refine ⟨d', closing, ?_⟩
    rw [step, last, rest', List.append_assoc, List.singleton_append]

theorem readEntries_all (fields : List (String × Value))
    (back : ∀ e ∈ fields, Shape.any.TakesBack depth e.2)
    (sorted : (fields.map (·.1)).Pairwise (· < ·)) (fuel : Nat) (c : Cursor)
    (h : c.rest = (renderFields fields).toUTF8.toList ++ 125 :: t)
    (enough : (renderFields fields).toUTF8.toList.length + 1 < fuel) :
    ∃ d : Cursor, d.rest = 125 :: t ∧ readEntries fuel depth [] true c = .ok (fields, d) := by
  obtain ⟨fuel, rfl⟩ : ∃ f, fuel = f + 1 := ⟨fuel - 1, by omega⟩
  cases fields with
  | nil =>
    have empty : c.rest = 125 :: t := by rw [h, renderFields, toUTF8_toList]; rfl
    exact ⟨c, empty, readEntries_close [] true fuel c t empty⟩
  | cons e es =>
    rw [renderFields_cons] at h enough
    rw [List.length_append] at enough
    rw [List.map_cons, List.pairwise_cons] at sorted
    have inside := value_lt_entry e
    obtain ⟨d, rest, step⟩ := readEntries_step (back e (List.mem_cons_self ..)) [] true fuel c
      ((es.flatMap fun e => 44 :: entryBytes e) ++ 125 :: t) (by rw [h]; simp)
      (afterValue_commas es entryBytes (.inr rfl) t) (by omega)
    obtain ⟨d', closing, others⟩ := readEntries_rest t es
      (fun f mem => back f (List.mem_cons_of_mem _ mem)) sorted.2 [e] fuel d
      (fun a mem f listed => by
        rw [List.mem_singleton.mp mem]
        exact sorted.1 f.1 (List.mem_map_of_mem listed)) rest (by omega)
    exact ⟨d', closing, by rw [step]; exact others⟩

end Entries

/-! ## The fields of a record -/

theorem find?_key_isSome {β : Type} {l : List (String × β)} {k : String} :
    (l.find? (·.1 == k)).isSome ↔ k ∈ l.map (·.1) := by
  rw [List.find?_isSome]
  simp

theorem find?_key_eq_some {β : Type} {l : List (String × β)} {k : String}
    (listed : k ∈ l.map (·.1)) : ∃ x ∈ l, x.1 = k ∧ l.find? (·.1 == k) = some x := by
  obtain ⟨x, found⟩ := Option.isSome_iff_exists.mp (find?_key_isSome.mpr listed)
  exact ⟨x, List.mem_of_find?_eq_some found, by simpa using List.find?_some found, found⟩

theorem height_le_fieldsHeight {fields : List (String × Bool × Shape)}
    {f : String × Bool × Shape} (mem : f ∈ fields) : f.2.2.height ≤ fieldsHeight fields := by
  induction fields with
  | nil => cases mem
  | cons g gs ih =>
    rw [fieldsHeight]
    rcases List.mem_cons.mp mem with rfl | mem
    · exact Nat.le_max_left _ _
    · exact Nat.le_trans (ih mem) (Nat.le_max_right _ _)

theorem firstMissing_eq_none {fields : List (String × Bool × Shape)}
    {got : List (String × Value)} (present : ∀ f ∈ fields, f.1 ∈ got.map (·.1)) :
    firstMissing fields got = none := by
  rw [firstMissing, Option.map_eq_none_iff, List.find?_eq_none]
  rintro ⟨name, required, s⟩ mem
  have found := find?_key_isSome.mpr (present _ mem)
  simp only [Option.isNone_iff_eq_none, Bool.and_eq_true, not_and]
  intro _ absent
  rw [absent] at found
  cases found

theorem fillFields_of_found {fields : List (String × Bool × Shape)}
    {entries got : List (String × Value)} (names : entries.map (·.1) = fields.map (·.1))
    (found : ∀ e ∈ entries, got.find? (·.1 == e.1) = some e) :
    fillFields fields got = entries := by
  induction fields generalizing entries with
  | nil => exact (List.map_eq_nil_iff.mp names).symm
  | cons f fs ih =>
    obtain ⟨name, required, s⟩ := f
    obtain _ | ⟨e, es⟩ := entries
    · cases names
    rw [List.map_cons, List.map_cons, List.cons.injEq] at names
    have rest := ih names.2 fun x mem => found x (List.mem_cons_of_mem _ mem)
    have key : e.1 = name := names.1
    rw [fillFields] at rest ⊢
    rw [List.map_cons, rest]
    dsimp only
    rw [← key, found e (List.mem_cons_self ..)]
    rfl

/-- Read in order into a list that grows at its front, entries with distinct keys are found
again under their keys. -/
theorem find?_reverse_of_nodup {entries : List (String × Value)}
    (distinct : (entries.map (·.1)).Nodup) {e : String × Value} (mem : e ∈ entries) :
    entries.reverse.find? (·.1 == e.1) = some e := by
  obtain ⟨x, listed, key, found⟩ := find?_key_eq_some (l := entries.reverse) (k := e.1)
    (by rw [List.map_reverse, List.mem_reverse]; exact List.mem_map_of_mem mem)
  rw [found, List.inj_on_of_nodup_map distinct (List.mem_reverse.mp listed) mem key]

section Record

variable {depth : Nat} {fields : List (String × Bool × Shape)}

theorem readRecordMap_close (got : List (String × Value)) (first : Bool) (fuel : Nat) (c : Cursor)
    (t : List UInt8) (h : c.rest = 125 :: t) (complete : firstMissing fields got = none) :
    readRecordMap (fuel + 1) depth fields got first c = .ok (got, c) := by
  rw [readRecordMap, Cursor.skipBlanks_of_cons h rfl, h]
  simp only [complete]

theorem readRecordMap_step {e : String × Value} {f : String × Bool × Shape}
    (found : fields.find? (·.1 == e.1) = some f) (got : List (String × Value))
    (fresh : e.1 ∉ got.map (·.1)) (back : f.2.2.TakesBack depth e.2) (first : Bool) (fuel : Nat)
    (c : Cursor) (t : List UInt8) (h : c.rest = (if first then [] else [44]) ++ entryBytes e ++ t)
    (after : AfterValue t) (enough : e.2.render.toUTF8.toList.length + f.2.2.height < fuel) :
    ∃ d : Cursor, d.rest = t ∧ readRecordMap (fuel + 1) depth fields got first c =
      readRecordMap fuel depth fields (e :: got) false d := by
  obtain ⟨b, d, k, shape, solid, notClose, next, key, sep, at_value⟩ :=
    key_step first e.1 c (e.2.render.toUTF8.toList ++ t) (by rw [h, entryBytes]; simp)
  obtain ⟨d', rest, read⟩ := back.2 fuel k.advance t at_value after enough
  have unread : (got.find? (·.1 == e.1)).isSome = false := by
    rw [Bool.eq_false_iff]
    exact fun found => fresh (find?_key_isSome.mp found)
  refine ⟨d', rest, ?_⟩
  rw [readRecordMap, Cursor.skipBlanks_of_cons shape solid]
  -- the entry's first byte is neither the end of the text nor the closing brace
  split
  · rename_i heq
    rw [shape] at heq
    cases heq
  · rename_i heq
    rw [shape] at heq
    exact absurd (List.cons.inj heq).1 notClose
  · rename_i b' _ heq
    rw [shape] at heq
    obtain ⟨rfl, -⟩ := List.cons.inj heq
    simp only [next, key, found, unread, sep, read]
    rfl

variable (t : List UInt8)

theorem readRecordMap_rest (es : List (String × Value))
    (listed : ∀ e ∈ es, e.1 ∈ fields.map (·.1))
    (back : ∀ e ∈ es, ∀ f ∈ fields, f.1 = e.1 → f.2.2.TakesBack depth e.2)
    (distinct : (es.map (·.1)).Nodup) :
    ∀ (got : List (String × Value)) (fuel : Nat) (c : Cursor),
      (∀ e ∈ es, e.1 ∉ got.map (·.1)) →
      firstMissing fields (es.reverse ++ got) = none →
      c.rest = es.flatMap (fun e => 44 :: entryBytes e) ++ 125 :: t →
      (es.flatMap fun e => 44 :: entryBytes e).length + 1 + fieldsHeight fields < fuel →
      ∃ d : Cursor, d.rest = 125 :: t ∧
        readRecordMap fuel depth fields got false c = .ok (es.reverse ++ got, d) := by
  induction es with
  | nil =>
    intro got fuel c _ complete h enough
    obtain ⟨fuel, rfl⟩ : ∃ f, fuel = f + 1 := ⟨fuel - 1, by omega⟩
    exact ⟨c, h, readRecordMap_close got false fuel c t h complete⟩
  | cons e es ih =>
    intro got fuel c fresh complete h enough
    rw [List.map_cons, List.nodup_cons] at distinct
    simp only [List.flatMap_cons, List.length_append, List.length_cons] at enough
    have inside := value_lt_entry e
    obtain ⟨f, field, key, found⟩ := find?_key_eq_some (listed e (List.mem_cons_self ..))
    have tall := height_le_fieldsHeight field
    obtain ⟨fuel, rfl⟩ : ∃ f, fuel = f + 1 := ⟨fuel - 1, by omega⟩
    rw [List.flatMap_cons] at h
    obtain ⟨d, rest, step⟩ := readRecordMap_step found got (fresh e (List.mem_cons_self ..))
      (back e (List.mem_cons_self ..) f field key) false fuel c
      ((es.flatMap fun e => 44 :: entryBytes e) ++ 125 :: t) (by rw [h]; simp)
      (afterValue_commas es entryBytes (.inr rfl) t) (by omega)
    -- the fields still to read are neither among those read before nor this one
    obtain ⟨d', closing, rest'⟩ := ih (fun x mem => listed x (List.mem_cons_of_mem _ mem))
      (fun x mem => back x (List.mem_cons_of_mem _ mem)) distinct.2 (e :: got) fuel d
      (by
        intro x mem
        rw [List.map_cons, List.mem_cons, not_or]
        exact ⟨fun same => distinct.1 (same ▸ List.mem_map_of_mem mem),
          fresh x (List.mem_cons_of_mem _ mem)⟩)
      (by rwa [List.reverse_cons, List.append_assoc, List.singleton_append] at complete) rest
      (by omega)
    refine ⟨d', closing, ?_⟩
    rw [step, rest', List.reverse_cons, List.append_assoc, List.singleton_append]

/-- All the fields of a record written in order, up to its closing brace: they are found
again under their names in the order of the record. -/
theorem readRecordMap_all (entries : List (String × Value))
    (names : entries.map (·.1) = fields.map (·.1)) (distinct : (fields.map (·.1)).Nodup)
    (back : ∀ e ∈ entries, ∀ f ∈ fields, f.1 = e.1 → f.2.2.TakesBack depth e.2)
    (fuel : Nat) (c : Cursor) (h : c.rest = (renderFields entries).toUTF8.toList ++ 125 :: t)
    (enough : (renderFields entries).toUTF8.toList.length + 1 + fieldsHeight fields < fuel) :
    ∃ d : Cursor, d.rest = 125 :: t ∧
      readRecordMap fuel depth fields [] true c = .ok (entries.reverse, d) := by
  have listed : ∀ e ∈ entries, e.1 ∈ fields.map (·.1) := fun e mem =>
    names ▸ List.mem_map_of_mem mem
  -- every field is written, so none is missing at the closing brace
  have complete : firstMissing fields entries.reverse = none := firstMissing_eq_none fun f mem => by
    rw [List.map_reverse, List.mem_reverse, names]
    exact List.mem_map_of_mem mem
  obtain ⟨fuel, rfl⟩ : ∃ f, fuel = f + 1 := ⟨fuel - 1, by omega⟩
  cases entries with
  | nil =>
    have empty : c.rest = 125 :: t := by rw [h, renderFields, toUTF8_toList]; rfl
    exact ⟨c, empty, readRecordMap_close [] true fuel c t empty complete⟩
  | cons e es =>
    rw [renderFields_cons] at h enough
    rw [List.length_append] at enough
    rw [← names, List.map_cons, List.nodup_cons] at distinct
    have inside := value_lt_entry e
    obtain ⟨f, field, key, found⟩ := find?_key_eq_some (listed e (List.mem_cons_self ..))
    have tall := height_le_fieldsHeight field
    obtain ⟨d, rest, step⟩ := readRecordMap_step found [] List.not_mem_nil
      (back e (List.mem_cons_self ..) f field key) true fuel c
      ((es.flatMap fun e => 44 :: entryBytes e) ++ 125 :: t) (by rw [h]; simp)
      (afterValue_commas es entryBytes (.inr rfl) t) (by omega)
    obtain ⟨d', closing, others⟩ := readRecordMap_rest t es
      (fun x mem => listed x (List.mem_cons_of_mem _ mem))
      (fun x mem => back x (List.mem_cons_of_mem _ mem)) distinct.2 [e] fuel d
      (fun x mem same => distinct.1 (by
        rw [List.map_cons, List.map_nil, List.mem_singleton] at same
        exact same ▸ List.mem_map_of_mem mem))
      (by rwa [List.reverse_cons] at complete) rest (by omega)
    exact ⟨d', closing, by rw [step, others, List.reverse_cons]⟩

end Record

end LineCoverage.Json
