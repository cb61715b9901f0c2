import LineCoverage.Dump.Reader
import Mathlib

/-!
# Reading a dump, line by line

The reader cuts each line at its first colon. A `file:` line opens a section under its trimmed
value; `function:` and `lcount:` lines add a record to the open section, and stop the reading
if their value does not read; everything else is passed over. This module states that
behaviour over the whole text (`read_outcome`): where the reading fails, and what the dump holds
when it does not.

The reference the reader is checked against is declarative: `sectionOf` finds a line's section
by looking back for the last `file:` line, `valuesIn` collects the values of one section's
records, and `FunctionFields` and `LineCountFields` say what a value reads as.
-/

set_option autoImplicit false

namespace LineCoverage.Dump

/-! ## Computations that can fail -/

theorem bind_eq_ok {ε α β : Type} {x : Except ε α} {f : α → Except ε β} {b : β} :
    x >>= f = .ok b ↔ ∃ a, x = .ok a ∧ f a = .ok b := by
  cases x <;> simp [bind, Except.bind]

theorem exists_error_iff {ε α : Type} (x : Except ε α) : (∃ e, x = .error e) ↔ ¬∃ a, x = .ok a := by
  cases x <;> simp

theorem exists_error_iff_toOption {ε α : Type} (x : Except ε α) :
    (∃ e, x = .error e) ↔ x.toOption = none := by
  cases x <;> simp [Except.toOption]

/-! ## Records, field by field

A function record has four fields under its first three commas, the last keeping any further
commas; a line-count record has exactly three. Each numeric field is read trimmed, as a numeral
below the bound of its word.
-/

theorem lt_bound_of_read? {bound : Nat} {cs : List Char} {n : Nat}
    (read : Numeral.read? bound cs = some n) : n < bound := by
  unfold Numeral.read? at read
  dsimp only at read
  split_ifs at read with fits
  exact Option.some.inj read ▸ fits.2.2

theorem number_eq_ok (field : Field) (bound : Nat) (cs : List Char) (n : Nat) :
    number field bound cs = .ok n ↔ Numeral.read? bound (Text.trimChars cs) = some n := by
  simp only [number]
  split <;> simp_all

theorem length_splitAtMost_le (sep : Char) (n : Nat) (cs : List Char) :
    (Text.splitAtMost sep n cs).length ≤ n := by
  fun_induction Text.splitAtMost sep n cs <;> simp_all

/-- A function value read field by field: the start and end lines are 32-bit numerals, the count
a 64-bit one, and the name is the fourth field, trimmed. -/
def FunctionFields (value : List Char) (f : FunctionRecord) : Prop :=
  ∃ a b c rest, Text.splitAtMost ',' 4 value = [a, b, c, rest] ∧
    Numeral.read? Numeral.bound32 (Text.trimChars a) = some f.startLine ∧
    Numeral.read? Numeral.bound32 (Text.trimChars b) = some f.endLine ∧
    Numeral.read? Numeral.bound64 (Text.trimChars c) = some f.calls ∧
    f.name = String.ofList (Text.trimChars rest)

def FunctionMalformed (value : List Char) : Prop :=
  (Text.splitAtMost ',' 4 value).length < 4 ∨
    ∃ a b c rest, Text.splitAtMost ',' 4 value = [a, b, c, rest] ∧
      (Numeral.read? Numeral.bound32 (Text.trimChars a) = none ∨
        Numeral.read? Numeral.bound32 (Text.trimChars b) = none ∨
        Numeral.read? Numeral.bound64 (Text.trimChars c) = none)

theorem readFunction_eq_ok (value : List Char) (f : FunctionRecord) :
    readFunction value = .ok f ↔ FunctionFields value f := by
  unfold readFunction FunctionFields
  split
  · rename_i a b c rest pieces
    simp only [bind_eq_ok, number_eq_ok, pieces, List.cons.injEq, and_true]
    constructor
    · rintro ⟨start, first, stop, second, calls, third, same⟩
      cases same
      exact ⟨a, b, c, rest, ⟨rfl, rfl, rfl, rfl⟩, first, second, third, rfl⟩
    · rintro ⟨_, _, _, _, ⟨rfl, rfl, rfl, rfl⟩, first, second, third, named⟩
      refine ⟨_, first, _, second, _, third, ?_⟩
      cases f
      simp_all [pure, Except.pure]
  · rename_i other
    simp only [reduceCtorEq, false_iff, not_exists, not_and]
    intro a b c rest pieces
    exact absurd pieces (other a b c rest)

theorem functionMalformed_iff (value : List Char) :
    FunctionMalformed value ↔ ¬∃ f, FunctionFields value f := by
  unfold FunctionMalformed FunctionFields
  have short := length_splitAtMost_le ',' 4 value
  generalize Text.splitAtMost ',' 4 value = pieces at short ⊢
  match pieces, short with
  | [], _ | [_], _ | [_, _], _ | [_, _, _], _ => simp
  | [a, b, c, rest], _ =>
    cases first : Numeral.read? Numeral.bound32 (Text.trimChars a) <;>
      cases second : Numeral.read? Numeral.bound32 (Text.trimChars b) <;>
      cases third : Numeral.read? Numeral.bound64 (Text.trimChars c) <;>
      simp [first, second, third, and_assoc]
    rename_i start stop calls
    exact ⟨⟨start, stop, calls, String.ofList (Text.trimChars rest)⟩, rfl, rfl, rfl, rfl⟩

theorem readFunction_refuses (value : List Char) :
    (∃ e, readFunction value = .error e) ↔ FunctionMalformed value := by
  simp only [exists_error_iff, readFunction_eq_ok, functionMalformed_iff]

/-- A line-count value read field by field: the line is a 32-bit numeral, the count a 64-bit one,
and a non-zero 32-bit flag marks an unexecuted block. -/
def LineCountFields (value : List Char) (r : LineRecord) : Prop :=
  ∃ a b c flag, Text.splitAll ',' value = [a, b, c] ∧
    Numeral.read? Numeral.bound32 (Text.trimChars a) = some r.line ∧
    Numeral.read? Numeral.bound64 (Text.trimChars b) = some r.hits ∧
    Numeral.read? Numeral.bound32 (Text.trimChars c) = some flag ∧
    r.unexecutedBlock = (flag != 0)

def LineCountMalformed (value : List Char) : Prop :=
  (Text.splitAll ',' value).length ≠ 3 ∨
    ∃ a b c, Text.splitAll ',' value = [a, b, c] ∧
      (Numeral.read? Numeral.bound32 (Text.trimChars a) = none ∨
        Numeral.read? Numeral.bound64 (Text.trimChars b) = none ∨
        Numeral.read? Numeral.bound32 (Text.trimChars c) = none)

theorem readLineCount_eq_ok (value : List Char) (r : LineRecord) :
    readLineCount value = .ok r ↔ LineCountFields value r := by
  unfold readLineCount LineCountFields
  split
  · rename_i a b c pieces
    simp only [bind_eq_ok, number_eq_ok, pieces, List.cons.injEq, and_true]
    constructor
    · rintro ⟨flag, third, line, first, hits, second, same⟩
      cases same
      exact ⟨a, b, c, flag, ⟨rfl, rfl, rfl⟩, first, second, third, rfl⟩
    · rintro ⟨_, _, _, flag, ⟨rfl, rfl, rfl⟩, first, second, third, marked⟩
      refine ⟨flag, third, _, first, _, second, ?_⟩
      cases r
      simp_all [pure, Except.pure]
  · rename_i other
    simp only [reduceCtorEq, false_iff, not_exists, not_and]
    intro a b c flag pieces
    exact absurd pieces (other a b c)

theorem lineCountMalformed_iff (value : List Char) :
    LineCountMalformed value ↔ ¬∃ r, LineCountFields value r := by
  unfold LineCountMalformed LineCountFields
  generalize Text.splitAll ',' value = pieces
  match pieces with
  | [a, b, c] =>
    cases first : Numeral.read? Numeral.bound32 (Text.trimChars a) <;>
      cases second : Numeral.read? Numeral.bound64 (Text.trimChars b) <;>
      cases third : Numeral.read? Numeral.bound32 (Text.trimChars c) <;>
      simp [first, second, third, and_assoc]
    rename_i line hits flag
    exact ⟨⟨line, hits, flag != 0⟩, rfl, rfl, rfl⟩
  | [] | [_] | [_, _] | _ :: _ :: _ :: _ :: _ => simp

theorem readLineCount_refuses (value : List Char) :
    (∃ e, readLineCount value = .error e) ↔ LineCountMalformed value := by
  simp only [exists_error_iff, readLineCount_eq_ok, lineCountMalformed_iff]

instance : DecidablePred FunctionMalformed := fun value =>
  decidable_of_iff _ ((exists_error_iff_toOption _).symm.trans (readFunction_refuses value))

instance : DecidablePred LineCountMalformed := fun value =>
  decidable_of_iff _ ((exists_error_iff_toOption _).symm.trans (readLineCount_refuses value))

/-! ## Lines and the sections they lie in -/

def valueOf (tag l : List Char) : Option (List Char) :=
  match Text.splitFirst ':' l with
  | some (t, value) => if t = tag then some value else none
  | none => none

def openedPath (l : List Char) : Option String :=
  (valueOf tagFile l).map fun value => String.ofList (Text.trimChars value)

def sectionOf (start : Option String) (ls : List (List Char)) (i : Nat) : Option String :=
  ((ls.take i).filterMap openedPath).getLast?.or start

def Malformed (l : List Char) : Prop :=
  (∃ value ∈ valueOf tagFunction l, FunctionMalformed value) ∨
    ∃ value ∈ valueOf tagLineCount l, LineCountMalformed value

/-- Line `i` is a record the reader refuses: a malformed one after some `file:` line, or while a
section is open from the start. Records outside every section are passed over unread. -/
def Refused (start : Option String) (ls : List (List Char)) (i : Nat) : Prop :=
  ∃ l ∈ ls[i]?, (start.isSome ∨ ∃ earlier ∈ ls.take i, (openedPath earlier).isSome) ∧ Malformed l

def valuesIn (start : Option String) (ls : List (List Char)) (tag : List Char) (path : String) :
    List (List Char) :=
  ls.zipIdx.filterMap fun x => if sectionOf start ls x.2 = some path then valueOf tag x.1 else none

theorem sectionOf_zero (start : Option String) (ls : List (List Char)) :
    sectionOf start ls 0 = start := by
  simp [sectionOf]

theorem sectionOf_cons_succ (start : Option String) (l : List Char) (rest : List (List Char))
    (i : Nat) :
    sectionOf start (l :: rest) (i + 1) = sectionOf ((openedPath l).or start) rest i := by
  simp only [sectionOf, List.take_succ_cons, List.getLast?_filterMap, List.reverse_cons,
    List.findSome?_append, List.findSome?_singleton, Option.or_assoc]

theorem isSome_sectionOf (start : Option String) (ls : List (List Char)) (i : Nat) :
    (sectionOf start ls i).isSome ↔ start.isSome ∨ ∃ l ∈ ls.take i, (openedPath l).isSome := by
  simp [sectionOf, Option.isSome_or, List.findSome?_isSome_iff, or_comm]

theorem refused_cons_zero (start : Option String) (l : List Char) (rest : List (List Char)) :
    Refused start (l :: rest) 0 ↔ start.isSome ∧ Malformed l := by
  simp [Refused]

theorem refused_cons_succ (start : Option String) (l : List Char) (rest : List (List Char))
    (i : Nat) : Refused start (l :: rest) (i + 1) ↔ Refused ((openedPath l).or start) rest i := by
  simp [Refused, Option.isSome_or, or_comm, or_assoc]

instance : DecidablePred Malformed := fun _ => inferInstanceAs (Decidable (_ ∨ _))

instance (start : Option String) (ls : List (List Char)) : DecidablePred (Refused start ls) :=
  fun _ => inferInstanceAs (Decidable (∃ _ ∈ _, _))

example : Refused none ["file:a.c".toList, "lcount:1,x,0".toList] 1 := by decide

theorem valuesIn_cons (start : Option String) (l : List Char) (rest : List (List Char))
    (tag : List Char) (path : String) :
    valuesIn start (l :: rest) tag path =
      (if start = some path then (valueOf tag l).toList else []) ++
        valuesIn ((openedPath l).or start) rest tag path := by
  simp only [valuesIn, List.zipIdx_cons, List.filterMap_cons, sectionOf_zero, Nat.zero_add]
  rw [List.zipIdx_succ, List.filterMap_map]
  by_cases here : start = some path
  · cases valueOf tag l <;> simp [here, sectionOf_cons_succ]
  · simp [here, sectionOf_cons_succ]

theorem mem_valuesIn {start : Option String} {ls : List (List Char)} {tag value : List Char}
    {path : String} :
    value ∈ valuesIn start ls tag path ↔
      ∃ i, ∃ l ∈ ls[i]?, sectionOf start ls i = some path ∧ valueOf tag l = some value := by
  simp only [valuesIn, List.mem_filterMap, List.mem_zipIdx_iff_getElem?, Option.mem_def]
  constructor
  · rintro ⟨⟨l, i⟩, found, chosen⟩
    by_cases here : sectionOf start ls i = some path
    · exact ⟨i, l, found, here, by simpa [here] using chosen⟩
    · simp [here] at chosen
  · rintro ⟨i, l, found, here, tagged⟩
    exact ⟨(l, i), found, by simp [here, tagged]⟩

/-! ## Records under a path -/

attribute [ext] FileRecords

@[simp] theorem FileRecords.functions_append (a b : FileRecords) :
    (a ++ b).functions = a.functions ++ b.functions := rfl

@[simp] theorem FileRecords.lines_append (a b : FileRecords) :
    (a ++ b).lines = a.lines ++ b.lines := rfl

@[simp] theorem FileRecords.append_empty (a : FileRecords) : a ++ {} = a := by
  ext <;> simp

@[simp] theorem FileRecords.empty_append (a : FileRecords) : {} ++ a = a := by
  ext <;> simp

theorem FileRecords.append_assoc (a b c : FileRecords) : a ++ b ++ c = a ++ (b ++ c) := by
  ext <;> simp

theorem getD_add (d : Dump) (path : String) (r : FileRecords) (p : String) :
    (d.add path r).getD p {} = if path = p then d.getD p {} ++ r else d.getD p {} := by
  unfold Dump.add
  rw [Std.TreeMap.getD_insert]
  by_cases same : path = p
  · subst same
    simp
  · simp [same]

theorem mem_add (d : Dump) (path : String) (r : FileRecords) (p : String) :
    p ∈ d.add path r ↔ p ∈ d ∨ path = p := by
  unfold Dump.add
  rw [Std.TreeMap.mem_insert]
  simp [or_comm]

theorem mem_close (d : Dump) (current : Section) (p : String) :
    p ∈ close d current ↔ p ∈ d ∨ current.map Prod.fst = some p := by
  rcases current with _ | ⟨path, r⟩ <;> simp [close, mem_add]

/-! ## One line

`lineStep` is what the reader does with one line: it either refuses the line or gives the dump of
finished sections and the section now open. `readLines_cons` says the reader is that step
repeated; every other lemma about one line goes through `lineStep_eq_ok`, which lists what a
step that does not refuse can do.
-/

theorem tagFunction_ne_tagFile : tagFunction ≠ tagFile := by decide
theorem tagLineCount_ne_tagFile : tagLineCount ≠ tagFile := by decide
theorem tagLineCount_ne_tagFunction : tagLineCount ≠ tagFunction := by decide

def lineStep (d : Dump) (current : Section) (l : List Char) : Except Defect (Dump × Section) :=
  match Text.splitFirst ':' l with
  | none => .ok (d, current)
  | some (tag, value) =>
    if tag = tagFile then .ok (close d current, some (String.ofList (Text.trimChars value), {}))
    else if tag = tagFunction then
      match current with
      | none => .ok (d, current)
      | some (path, r) =>
        (readFunction value).map fun f =>
          (d, some (path, { r with functions := r.functions ++ [f] }))
    else if tag = tagLineCount then
      match current with
      | none => .ok (d, current)
      | some (path, r) =>
        (readLineCount value).map fun x => (d, some (path, { r with lines := r.lines ++ [x] }))
    else .ok (d, current)

theorem readLines_cons (n : Nat) (d : Dump) (current : Section) (l : List Char)
    (rest : List (List Char)) :
    readLines n d current (l :: rest) =
      match lineStep d current l with
      | .error e => .error ⟨n, e⟩
      | .ok (d', current') => readLines (n + 1) d' current' rest := by
  rw [readLines.eq_2, lineStep]
  rcases Text.splitFirst ':' l with _ | ⟨tag, value⟩
  · rfl
  · by_cases file : tag = tagFile
    · simp [file]
    by_cases function : tag = tagFunction
    · subst function
      rcases current with _ | ⟨path, r⟩
      · simp [tagFunction_ne_tagFile]
      · rcases read : readFunction value with e | f <;>
          simp [tagFunction_ne_tagFile, read, Except.map]
    by_cases count : tag = tagLineCount
    · subst count
      rcases current with _ | ⟨path, r⟩
      · simp [tagLineCount_ne_tagFile, tagLineCount_ne_tagFunction]
      · rcases read : readLineCount value with e | x <;>
          simp [tagLineCount_ne_tagFile, tagLineCount_ne_tagFunction, read, Except.map]
    · simp [file, function, count]

theorem valueOf_eq_none_of_ne {tag tag' l value : List Char} (tagged : valueOf tag l = some value)
    (other : tag' ≠ tag) : valueOf tag' l = none := by
  unfold valueOf at tagged ⊢
  cases split : Text.splitFirst ':' l with
  | none => rfl
  | some pair =>
    obtain ⟨t, v⟩ := pair
    have same : t = tag := by
      simp only [split, Option.ite_none_right_eq_some] at tagged
      exact tagged.1
    simp [same, Ne.symm other]

theorem openedPath_eq_none {tag l value : List Char} (tagged : valueOf tag l = some value)
    (other : tagFile ≠ tag) : openedPath l = none := by
  simp [openedPath, valueOf_eq_none_of_ne tagged other]

def lineRecords (start : Option String) (l : List Char) (path : String) : FileRecords :=
  if start = some path then
    ⟨((valueOf tagFunction l).bind fun v => (readFunction v).toOption).toList,
      ((valueOf tagLineCount l).bind fun v => (readLineCount v).toOption).toList⟩
  else {}

def recordsIn (start : Option String) (ls : List (List Char)) (path : String) : FileRecords :=
  ⟨(valuesIn start ls tagFunction path).filterMap fun v => (readFunction v).toOption,
    (valuesIn start ls tagLineCount path).filterMap fun v => (readLineCount v).toOption⟩

theorem recordsIn_cons (start : Option String) (l : List Char) (rest : List (List Char))
    (path : String) :
    recordsIn start (l :: rest) path =
      lineRecords start l path ++ recordsIn ((openedPath l).or start) rest path := by
  by_cases here : start = some path
  · apply FileRecords.ext
    · simp only [recordsIn, lineRecords, valuesIn_cons, here, if_true, FileRecords.functions_append,
        List.filterMap_append]
      cases valueOf tagFunction l with
      | none => rfl
      | some value => cases readFunction value <;> rfl
    · simp only [recordsIn, lineRecords, valuesIn_cons, here, if_true, FileRecords.lines_append,
        List.filterMap_append]
      cases valueOf tagLineCount l with
      | none => rfl
      | some value => cases readLineCount value <;> rfl
  · apply FileRecords.ext <;> simp [recordsIn, lineRecords, valuesIn_cons, here]

theorem recordsIn_nil (start : Option String) (path : String) : recordsIn start [] path = {} := by
  simp [recordsIn, valuesIn]

/-- What one line can do to the reading state, when it is not refused. -/
theorem lineStep_eq_ok {d : Dump} {current : Section} {l : List Char} {next : Dump × Section}
    (step : lineStep d current l = .ok next) :
    (∃ path, openedPath l = some path ∧ next = (close d current, some (path, {}))) ∨
    (openedPath l = none ∧
      (current = none ∨ valueOf tagFunction l = none ∧ valueOf tagLineCount l = none) ∧
      next = (d, current)) ∨
    (∃ path r value f, current = some (path, r) ∧ valueOf tagFunction l = some value ∧
      readFunction value = .ok f ∧ next = (d, some (path, r ++ ⟨[f], []⟩))) ∨
    (∃ path r value x, current = some (path, r) ∧ valueOf tagLineCount l = some value ∧
      readLineCount value = .ok x ∧ next = (d, some (path, r ++ ⟨[], [x]⟩))) := by
  unfold lineStep at step
  cases split : Text.splitFirst ':' l with
  | none =>
    rw [split] at step
    have untagged : ∀ tag, valueOf tag l = none := fun tag => by simp [valueOf, split]
    refine .inr (.inl ⟨by simp [openedPath, untagged], .inr ⟨untagged _, untagged _⟩, ?_⟩)
    exact (Except.ok.inj step).symm
  | some pair =>
    obtain ⟨tag, value⟩ := pair
    rw [split] at step
    have tagged : ∀ t, valueOf t l = if tag = t then some value else none := fun t => by
      simp [valueOf, split]
    simp only at step
    by_cases file : tag = tagFile
    · subst file
      simp only [if_true] at step
      exact .inl ⟨_, by simp [openedPath, tagged], (Except.ok.inj step).symm⟩
    have unopened : openedPath l = none := by simp [openedPath, tagged, file]
    by_cases function : tag = tagFunction
    · subst function
      simp only [file, if_false, if_true] at step
      rcases current with _ | ⟨path, r⟩
      · exact .inr (.inl ⟨unopened, .inl rfl, (Except.ok.inj step).symm⟩)
      · rcases read : readFunction value with e | f <;> rw [read] at step
        · cases step
        · refine .inr (.inr (.inl ⟨path, r, value, f, rfl, by simp [tagged], read, ?_⟩))
          rw [← (Except.ok.inj step)]
          simp [FileRecords.ext_iff]
    by_cases count : tag = tagLineCount
    · subst count
      simp only [file, function, if_false, if_true] at step
      rcases current with _ | ⟨path, r⟩
      · exact .inr (.inl ⟨unopened, .inl rfl, (Except.ok.inj step).symm⟩)
      · rcases read : readLineCount value with e | x <;> rw [read] at step
        · cases step
        · refine .inr (.inr (.inr ⟨path, r, value, x, rfl, by simp [tagged], read, ?_⟩))
          rw [← (Except.ok.inj step)]
          simp [FileRecords.ext_iff]
    · simp only [file, function, count, if_false] at step
      refine .inr (.inl ⟨unopened, .inr ⟨by simp [tagged, function], by simp [tagged, count]⟩, ?_⟩)
      exact (Except.ok.inj step).symm

theorem lineStep_refuses (d : Dump) (current : Section) (l : List Char) :
    (∃ e, lineStep d current l = .error e) ↔ current.isSome ∧ Malformed l := by
  unfold lineStep Malformed
  cases split : Text.splitFirst ':' l with
  | none => simp [valueOf, split]
  | some pair =>
    obtain ⟨tag, value⟩ := pair
    have tagged : ∀ t, valueOf t l = if tag = t then some value else none := fun t => by
      simp [valueOf, split]
    simp only [tagged]
    by_cases file : tag = tagFile
    · subst file
      simp [tagFunction_ne_tagFile.symm, tagLineCount_ne_tagFile.symm]
    by_cases function : tag = tagFunction
    · subst function
      rcases current with _ | ⟨path, r⟩
      · simp [file]
      · have refuses := readFunction_refuses value
        rcases read : readFunction value with e | f <;>
          simp [read, file, Except.map, tagLineCount_ne_tagFunction.symm] at refuses ⊢ <;>
          exact refuses
    by_cases count : tag = tagLineCount
    · subst count
      rcases current with _ | ⟨path, r⟩
      · simp [file, function]
      · have refuses := readLineCount_refuses value
        rcases read : readLineCount value with e | x <;>
          simp [read, file, function, Except.map] at refuses ⊢ <;>
          exact refuses
    · simp [file, function, count]

theorem lineRecords_of_untagged {l : List Char} (noFunction : valueOf tagFunction l = none)
    (noCount : valueOf tagLineCount l = none) (start : Option String) (path : String) :
    lineRecords start l path = {} := by
  by_cases here : start = some path <;> simp [lineRecords, here, noFunction, noCount]

theorem untagged_of_opened {l : List Char} {path : String} (opened : openedPath l = some path) :
    valueOf tagFunction l = none ∧ valueOf tagLineCount l = none := by
  obtain ⟨value, tagged, -⟩ := Option.map_eq_some_iff.mp opened
  exact ⟨valueOf_eq_none_of_ne tagged tagFunction_ne_tagFile,
    valueOf_eq_none_of_ne tagged tagLineCount_ne_tagFile⟩

section
variable {d : Dump} {current : Section} {l : List Char} {next : Dump × Section}

theorem lineStep_section (step : lineStep d current l = .ok next) :
    next.2.map Prod.fst = (openedPath l).or (current.map Prod.fst) := by
  rcases lineStep_eq_ok step with ⟨path, opened, rfl⟩ | ⟨unopened, -, rfl⟩ |
      ⟨path, r, value, f, rfl, tagged, -, rfl⟩ | ⟨path, r, value, x, rfl, tagged, -, rfl⟩
  · simp [opened]
  · simp [unopened]
  · simp [openedPath_eq_none tagged tagFunction_ne_tagFile.symm]
  · simp [openedPath_eq_none tagged tagLineCount_ne_tagFile.symm]

theorem lineStep_mem (step : lineStep d current l = .ok next) (p : String) :
    p ∈ close next.1 next.2 ↔ p ∈ close d current ∨ openedPath l = some p := by
  rcases lineStep_eq_ok step with ⟨path, opened, rfl⟩ | ⟨unopened, -, rfl⟩ |
      ⟨path, r, value, f, rfl, tagged, -, rfl⟩ | ⟨path, r, value, x, rfl, tagged, -, rfl⟩
  · simp [mem_close, opened]
  · simp [unopened]
  · simp [mem_close, openedPath_eq_none tagged tagFunction_ne_tagFile.symm]
  · simp [mem_close, openedPath_eq_none tagged tagLineCount_ne_tagFile.symm]

theorem lineStep_getD (step : lineStep d current l = .ok next) (p : String) :
    (close next.1 next.2).getD p {} =
      (close d current).getD p {} ++ lineRecords (current.map Prod.fst) l p := by
  rcases lineStep_eq_ok step with ⟨path, opened, rfl⟩ | ⟨-, quiet, rfl⟩ |
      ⟨path, r, value, f, rfl, tagged, read, rfl⟩ | ⟨path, r, value, x, rfl, tagged, read, rfl⟩
  · obtain ⟨noFunction, noCount⟩ := untagged_of_opened opened
    rw [lineRecords_of_untagged noFunction noCount]
    by_cases same : path = p <;> simp [close, getD_add, same]
  · rcases quiet with rfl | ⟨noFunction, noCount⟩
    · simp [lineRecords]
    · rw [lineRecords_of_untagged noFunction noCount, FileRecords.append_empty]
  · have noCount := valueOf_eq_none_of_ne tagged tagLineCount_ne_tagFunction
    by_cases same : path = p
    · simp [close, getD_add, same, lineRecords, tagged, read, noCount, FileRecords.append_assoc,
        Except.toOption]
    · simp [close, getD_add, same, lineRecords]
  · have noFunction := valueOf_eq_none_of_ne tagged tagLineCount_ne_tagFunction.symm
    by_cases same : path = p
    · simp [close, getD_add, same, lineRecords, tagged, read, noFunction, FileRecords.append_assoc,
        Except.toOption]
    · simp [close, getD_add, same, lineRecords]

end

/-! ## All lines -/

theorem refused_of_lineStep {d : Dump} {current : Section} {l : List Char} {defect : Defect}
    (step : lineStep d current l = .error defect) (rest : List (List Char)) :
    Refused (current.map Prod.fst) (l :: rest) 0 := by
  rw [refused_cons_zero]
  simpa using (lineStep_refuses d current l).mp ⟨defect, step⟩

theorem not_refused_of_lineStep {d : Dump} {current : Section} {l : List Char}
    {next : Dump × Section} (step : lineStep d current l = .ok next) (rest : List (List Char)) :
    ¬Refused (current.map Prod.fst) (l :: rest) 0 := by
  rw [refused_cons_zero]
  intro refused
  obtain ⟨defect, stops⟩ := (lineStep_refuses d current l).mpr (by simpa using refused)
  rw [step] at stops
  cases stops

theorem readLines_error {n : Nat} {d : Dump} {current : Section} {ls : List (List Char)}
    {e : ParseError} (failed : readLines n d current ls = .error e) :
    ∃ i, e.line = n + i ∧ Refused (current.map Prod.fst) ls i ∧
      ∀ j < i, ¬Refused (current.map Prod.fst) ls j := by
  induction ls generalizing n d current with
  | nil => simp [readLines] at failed
  | cons l rest ih =>
    rw [readLines_cons] at failed
    rcases step : lineStep d current l with defect | ⟨d', current'⟩ <;> rw [step] at failed
    · cases failed
      exact ⟨0, rfl, refused_of_lineStep step rest, fun j below => absurd below (Nat.not_lt_zero j)⟩
    · obtain ⟨i, line, refused, first⟩ := ih failed
      have opened : current'.map Prod.fst = (openedPath l).or (current.map Prod.fst) :=
        lineStep_section step
      refine ⟨i + 1, by omega, by rwa [refused_cons_succ, ← opened], ?_⟩
      intro j below
      cases j with
      | zero => exact not_refused_of_lineStep step rest
      | succ j =>
        rw [refused_cons_succ, ← opened]
        exact first j (by omega)

theorem readLines_error_of_first {n : Nat} {d : Dump} {current : Section} {ls : List (List Char)}
    {i : Nat} (refused : Refused (current.map Prod.fst) ls i)
    (first : ∀ j < i, ¬Refused (current.map Prod.fst) ls j) :
    ∃ defect, readLines n d current ls = .error ⟨n + i, defect⟩ := by
  induction ls generalizing n d current i with
  | nil => simp [Refused] at refused
  | cons l rest ih =>
    rw [readLines_cons]
    rcases step : lineStep d current l with defect | ⟨d', current'⟩
    · -- the first line stops the reading, so it is the first refused one
      have here := refused_of_lineStep step rest
      cases i with
      | zero => exact ⟨defect, rfl⟩
      | succ i => exact absurd here (first 0 (Nat.succ_pos i))
    · have opened : current'.map Prod.fst = (openedPath l).or (current.map Prod.fst) :=
        lineStep_section step
      cases i with
      | zero => exact absurd refused (not_refused_of_lineStep step rest)
      | succ i =>
        have later : Refused (current'.map Prod.fst) rest i := by
          rwa [opened, ← refused_cons_succ]
        have before : ∀ j < i, ¬Refused (current'.map Prod.fst) rest j := fun j below => by
          rw [opened, ← refused_cons_succ]
          exact first (j + 1) (by omega)
        obtain ⟨defect, failed⟩ := @ih (n + 1) d' current' i later before
        refine ⟨defect, ?_⟩
        show readLines (n + 1) d' current' rest = _
        rw [failed, Nat.add_right_comm]
        rfl

theorem readLines_ok (n : Nat) (d : Dump) (current : Section) (ls : List (List Char))
    (clean : ∀ i, ¬Refused (current.map Prod.fst) ls i) :
    ∃ out, readLines n d current ls = .ok out ∧
      (∀ p, p ∈ out ↔ p ∈ close d current ∨ ∃ l ∈ ls, openedPath l = some p) ∧
      ∀ p, out.getD p {} =
        (close d current).getD p {} ++ recordsIn (current.map Prod.fst) ls p := by
  induction ls generalizing n d current with
  | nil => exact ⟨close d current, rfl, by simp, by simp [recordsIn_nil]⟩
  | cons l rest ih =>
    rw [readLines_cons]
    rcases step : lineStep d current l with defect | ⟨d', current'⟩
    · exact absurd (refused_of_lineStep step rest) (clean 0)
    · have opened : current'.map Prod.fst = (openedPath l).or (current.map Prod.fst) :=
        lineStep_section step
      have cleanRest : ∀ i, ¬Refused (current'.map Prod.fst) rest i := fun i => by
        rw [opened, ← refused_cons_succ]
        exact clean (i + 1)
      obtain ⟨out, read, keys, records⟩ := ih (n + 1) d' current' cleanRest
      refine ⟨out, read, fun p => ?_, fun p => ?_⟩
      · rw [keys, lineStep_mem step]
        simp [or_assoc]
      · rw [records, lineStep_getD step, opened, recordsIn_cons, FileRecords.append_assoc]

theorem clean_of_readLines_ok {n : Nat} {d : Dump} {current : Section} {ls : List (List Char)}
    {out : Dump} (done : readLines n d current ls = .ok out) :
    ∀ i, ¬Refused (current.map Prod.fst) ls i := by
  intro i refused
  have somewhere : ∃ i, Refused (current.map Prod.fst) ls i := ⟨i, refused⟩
  obtain ⟨defect, failed⟩ := @readLines_error_of_first n d current ls (Nat.find somewhere)
    (Nat.find_spec somewhere) (fun j below => Nat.find_min somewhere below)
  rw [done] at failed
  cases failed

theorem wellFormed_of_clean {start : Option String} {ls : List (List Char)}
    (clean : ∀ i, ¬Refused start ls i) {tag value : List Char} {path : String}
    (member : value ∈ valuesIn start ls tag path) :
    ∃ l, valueOf tag l = some value ∧ ¬Malformed l := by
  obtain ⟨i, l, found, here, tagged⟩ := mem_valuesIn.mp member
  have inside := (isSome_sectionOf start ls i).mp (by simp [here])
  exact ⟨l, tagged, fun malformed => clean i ⟨l, found, inside, malformed⟩⟩

theorem forall₂_read {α : Type} {R : List Char → α → Prop} {reader : List Char → Except Defect α}
    (spec : ∀ v a, reader v = .ok a ↔ R v a) :
    ∀ {vs : List (List Char)}, (∀ v ∈ vs, ∃ a, reader v = .ok a) →
      List.Forall₂ R vs (vs.filterMap fun v => (reader v).toOption)
  | [], _ => .nil
  | v :: rest, reads => by
    obtain ⟨a, read⟩ := reads v List.mem_cons_self
    rw [List.filterMap_cons, read]
    exact .cons ((spec v a).mp read)
      (forall₂_read spec fun w member => reads w (List.mem_cons_of_mem v member))

/-- In a reading with no refused line, the values under one tag in a section all read, so the
records they give match them one by one. `malformed` says that a value that does not read makes
its line malformed. -/
theorem forall₂_valuesIn {α : Type} {R : List Char → α → Prop}
    {reader : List Char → Except Defect α} {tag : List Char}
    (spec : ∀ v a, reader v = .ok a ↔ R v a)
    (malformed : ∀ l v e, valueOf tag l = some v → reader v = .error e → Malformed l)
    {start : Option String} {ls : List (List Char)} (clean : ∀ i, ¬Refused start ls i)
    (path : String) :
    List.Forall₂ R (valuesIn start ls tag path)
      ((valuesIn start ls tag path).filterMap fun v => (reader v).toOption) := by
  apply forall₂_read spec
  intro v member
  obtain ⟨l, tagged, wellFormed⟩ := wellFormed_of_clean clean member
  cases read : reader v with
  | error e => exact absurd (malformed l v e tagged read) wellFormed
  | ok a => exact ⟨a, rfl⟩

/-- Reading a dump. The reading fails exactly when some line is a malformed function or
line-count record after a `file:` line, and then at the first such line, counted from one.
Otherwise the dump holds every path a `file:` line opens, and under each the records of all
its sections, each read field by field from its value, in input order. -/
theorem read_outcome (bytes : List UInt8) :
    let ls := Text.lineChars ((Text.Utf8.pieces bytes).map Text.Utf8.Piece.char)
    (∀ e, read bytes = .error e →
      ∃ i, e.line = i + 1 ∧ Refused none ls i ∧ ∀ j < i, ¬Refused none ls j) ∧
    (∀ i, Refused none ls i → (∀ j < i, ¬Refused none ls j) →
      ∃ defect, read bytes = .error ⟨i + 1, defect⟩) ∧
    ((∀ i, ¬Refused none ls i) → ∃ d, read bytes = .ok d ∧
      (∀ p, p ∈ d ↔ ∃ l ∈ ls, openedPath l = some p) ∧
      ∀ p (r : FileRecords), d[p]? = some r →
        List.Forall₂ FunctionFields (valuesIn none ls tagFunction p) r.functions ∧
        List.Forall₂ LineCountFields (valuesIn none ls tagLineCount p) r.lines) := by
  intro ls
  refine ⟨fun e failed => ?_, fun i refused first => ?_, fun clean => ?_⟩
  · obtain ⟨i, line, refused, first⟩ := readLines_error failed
    exact ⟨i, by omega, refused, first⟩
  · obtain ⟨defect, failed⟩ := @readLines_error_of_first 1 {} none ls i refused first
    exact ⟨defect, by rw [read, failed, Nat.add_comm]⟩
  · obtain ⟨out, done, keys, records⟩ := readLines_ok 1 {} none ls clean
    refine ⟨out, done, fun p => by simpa [close] using keys p, fun p r found => ?_⟩
    have whole : r = recordsIn none ls p := by
      have held := records p
      rw [Std.TreeMap.getD_eq_getD_getElem?, found] at held
      simpa [close] using held
    subst whole
    exact ⟨forall₂_valuesIn readFunction_eq_ok
        (fun _ v e tagged read => .inl ⟨v, tagged, (readFunction_refuses v).mp ⟨e, read⟩⟩) clean p,
      forall₂_valuesIn readLineCount_eq_ok
        (fun _ v e tagged read => .inr ⟨v, tagged, (readLineCount_refuses v).mp ⟨e, read⟩⟩) clean p⟩

theorem lineCountFields_of_read {bytes : List UInt8} {d : Dump} (done : read bytes = .ok d)
    {path : String} {records : FileRecords} (found : d[path]? = some records) {r : LineRecord}
    (member : r ∈ records.lines) : ∃ value, LineCountFields value r := by
  let ls := Text.lineChars ((Text.Utf8.pieces bytes).map Text.Utf8.Piece.char)
  have reading : readLines 1 {} none ls = .ok d := done
  obtain ⟨out, again, -, held⟩ := readLines_ok 1 {} none ls (clean_of_readLines_ok reading)
  have same : out = d := Except.ok.inj (again.symm.trans reading)
  subst same
  have whole : records = recordsIn none ls path := by
    have lookup := held path
    rw [Std.TreeMap.getD_eq_getD_getElem?, found] at lookup
    simpa [close] using lookup
  subst whole
  obtain ⟨value, -, read⟩ := List.mem_filterMap.mp member
  refine ⟨value, (readLineCount_eq_ok value r).mp ?_⟩
  cases reading : readLineCount value <;> simp_all [Except.toOption]

/-- A count that is no numeral stops the reading at its line. -/
theorem read_stops_at_bad_count :
    let bytes := "file:a.c\nlcount:1,1,0\nlcount:2,many,0\n".toUTF8.toList
    let ls := Text.lineChars ((Text.Utf8.pieces bytes).map Text.Utf8.Piece.char)
    Refused none ls 2 ∧ (∀ j < 2, ¬Refused none ls j) ∧
      ∃ defect, read bytes = .error ⟨2 + 1, defect⟩ := by
  intro bytes ls
  have refused : Refused none ls 2 := by decide +kernel
  have first : ∀ j < 2, ¬Refused none ls j := by decide +kernel
  exact ⟨refused, first, (read_outcome bytes).2.1 2 refused first⟩

end LineCoverage.Dump
