import LineCoverage.Shell.Tools.Options
import LineCoverage.Text.Pad
/-! `sort` and `uniq`: lines in order, and runs of equal lines.

`sort` compares lines by keys: each key is a part of the line from a field (and a character
in it) to another, compared as text, as a number (`-n`, with an optional `-`, digits and a
fraction; a line without one counts as zero), as a floating number (`-g`), by size suffix
(`-h`) or by month name (`-M`), possibly folding case (`-f`) or ignoring some characters (`-d`,
`-i`). A key without options of its own takes the global ones. Lines whose keys are all equal
are ordered by their bytes, unless `-s` keeps them in input order or `-u` keeps only the first.
Fields are separated by the `-t` character, or else each starts where blanks do.

`uniq` writes one line of each run of lines that compare equal, possibly counting them, and
compares lines after skipping fields and characters, up to a number of characters.
-/

set_option autoImplicit false

-- Powers are the core's `Nat.pow` and `Int.pow`, also where Mathlib's monoid powers are in scope.
attribute [local instance (high)] instPowNat

namespace LineCoverage.Shell

def isBlank (c : Char) : Bool := c = ' ' || c = '\t'

structure KeyOrder where
  numeric : Bool := false
  general : Bool := false
  human : Bool := false
  month : Bool := false
  version : Bool := false
  fold : Bool := false
  dictionary : Bool := false
  printable : Bool := false
  blanksStart : Bool := false
  blanksEnd : Bool := false
  reverse : Bool := false

def KeyOrder.plain (o : KeyOrder) : Bool :=
  !(o.numeric || o.general || o.human || o.month || o.version || o.fold || o.dictionary || o.printable ||
    o.blanksStart || o.blanksEnd)

def KeyOrder.withLetter (o : KeyOrder) (start : Bool) (c : Char) : Option KeyOrder :=
  match c with
  | 'b' => some (if start then { o with blanksStart := true } else { o with blanksEnd := true })
  | 'd' => some { o with dictionary := true }
  | 'f' => some { o with fold := true }
  | 'g' => some { o with general := true }
  | 'h' => some { o with human := true }
  | 'i' => some { o with printable := true }
  | 'M' => some { o with month := true }
  | 'n' => some { o with numeric := true }
  | 'r' => some { o with reverse := true }
  | 'V' => some { o with version := true }
  | _ => none

/-- A key: the field (from 0) and character (from 0) it starts at, the field (from 0) and
character (from 1, 0 for the whole field) it ends at, none for the end of the line. -/
structure SortKey where
  startField : Nat
  startChar : Nat
  stop : Option (Nat × Nat)
  order : KeyOrder

def keyStart (tab : Option Char) (k : SortKey) (line : List Char) : Nat :=
  let lim := line.length
  let rec skipFields : Nat → Nat → Nat
    | 0, p => p
    | n + 1, p =>
      if p ≥ lim then p
      else
        match tab with
        | some t =>
          let q := p + ((line.drop p).takeWhile (· ≠ t)).length
          skipFields n (if q < lim then q + 1 else q)
        | none =>
          let q := p + ((line.drop p).takeWhile isBlank).length
          let q := q + ((line.drop q).takeWhile (!isBlank ·)).length
          skipFields n q
  let p := skipFields k.startField 0
  let p := if k.order.blanksStart then p + ((line.drop p).takeWhile isBlank).length else p
  min lim (p + k.startChar)

def keyEnd (tab : Option Char) (k : SortKey) (line : List Char) : Nat :=
  let lim := line.length
  match k.stop with
  | none => lim
  | some (field, char) =>
    let fields := if char = 0 then field + 1 else field
    let rec skipFields : Nat → Nat → Nat
      | 0, p => p
      | n + 1, p =>
        if p ≥ lim then p
        else
          match tab with
          | some t =>
            let q := p + ((line.drop p).takeWhile (· ≠ t)).length
            skipFields n (if q < lim && (n > 0 || char > 0) then q + 1 else q)
          | none =>
            let q := p + ((line.drop p).takeWhile isBlank).length
            let q := q + ((line.drop q).takeWhile (!isBlank ·)).length
            skipFields n q
    let p := skipFields fields 0
    if char = 0 then p
    else
      let p := if k.order.blanksEnd then p + ((line.drop p).takeWhile isBlank).length else p
      min lim (p + char)

/-- The parts of a number as `sort -n` reads it after blanks: its sign, whole digits and
fraction digits (without leading and trailing zeros that do not count). -/
def numberParts (cs : List Char) : Bool × List Char × List Char :=
  let cs := cs.dropWhile isBlank
  let (negative, cs) := match cs with
    | '-' :: r => (true, r)
    | r => (false, r)
  let whole := (cs.takeWhile Char.isDigit).dropWhile (· = '0')
  let rest := cs.drop (cs.takeWhile Char.isDigit).length
  let fraction := match rest with
    | '.' :: r => ((r.takeWhile Char.isDigit).reverse.dropWhile (· = '0')).reverse
    | _ => []
  let zero := whole.isEmpty && fraction.isEmpty
  (negative && !zero, whole, fraction)

def compareChars : List Char → List Char → Ordering
  | [], [] => .eq
  | [], _ :: _ => .lt
  | _ :: _, [] => .gt
  | a :: as, b :: bs => if a < b then .lt else if b < a then .gt else compareChars as bs

def compareNumbers (a b : List Char) : Ordering :=
  let (na, wa, fa) := numberParts a
  let (nb, wb, fb) := numberParts b
  let magnitude : Ordering :=
    if wa.length != wb.length then compare wa.length wb.length
    else
      match compareChars wa wb with
      | .eq => compareChars fa fb
      | o => o
  match na, nb with
  | false, true => .gt
  | true, false => .lt
  | false, false => magnitude
  | true, true => magnitude.swap

def generalValue (cs : List Char) : Option (Int × Nat) :=
  let cs := cs.dropWhile (fun c => isBlank c || c = '\n')
  let (negative, cs) := match cs with
    | '-' :: r => (true, r)
    | '+' :: r => (false, r)
    | r => (false, r)
  let whole := cs.takeWhile Char.isDigit
  let rest := cs.drop whole.length
  let (fraction, rest) := match rest with
    | '.' :: r => (r.takeWhile Char.isDigit, r.drop (r.takeWhile Char.isDigit).length)
    | r => ([], r)
  if whole.isEmpty && fraction.isEmpty then none
  else
    let exponent : Int := match rest with
      | e :: r =>
        if e = 'e' || e = 'E' then
          let (en, ds) := match r with
            | '-' :: d => (true, d)
            | '+' :: d => (false, d)
            | d => (false, d)
          let ds := ds.takeWhile Char.isDigit
          if ds.isEmpty then 0 else (if en then -(Numeral.digitsValue ds : Int) else Numeral.digitsValue ds)
        else 0
      | [] => 0
    let m : Int := Numeral.digitsValue (whole ++ fraction)
    let m := if negative then -m else m
    let scale : Int := fraction.length - exponent
    if scale ≥ 0 then some (m, scale.toNat) else some (m * (10 : Int) ^ (-scale).toNat, 0)

/-- Compares two texts as `sort -g` does: texts that are no number first, then by value. -/
def compareGeneral (a b : List Char) : Ordering :=
  match generalValue a, generalValue b with
  | none, none => .eq
  | none, some _ => .lt
  | some _, none => .gt
  | some (ma, sa), some (mb, sb) =>
    compare (ma * (10 : Int) ^ sb) (mb * (10 : Int) ^ sa)

def suffixRank (c : Char) : Nat :=
  match c with
  | 'k' | 'K' => 1 | 'M' => 2 | 'G' => 3 | 'T' => 4 | 'P' => 5 | 'E' => 6 | 'Z' => 7 | 'Y' => 8
  | 'R' => 9 | 'Q' => 10 | _ => 0

def compareHuman (a b : List Char) : Ordering :=
  let rank (cs : List Char) : Nat :=
    let cs := cs.dropWhile isBlank
    let cs := match cs with
      | '-' :: r => r
      | r => r
    let body := cs.takeWhile fun c => c.isDigit || c = '.'
    ((cs.drop body.length).head?.map suffixRank).getD 0
  let (na, _, _) := numberParts a
  let (nb, _, _) := numberParts b
  match na, nb with
  | false, true => .gt
  | true, false => .lt
  | _, _ =>
    let byRank := compare (rank a) (rank b)
    let byRank := if na then byRank.swap else byRank
    match byRank with
    | .eq => compareNumbers a b
    | o => o

def monthOf (cs : List Char) : Nat :=
  let name := String.ofList ((cs.dropWhile isBlank).take 3 |>.map Char.toUpper)
  let months := ["JAN", "FEB", "MAR", "APR", "MAY", "JUN", "JUL", "AUG", "SEP", "OCT", "NOV", "DEC"]
  match months.idxOf? name with
  | some i => i + 1
  | none => 0

/-- How a version comparison ranks the character a text goes on with: the end of the text
before everything but a tilde, a tilde before the end, digits as one rank, letters by their code,
and every other character after all letters. -/
def versionRank : List Char → Int
  | [] => -1
  | c :: _ =>
    if c.isDigit then 0
    else if c.isAlpha then c.toNat
    else if c = '~' then -2
    else c.toNat + 256

def versionWords (a b : List Char) : Ordering ⊕ (List Char × List Char) :=
  let atDigits (l : List Char) : Bool := l.head?.all Char.isDigit
  if atDigits a && atDigits b then .inr (a, b)
  else
    let ra := versionRank a
    let rb := versionRank b
    if ra ≠ rb then .inl (compare ra rb)
    else
      match a, b with
      | _ :: a', _ :: b' => versionWords a' b'
      | _, _ => .inr (a, b)
termination_by a.length

def versionRuns : Nat → List Char → List Char → Ordering
  | 0, _, _ => .eq
  | fuel + 1, a, b =>
    if a.isEmpty && b.isEmpty then .eq
    else
      match versionWords a b with
      | .inl o => o
      | .inr (a, b) =>
        let a := a.dropWhile (· = '0')
        let b := b.dropWhile (· = '0')
        let da := a.takeWhile Char.isDigit
        let db := b.takeWhile Char.isDigit
        if da.length ≠ db.length then compare da.length db.length
        else
          match compareChars da db with
          | .eq => versionRuns fuel (a.drop da.length) (b.drop db.length)
          | o => o

def suffixRun : List Char → Nat
  | '.' :: c :: rest =>
    if c.isAlpha || c = '~' then
      let body := rest.takeWhile fun d => d.isAlphanum || d = '~'
      2 + body.length + suffixRun (rest.drop body.length)
    else 0
  | _ => 0
termination_by l => l.length
decreasing_by all_goals simp only [List.length_drop, List.length_cons]; omega

def versionStem (s : List Char) : Nat :=
  go s 0 0
where
  go : List Char → Nat → Nat → Nat
  | [], _, stem => stem
  | _ :: rest, i, _ =>
    let k := suffixRun rest
    go (rest.drop k) (i + 1 + k) (i + 1)
  termination_by l => l.length
  decreasing_by all_goals simp only [List.length_drop, List.length_cons]; omega

/-- Compares two names as versions, the way `sort -V` and `ls -v` order them: the empty name
first, then ".", "..", other names with a leading dot, and the rest; names compare without their
file suffixes first, and whole when that ties. -/
def compareVersions (a b : List Char) : Ordering :=
  let fuel := a.length + b.length + 1
  let stems : Ordering :=
    let pa := versionStem a
    let pb := versionStem b
    let first := versionRuns fuel (a.take pa) (b.take pb)
    if first != .eq || (pa == a.length && pb == b.length) then first else versionRuns fuel a b
  let dots (l : List Char) : Nat := if l == ['.'] then 0 else if l == ['.', '.'] then 1 else 2
  match a.isEmpty, b.isEmpty with
  | true, true => .eq
  | true, false => .lt
  | false, true => .gt
  | false, false =>
    match a.head? == some '.', b.head? == some '.' with
    | true, false => .lt
    | false, true => .gt
    | true, true => if dots a < 2 || dots b < 2 then compare (dots a) (dots b) else stems
    | false, false => stems

def compareKey (o : KeyOrder) (a b : List Char) : Ordering :=
  let keep (c : Char) : Bool :=
    (!o.dictionary || isBlank c || c.isAlphanum) && (!o.printable || (c.toNat ≥ 32 && c.toNat < 127))
  let norm (cs : List Char) : List Char :=
    (cs.filter keep).map fun c => if o.fold then c.toUpper else c
  let a := norm a
  let b := norm b
  let base :=
    if o.numeric then compareNumbers a b
    else if o.general then compareGeneral a b
    else if o.human then compareHuman a b
    else if o.month then compare (monthOf a) (monthOf b)
    else if o.version then compareVersions a b
    else compareChars a b
  if o.reverse then base.swap else base

structure SortOrder where
  keys : List SortKey
  tab : Option Char
  lastResort : Bool
  reverse : Bool

def SortOrder.compareLines (so : SortOrder) (a b : String) : Ordering :=
  let la := a.toList
  let lb := b.toList
  let piece (k : SortKey) (l : List Char) : List Char :=
    let s := keyStart so.tab k l
    let e := max s (keyEnd so.tab k l)
    (l.take e).drop s
  let byKeys := so.keys.foldl (fun acc k =>
    match acc with
    | .eq => compareKey k.order (piece k la) (piece k lb)
    | o => o) Ordering.eq
  match byKeys with
  | .eq =>
    if so.keys.isEmpty || so.lastResort then
      let d := compareChars la lb
      if so.reverse then d.swap else d
    else .eq
  | o => o

def keyCount (cs : List Char) : Option (Nat × List Char) :=
  let ds := cs.takeWhile Char.isDigit
  if ds.isEmpty then none else some (Numeral.digitsValue ds, cs.drop ds.length)

def readKey (spec : String) : Except String SortKey :=
  let bad (why : String) : Except String SortKey := .error (why ++ ": invalid field specification " ++ quoteAlways spec)
  let countError (why : String) (rest : List Char) : Except String SortKey :=
    .error (why ++ ": invalid count at start of " ++ quoteAlways (String.ofList rest))
  let letters (o : KeyOrder) (start : Bool) (cs : List Char) : KeyOrder × List Char :=
    let rec go : List Char → KeyOrder → KeyOrder × List Char
      | [], o => (o, [])
      | c :: rest, o =>
        match o.withLetter start c with
        | some o' => go rest o'
        | none => (o, c :: rest)
    go cs o
  let cs := spec.toList
  match keyCount cs with
  | none => countError "invalid number at field start" cs
  | some (0, _) => bad "field number is zero"
  | some (f, rest) =>
    let startChar : Except String (Nat × List Char) := match rest with
      | '.' :: r =>
        match keyCount r with
        | none => .error ("invalid number after '.': invalid count at start of " ++ quoteAlways (String.ofList r))
        | some (0, _) => .error ("character offset is zero: invalid field specification " ++ quoteAlways spec)
        | some (ch, r') => .ok (ch - 1, r')
      | r => .ok (0, r)
    match startChar with
    | .error e => .error e
    | .ok (sc, rest) =>
      let (o, rest) := letters {} true rest
      match rest with
      | [] => .ok ⟨f - 1, sc, none, o⟩
      | ',' :: r =>
        match keyCount r with
        | none => countError "invalid number after ','" r
        | some (0, _) => bad "field number is zero"
        | some (ef, r') =>
          let endChar : Except String (Nat × List Char) := match r' with
            | '.' :: r'' =>
              match keyCount r'' with
              | none => .error ("invalid number after '.': invalid count at start of " ++ quoteAlways (String.ofList r''))
              | some (ch, r3) => .ok (ch, r3)
            | r'' => .ok (0, r'')
          match endChar with
          | .error e => .error e
          | .ok (ec, r3) =>
            let (o, r4) := letters o false r3
            if r4.isEmpty then .ok ⟨f - 1, sc, some (ef - 1, ec), o⟩
            else bad "stray character in field spec"
      | _ => bad "stray character in field spec"

def firstOfRuns (eq : String → String → Bool) : List String → List String
  | [] => []
  | l :: rest =>
    let run := rest.takeWhile (eq l)
    l :: firstOfRuns eq (rest.drop run.length)
termination_by ls => ls.length
decreasing_by simp only [List.length_drop, List.length_cons]; omega

def sort (c : Call) : Done :=
  let tool := c.tool "sort"
  let letterSpecs : List OptionSpec := "bdfghiMnrsucCmzRV".toList.map OptionSpec.flag
  let specs : List OptionSpec := letterSpecs ++
    [.withArg 'k', .withArg 't', .withArg 'o', .withArg 'S', .withArg 'T',
      .alias "key" 'k' .argument, .alias "field-separator" 't' .argument, .alias "output" 'o' .argument,
      .alias "numeric-sort" 'n' .nothing, .alias "reverse" 'r' .nothing, .alias "unique" 'u' .nothing,
      .alias "stable" 's' .nothing, .alias "ignore-case" 'f' .nothing, .alias "general-numeric-sort" 'g' .nothing,
      .alias "human-numeric-sort" 'h' .nothing, .alias "month-sort" 'M' .nothing,
      .alias "version-sort" 'V' .nothing,
      .alias "dictionary-order" 'd' .nothing, .alias "ignore-nonprinting" 'i' .nothing,
      .alias "ignore-leading-blanks" 'b' .nothing, .alias "check" 'c' .optional,
      .alias "zero-terminated" 'z' .nothing, .alias "merge" 'm' .nothing,
      .alias "buffer-size" 'S' .argument, .alias "temporary-directory" 'T' .argument,
      .longOnly "parallel" .argument]
  match readCommandLine specs true c.args with
  | .error e => c.answer 2 "" (e.message tool ++ tryHelp tool)
  | .ok cl =>
    let global : KeyOrder :=
      cl.options.foldl (fun o (k, _) =>
        match k.toList with
        | [x] => (o.withLetter true x).map (fun o' => if x = 'b' then { o' with blanksEnd := true } else o') |>.getD o
        | _ => o) {}
    let keys := (cl.all "k").map readKey
    match keys.find? (fun k => match k with | .error _ => true | .ok _ => false) with
    | some (.error m) => c.answer 2 "" (tool ++ ": " ++ m ++ "\n")
    | _ =>
    let tab := cl.last? "t"
    let tabChar : Option Char := tab.bind fun t => if t = "\\0" then some (Char.ofNat 0) else t.toList.head?
    let badTab := match tab with
      | some t => t.isEmpty || (t.length > 1 && t != "\\0")
      | none => false
    if badTab then
      let t := tab.getD ""
      c.answer 2 "" (tool ++ ": " ++ (if t.isEmpty then "empty tab" else "multi-character tab " ++ quoteAlways t) ++ "\n")
    else
    let keys : List SortKey := keys.filterMap (·.toOption)
    let keys := keys.map fun k =>
      if k.order.plain && !k.order.reverse then { k with order := global } else k
    let keys := if keys.isEmpty && !global.plain then [⟨0, 0, none, global⟩] else keys
    let unique := cl.has "u"
    let so : SortOrder := ⟨keys, tabChar, !(unique || cl.has "s"), global.reverse⟩
    let ending := if cl.has "z" then Char.ofNat 0 else '\n'
    let names := cl.operands
    match names.find? fun n => n != "-" && (c.tree.readAt c.cwd n matches .error .notFound) with
    | some n => c.answer 2 "" (tool ++ ": cannot read: " ++ quoteIfNeeded n ++ ": No such file or directory\n")
    | none =>
    let (inputs, err) := c.readAll names fun n e => tool ++ ": read failed: " ++ quoteIfNeeded n ++ ": " ++ osText e ++ "\n"
    if !err.isEmpty then c.answer 2 "" err
    else
    let lines := inputs.flatMap fun (_, bs) => (records ending (textOf bs)).map fun r =>
      if r.endsWith ending.toString then String.ofList r.toList.dropLast else r
    let checking := cl.has "c" || cl.has "C"
    if checking then
      let pairs := lines.zip (lines.drop 1)
      let bad := pairs.zipIdx.find? fun ((a, b), _) =>
        match so.compareLines a b with
        | .gt => true
        | .eq => unique
        | .lt => false
      match bad with
      | some ((_, b), i) =>
        let report := if cl.has "C" then "" else
          tool ++ ": " ++ (names.headD "-") ++ ":" ++ toString (i + 2) ++ ": disorder: " ++ b ++ "\n"
        c.answer 1 "" report
      | none => c.answer 0 "" ""
    else
    let sorted := lines.mergeSort fun a b => so.compareLines a b != .gt
    let sorted := if unique then firstOfRuns (fun a b => so.compareLines a b == .eq) sorted else sorted
    let out := bytes (String.join (sorted.map (· ++ ending.toString)))
    match cl.last? "o" with
    | some target =>
      match c.tree.writeAt c.cwd target out false with
      | .ok t => Done.buffered 0 [] [] t
      | .error e => c.answer 2 "" (tool ++ ": open failed: " ++ quoteIfNeeded target ++ ": " ++ osText e ++ "\n")
    | none => Done.buffered 0 out [] c.tree

/-- The part of a line `uniq` compares: after skipping fields and characters, up to a number
of characters, folded to one case when asked. Fields are separated by blanks and line breaks. -/
def uniqKey (fields chars : Nat) (width : Option Nat) (fold : Bool) (l : String) : List Char :=
  let sep (c : Char) : Bool := isBlank c || c = '\n'
  let rec skip : Nat → List Char → List Char
    | 0, cs => cs
    | n + 1, cs => skip n ((cs.dropWhile sep).dropWhile (!sep ·))
  let cs := (skip fields l.toList).drop chars
  let cs := match width with
    | some w => cs.take w
    | none => cs
  if fold then cs.map Char.toUpper else cs

inductive Marking where
  | none
  | prepend
  | separate
  | append
  | both
  deriving BEq, DecidableEq

structure UniqShow where
  single : Bool
  firstRepeated : Bool
  laterRepeated : Bool
  count : Bool
  delimit : Marking
  grouping : Marking

def UniqShow.render (u : UniqShow) (groups : List (List String)) : List String :=
  if u.grouping != .none then
    let marked := groups.zipIdx.flatMap fun (g, i) =>
      let before := u.grouping == .prepend || u.grouping == .both ||
        (i > 0 && (u.grouping == .append || u.grouping == .separate))
      (if before then [""] else []) ++ g
    marked ++ (if (u.grouping == .append || u.grouping == .both) && !groups.isEmpty then [""] else [])
  else
    let counted (k : Nat) (l : String) : String :=
      (if u.count then Text.padLeft 7 (toString k) ++ " " else "") ++ l
    let step (acc : List String × Bool) (g : List String) : List String × Bool :=
      let (out, firstMark) := acc
      match g with
      | [] => acc
      | [l] => (out ++ (if u.single then [counted 1 l] else []), firstMark)
      | first :: _ =>
        let k := g.length
        if u.laterRepeated then
          let mark := u.delimit == .prepend || (u.delimit == .separate && !firstMark)
          let lastLine := g.getLast?.toList
          (out ++ (if mark then [""] else []) ++ g.dropLast.map (counted k) ++
            (if u.firstRepeated then lastLine.map (counted k) else []), false)
        else (out ++ (if u.firstRepeated then [counted k first] else []), false)
    (groups.foldl step ([], true)).1

def uniq (c : Call) : Done :=
  let tool := c.tool "uniq"
  let specs : List OptionSpec :=
    [.flag 'c', .flag 'd', .flag 'D', .flag 'u', .flag 'i', .flag 'z', .withArg 'f', .withArg 's', .withArg 'w',
      .alias "count" 'c' .nothing, .alias "repeated" 'd' .nothing, .alias "unique" 'u' .nothing,
      .alias "ignore-case" 'i' .nothing, .alias "skip-fields" 'f' .argument, .alias "skip-chars" 's' .argument,
      .alias "check-chars" 'w' .argument, .alias "zero-terminated" 'z' .nothing,
      .alias "all-repeated" 'D' .optional, .longOnly "group" .optional]
  match readCommandLine specs true c.args with
  | .error e => c.answer 1 "" (e.message tool ++ tryHelp tool)
  | .ok cl =>
    match cl.operands with
    | _ :: _ :: extra :: _ => c.answer 1 "" (tool ++ ": extra operand " ++ quoteAlways extra ++ "\n" ++ tryHelp tool)
    | ops =>
      let number (k : String) (what : String) : Except String Nat :=
        match cl.last? k with
        | none => .ok 0
        | some v => match v.toNat? with
          | some n => .ok n
          | none => .error (tool ++ ": " ++ v ++ ": " ++ what ++ "\n")
      let delimit : Except String Marking :=
        match cl.options.filter (·.1 == "D") |>.getLast? with
        | some (_, some v) => chooseArgument tool "--all-repeated" v
            [("none", Marking.none), ("prepend", .prepend), ("separate", .separate)]
        | _ => .ok .none
      let grouping : Except String Marking :=
        if !cl.has "group" then .ok .none
        else match cl.last? "group" with
          | some v => chooseArgument tool "--group" v
              [("prepend", Marking.prepend), ("append", .append), ("separate", .separate), ("both", .both)]
          | none => .ok .separate
      let settings : Except String (Nat × Nat × Option Nat × Marking × Marking) := do
        let f ← number "f" "invalid number of fields to skip"
        let s ← number "s" "invalid number of bytes to skip"
        let w ← match cl.last? "w" with
          | none => pure none
          | some _ => some <$> number "w" "invalid number of bytes to compare"
        let d ← delimit
        let g ← grouping
        pure (f, s, w, d, g)
      match settings with
      | .error m => c.answer 1 "" m
      | .ok (fields, chars, width, delimit, grouping) =>
      if grouping != .none && (cl.has "c" || cl.has "d" || cl.has "D" || cl.has "u") then
        c.answer 1 "" (tool ++ ": --group is mutually exclusive with -c/-d/-D/-u\n" ++ tryHelp tool)
      else if cl.has "c" && cl.has "D" then
        c.answer 1 "" (tool ++ ": printing all duplicated lines and repeat counts is meaningless\n" ++ tryHelp tool)
      else
      let key := uniqKey fields chars width (cl.has "i")
      let ending := if cl.has "z" then Char.ofNat 0 else '\n'
      match c.readInput (ops.headD "-") with
      | .error e => c.answer 1 "" (tool ++ ": " ++ quoteIfNeeded (ops.headD "-") ++ ": " ++ osText e ++ "\n")
      | .ok bs =>
        let lines := (records ending (textOf bs)).map fun r =>
          if r.endsWith ending.toString then String.ofList r.toList.dropLast else r
        let groups := lines.foldl (fun (acc : List (List String)) l =>
          match acc.getLast? with
          | some (g@(first :: _)) =>
            if key first == key l then acc.dropLast ++ [g ++ [l]] else acc ++ [[l]]
          | _ => acc ++ [[l]]) []
        let shown : UniqShow :=
          { single := !(cl.has "d" || cl.has "D"), firstRepeated := !cl.has "u",
            laterRepeated := cl.has "D", count := cl.has "c", delimit, grouping }
        let out := bytes (String.join ((shown.render groups).map (· ++ ending.toString)))
        match ops with
        | [_, target] =>
          match c.tree.writeAt c.cwd target out false with
          | .ok t => Done.buffered 0 [] [] t
          | .error e => c.answer 1 "" (tool ++ ": " ++ quoteIfNeeded target ++ ": " ++ osText e ++ "\n")
        | _ => Done.buffered 0 out [] c.tree

end LineCoverage.Shell
