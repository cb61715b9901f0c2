import LineCoverage.Git.Repository
import LineCoverage.Regex.Match
/-! Revisions: the names git reads for objects of a repository.

A revision is read from its end. A final `~n` or `^n` (no digits meaning 1) goes `n`
generations back from a commit, so only `0` is possible in a repository of one commit. A final
`^{type}` peels the object before it to a commit, tree or blob, `^{}` takes it as it is, and
`^{/text}` searches commit messages. Otherwise the name is a full object id (any case), a
reference (`HEAD`, `@`, the branch, `heads/` or `refs/heads/` and the branch), a reference
followed by `@{n}` for an entry of its log, which has one entry, or by `@{date}` for the entry
at a date, which is always that one entry when the text reads as a date, a description ending in
`-g` and an abbreviated commit id, or an abbreviation of at least four hex digits of an
object id. When an abbreviation fits several objects, the kind of object wanted decides.

A failed step may say why on the error stream (an object of the wrong kind); a log asked for
an entry it does not have ends the command.
-/

set_option autoImplicit false

namespace LineCoverage.Git

inductive Found where
  | commit (c : Commit)
  | tree (files : FileSet)
  | blob (bytes : List UInt8)
  | unknown (id : String)

def Found.kind : Found → String
  | .commit _ => "commit"
  | .tree _ => "tree"
  | .blob _ => "blob"
  | .unknown _ => "object"

def Found.id : Found → String
  | .commit c => c.id
  | .tree files => Digest.hex (treeId files)
  | .blob bytes => Digest.hex (objectId "blob" bytes)
  | .unknown id => id

inductive Want where
  | any
  | commitish
  | treeish
  | commitOnly

def Found.suits (w : Want) : Found → Bool
  | .commit _ => true
  | .tree _ => match w with
    | .any | .treeish => true
    | _ => false
  | .blob _ => match w with
    | .any => true
    | _ => false
  | .unknown _ => false

inductive Resolved where
  | found (o : Found)
  | missing (errors : List String)
  | fatal (message : String)

def subtrees (files : FileSet) : List FileSet :=
  let dirs := (files.flatMap fun (l, _) => (List.range l.length).filterMap fun n =>
    if n = 0 then none else some (l.take n)).eraseDups
  dirs.map fun d => files.filterMap fun (l, c) =>
    if d.isPrefixOf l then some (l.drop d.length, c) else none

def objectsOf (c : Commit) : List Found :=
  [.commit c, .tree c.files] ++ (subtrees c.files).map .tree ++ c.files.map fun (_, b) => .blob b

def isHexChar (ch : Char) : Bool := ch.isDigit || ('a' ≤ ch && ch ≤ 'f') || ('A' ≤ ch && ch ≤ 'F')

def lowerHex (s : String) : String := String.ofList (s.toList.map Char.toLower)

/-- The object an abbreviated id names: four to forty hex digits of any case. Of several
objects it fits, the only one of the wanted kind. -/
def Repository.abbreviated? (r : Repository) (w : Want) (s : String) : Option Found :=
  if s.length < 4 || s.length > 40 || !s.toList.all isHexChar then none
  else
    match r.head with
    | none => none
    | some c =>
      let fits := ((objectsOf c).filter fun o => (lowerHex s).isPrefixOf o.id)
      let distinct := fits.foldl (fun acc o => if acc.any (·.id == o.id) then acc else acc ++ [o]) []
      match distinct with
      | [o] => some o
      | _ =>
        match w, distinct.filter (·.suits w) with
        | .any, _ => none
        | _, [o] => some o
        | _, _ => none

def Repository.byId (r : Repository) (s : String) : Found :=
  let id := lowerHex s
  match r.head with
  | some c => ((objectsOf c).find? (·.id == id)).getD (.unknown id)
  | none => .unknown id

def Repository.reference? (r : Repository) (name : String) : Option Commit :=
  if name = "HEAD" ∨ name = "@" ∨ name = r.branch ∨ name = "heads/" ++ r.branch ∨
      name = "refs/heads/" ++ r.branch then r.head
  else none

/-- Whether a name would be an unclear reference: it is empty after a slash, or ends in one,
counting dots as nothing. -/
def unclearPath (cs : List Char) : Bool :=
  let step : Option Bool → Char → Option Bool
    | none, _ => none
    | some slash, c =>
      if c = '/' then (if slash then none else some true)
      else if c = '.' then some slash
      else some false
  match cs.foldl step (some true) with
  | none => true
  | some slash => slash

def readCount (digits : List Char) : Option Nat :=
  let n := digits.foldl (fun n d => n * 10 + (d.toNat - 48)) 0
  if digits.length > 10 || n > 2147483647 then none else some n

def generationSuffix (cs : List Char) : Option (List Char × Char × Nat) :=
  let digits := (cs.reverse.takeWhile Char.isDigit).reverse
  let before := cs.take (cs.length - digits.length)
  match before.getLast? with
  | some op =>
    if op = '~' ∨ op = '^' then
      match readCount digits with
      | some n => some (before.dropLast, op, if digits.isEmpty then 1 else n)
      | none => some (before.dropLast, op, 0x100000000)
    else none
  | none => none

def peelSuffix (cs : List Char) : Option (List Char × List Char) :=
  if cs.length < 4 || cs.getLast? != some '}' then none
  else
    let rec find : Nat → Option Nat
      | 0 => none
      | k + 1 => if cs[k + 1]? == some '{' && cs[k]? == some '^' then some k else find k
    match find (cs.length - 1) with
    | some k => some (cs.take k, cs.drop (k + 2))
    | none => none

def Found.asCommit : Found → Except (List String) Commit
  | .commit c => .ok c
  | .unknown _ => .error []
  | o => .error [s!"error: object {o.id} is a {o.kind}, not a commit"]

def Found.peelTo (name : String) (kind : String) : Found → Except (List String) Found
  | .commit c =>
    if kind = "commit" ∨ kind = "object" then .ok (.commit c)
    else if kind = "tree" then .ok (.tree c.files)
    else .error [s!"error: {name}: expected {kind} type, but the object dereferences to tree type"]
  | .unknown _ => .error []
  | o =>
    if kind = o.kind ∨ kind = "object" then .ok o
    else .error [s!"error: {name}: expected {kind} type, but the object dereferences to {o.kind} type"]

def logSuffix (cs : List Char) : Option (List Char × List Char) :=
  if cs.getLast? != some '}' || cs.length < 4 then none
  else
    let rec find : Nat → Option Nat
      | 0 => if cs[0]? == some '@' && cs[1]? == some '{' then some 0 else none
      | k + 1 => if cs[k + 1]? == some '@' && cs[k + 2]? == some '{' then some (k + 1) else find k
    match find (cs.length - 4) with
    | some pos => some (cs.take pos, (cs.drop (pos + 2)).dropLast)
    | none => none

/-- Whether a text reads as a date, loosely: it has a digit, or a word that names a month (three
letters or more of it), a moment (`now`, `noon`, `yesterday` and the like), a count (`one` to
`ten`, or `last`), or after a count a unit of time or a weekday. -/
def readsAsDate (text : List Char) : Bool :=
  let words := (text.map Char.toLower).splitBy fun a b => a.isAlpha == b.isAlpha
  let startOf (least : Nat) (w : List Char) (name : String) : Bool :=
    w.length ≥ least && w.isPrefixOf name.toList
  let months := ["january", "february", "march", "april", "may", "june", "july", "august",
    "september", "october", "november", "december"]
  let weekdays := ["sunday", "monday", "tuesday", "wednesday", "thursday", "friday", "saturday"]
  let moments := ["yesterday", "noon", "midnight", "tea", "pm", "am", "never", "now"]
  let counts := ["one", "two", "three", "four", "five", "six", "seven", "eight", "nine", "ten", "last"]
  let units := ["seconds", "minutes", "hours", "days", "weeks"]
  let step (acc : Bool × Bool) (w : List Char) : Bool × Bool :=
    let counted := acc.2
    if !(w.all Char.isAlpha) then acc
    else if months.any (startOf 3 w) || moments.contains (String.ofList w) then (true, counted)
    else if !counted then
      if counts.contains (String.ofList w) then (true, true) else acc
    else if units.any (fun u => startOf (u.length - 1) w u) || weekdays.any (startOf 3 w) ||
        startOf 5 w "months" || startOf 4 w "years" then (true, false)
    else acc
  text.any Char.isDigit || (words.foldl step (false, false)).1

/-- Whether a commit's message answers a search (`:/TEXT` or `^{/TEXT}`), the text an extended
regular expression: a leading `!-` asks for a message it does not match and `!!` stands for a
leading `!`. None when the search is not well formed: another character after a leading `!`,
or an expression that cannot be read. -/
def Commit.answers (c : Commit) (text : List Char) : Option Bool :=
  let parts : Option (Bool × List Char) := match text with
    | '!' :: '-' :: r => some (true, r)
    | '!' :: '!' :: r => some (false, '!' :: r)
    | '!' :: _ => none
    | r => some (false, r)
  parts.bind fun (negative, body) =>
    (Regex.compile .posixExtended (String.ofList body) false).toOption.map fun re =>
      negative != re.found c.message

def Repository.basic (r : Repository) (cs : List Char) : Resolved :=
  let name := String.ofList cs
  if cs.length = 40 && cs.all isHexChar then .found (r.byId name)
  else
    match logSuffix cs with
    | some (base, selector) =>
      let upstream := ["u", "upstream"].contains (String.ofList (selector.map Char.toLower))
      if selector.head? == some '-' then .missing []
      else if upstream then
        let b := String.ofList base
        let branch := if b = "" ∨ b = "HEAD" then r.branch else b
        if branch = r.branch ∧ r.head.isSome then
          .fatal s!"fatal: no upstream configured for branch '{branch}'\n"
        else .fatal s!"fatal: no such branch: '{branch}'\n"
      else if !base.isEmpty && unclearPath base then .missing []
      else
        let target := if base.isEmpty then r.head else r.reference? (String.ofList base)
        match target with
        | none => .missing []
        | some c =>
          if !selector.all Char.isDigit then
            if readsAsDate selector then .found (.commit c) else .missing []
          else
            let nth := selector.foldl (fun n d => n * 10 + (d.toNat - 48)) 0
            if nth = 0 ∨ nth ≥ 100000000 then .found (.commit c)
            else
              let shown := if base.isEmpty then r.branch else String.ofList base
              .fatal s!"fatal: log for '{shown}' only has 1 entries\n"
    | none =>
      if unclearPath cs then .missing []
      else
        match r.reference? name with
        | some c => .found (.commit c)
        | none => .missing []

def Repository.described? (r : Repository) (cs : List Char) : Option Found :=
  let rec find : Nat → Option Nat
    | 0 => none
    | k + 1 => if k + 1 ≥ 2 && cs[k + 1]? == some 'g' && cs[k]? == some '-' then some (k + 1) else find k
  match find (cs.length - 1) with
  | some g => r.abbreviated? .commitOnly (String.ofList (cs.drop (g + 1)))
  | none => none

/-- The object a revision names, wanted of a kind; `fuel` above the name's length is enough,
as each step reads a shorter name. -/
def Repository.revision (r : Repository) : Nat → Want → List Char → Resolved
  | 0, _, _ => .missing []
  | fuel + 1, want, cs =>
    match generationSuffix cs with
    | some (base, _, n) =>
      match r.revision fuel .commitish base with
      | .found o =>
        match o.asCommit with
        | .ok c => if n = 0 then .found (.commit c) else .missing []
        | .error errs => .missing errs
      | other => other
    | none =>
      let peeled : Resolved := match peelSuffix cs with
        | none => .missing []
        | some (base, rest) =>
          let name := String.ofList cs
          let kind := ["commit", "tag", "tree", "blob", "object"].find? fun k =>
            (k ++ "\x7d").toList.isPrefixOf rest
          let search := rest.head? == some '/'
          let inner : Want := match kind with
            | some "commit" => .commitish
            | some "tree" => .treeish
            | _ => if search then .commitish else .any
          if kind.isNone && rest != ['}'] && !search then .missing []
          else
            match r.revision fuel inner base with
            | .found o =>
              match o with
              | .unknown _ => .missing []
              | _ =>
                match kind with
                | none =>
                  if search then
                    match o.peelTo name "commit" with
                    | .ok (.commit c) =>
                      if c.answers (rest.drop 1).dropLast == some true then .found (.commit c)
                      else .missing []
                    | .ok _ => .missing []
                    | .error errs => .missing errs
                  else .found o
                | some k =>
                  match o.peelTo name k with
                  | .ok p => .found p
                  | .error errs => .missing errs
            | other => other
      match peeled with
      | .found o => .found o
      | .fatal m => .fatal m
      | .missing errs =>
        match r.basic cs with
        | .found o => .found o
        | .fatal m => .fatal m
        | .missing more =>
          match r.described? cs with
          | some o => .found o
          | none =>
            match r.abbreviated? want (String.ofList cs) with
            | some o => .found o
            | none => .missing (errs ++ more)

def Repository.resolve (r : Repository) (want : Want) (rev : String) : Resolved :=
  r.revision (rev.length + 1) want rev.toList

def findEntry (files : FileSet) : List String → Option Found
  | [] => none
  | [p] =>
    match files.find? (·.1 == [p]) with
    | some (_, c) => some (.blob c)
    | none => if p ≠ "" && (dirNames files).contains p then some (.tree (below files p)) else none
  | p :: q :: more =>
    if p ≠ "" && (dirNames files).contains p then
      if q = "" && more.isEmpty then some (.tree (below files p))
      else findEntry (below files p) (q :: more)
    else none

def findPath (files : FileSet) (path : String) : Option Found :=
  if path.isEmpty then some (.tree files) else findEntry files (path.splitOn "/")

def Found.treeFiles? : Found → Option FileSet
  | .commit c => some c.files
  | .tree files => some files
  | _ => none

example : (findEntry [(["src", "a.c"], [1])] ["src", ""]).isSome = true ∧
    (findEntry [(["src", "a.c"], [1])] ["src", "a.c", ""]).isNone = true ∧
    (findEntry [(["src", "a.c"], [1])] ["src", "", "a.c"]).isNone = true := by decide

end LineCoverage.Git
