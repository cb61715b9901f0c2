import LineCoverage.Shell.Lexer
/-! Reading shell tokens as commands.

A script is a list of `&&`/`||` chains of pipelines, separated by `;`, `&` or line breaks.
Reserved words (`if`, `then`, `for`, `do`, `}` and the others) are recognised only where a
command starts, and only when written without quotes. A syntax error names the token that
was not expected, and the line it stands on.
-/

set_option autoImplicit false

namespace LineCoverage.Shell

structure SyntaxError where
  message : String
  line : Nat

abbrev Reading (α : Type) := Except SyntaxError (α × List Tok)

def isWord (t : Tok) (k : String) : Bool :=
  match t.token with
  | .word _ raw true => raw == k
  | _ => false

def isOp (t : Tok) (o : String) : Bool :=
  match t.token with
  | .op s => s == o
  | _ => false

def closingWords : List String := ["then", "else", "elif", "fi", "do", "done", "\x7d", "esac"]

def atListEnd : List Tok → Bool
  | [] => true
  | t :: _ => closingWords.any (isWord t) || isOp t ")" || isOp t ";;"

def describe (t : Tok) : String :=
  match t.token with
  | .word _ raw _ => "\"" ++ raw ++ "\""
  | .op "\n" => "newline"
  | .op s => "\"" ++ s ++ "\""
  | .redirect _ o => "\"" ++ o ++ "\""
  | .here _ _ => "\"<<\""
  | .error m => m

def unexpected (ts : List Tok) (expecting : Option String) : SyntaxError :=
  match ts with
  | [] =>
    ⟨"end of file unexpected" ++ (expecting.map (fun e => " (expecting \"" ++ e ++ "\")")).getD "", 0⟩
  | ⟨.error m, line⟩ :: _ => ⟨m, line⟩
  | t :: _ => ⟨describe t ++ " unexpected" ++
      (expecting.map (fun e => " (expecting \"" ++ e ++ "\")")).getD "", t.line⟩

def skipBreaks (ts : List Tok) : List Tok := ts.dropWhile (isOp · "\n")

def expectWord (k : String) (ts : List Tok) : Except SyntaxError (List Tok) :=
  match ts with
  | t :: rest => if isWord t k then .ok rest else .error (unexpected ts (some k))
  | [] => .error (unexpected ts (some k))

/-- An assignment `NAME=value` written as the start of a word. -/
def assignment? (w : Word) : Option (String × Word) :=
  match w with
  | .text s false :: rest =>
    match s.splitOn "=" with
    | name :: value :: more =>
      if isName name then some (name, (if (value :: more).length = 1 && value.isEmpty then [] else [.text ("=".intercalate (value :: more)) false]) ++ rest)
      else none
    | _ => none
  | _ => none

def redirectOf (fd : Option Nat) (o : String) (target : Word) : Redirect :=
  match o with
  | ">" | ">|" => .toFile (fd.getD 1) target false
  | ">>" => .toFile (fd.getD 1) target true
  | ">&" => .copy (fd.getD 1) target
  | "<&" => .copy (fd.getD 0) target
  | "<>" => .fromFile (fd.getD 0) target
  | _ => .fromFile (fd.getD 0) target

def readRedirects : Nat → List Redirect → List Tok → Reading (List Redirect)
  | 0, acc, ts => .ok (acc, ts)
  | fuel + 1, acc, ts =>
    match ts with
    | ⟨.redirect fd o, _⟩ :: ⟨.word w _ _, _⟩ :: rest => readRedirects fuel (acc ++ [redirectOf fd o w]) rest
    | ⟨.redirect _ _, _⟩ :: rest => .error (unexpected rest none)
    | ⟨.here fd body, _⟩ :: rest => readRedirects fuel (acc ++ [.here (fd.getD 0) body]) rest
    | _ => .ok (acc, ts)

def readSimple : Nat → List (String × Word) → List Word → List Redirect → List Tok →
    Reading (List (String × Word) × List Word × List Redirect)
  | 0, a, w, r, ts => .ok ((a, w, r), ts)
  | fuel + 1, a, w, r, ts =>
    match ts with
    | ⟨.redirect fd o, _⟩ :: ⟨.word target _ _, _⟩ :: rest => readSimple fuel a w (r ++ [redirectOf fd o target]) rest
    | ⟨.redirect _ _, _⟩ :: rest => .error (unexpected rest none)
    | ⟨.here fd body, _⟩ :: rest => readSimple fuel a w (r ++ [.here (fd.getD 0) body]) rest
    | ⟨.word word _ _, _⟩ :: rest =>
      match w, assignment? word with
      | [], some asg => readSimple fuel (a ++ [asg]) w r rest
      | _, _ => readSimple fuel a (w ++ [word]) r rest
    | _ => .ok ((a, w, r), ts)

def readItems : List Word → List Tok → List Word × List Tok
  | acc, ⟨.word w _ _, _⟩ :: rest => readItems (acc ++ [w]) rest
  | acc, ts => (acc, ts)

def withRedirects (fuel : Nat) (r : Reading Command) : Reading Command :=
    match r with
    | .error e => .error e
    | .ok (c, rest) =>
      match readRedirects fuel [] rest with
      | .error e => .error e
      | .ok ([], after) => .ok (c, after)
      | .ok (rs, after) => .ok (.group c rs, after)

/-- The tokens of a simple command with the first word that is no assignment (after any
redirections) replaced by the tokens of the alias it names, and that alias's name; none when
that word is quoted, expanded or no alias. -/
def expandAlias (al : List (String × String)) : List Tok → Option (String × List Tok)
  | [] => none
  | t :: rest =>
    match t.token with
    | .redirect _ _ =>
      match rest with
      | target :: more => (expandAlias al more).map fun (n, ts) => (n, t :: target :: ts)
      | [] => none
    | .here _ _ => (expandAlias al rest).map fun (n, ts) => (n, t :: ts)
    | .word w raw plain =>
      if (assignment? w).isSome then (expandAlias al rest).map fun (n, ts) => (n, t :: ts)
      else if !plain then none
      else (al.find? (·.1 == raw)).map fun (n, value) => (n, (tokensFrom value t.line).filter (fun u => match u.token with
        | .op "\n" => false
        | _ => true) ++ rest)
    | _ => none

def readSimpleCommand (fuel : Nat) (t : Tok) (ts : List Tok) : Reading Command :=
  match readSimple fuel [] [] [] ts with
  | .error e => .error e
  | .ok ((a, w, r), rest) =>
    if a.isEmpty && w.isEmpty && r.isEmpty then .error (unexpected ts none)
    else .ok (.simple t.line a w r, rest)

mutual

def readList (al : List (String × String)) : Nat → List Command → List Tok → Reading Command
  | 0, acc, ts => .ok (.sequence acc, ts)
  | fuel + 1, acc, ts =>
    let ts := skipBreaks ts
    if atListEnd ts then .ok (.sequence acc, ts)
    else
      match readAndOr al fuel ts with
      | .error e => .error e
      | .ok (c, rest) =>
        match rest with
        | t :: rest' =>
          if isOp t "&" then readList al fuel (acc ++ [.background c]) rest'
          else if isOp t ";" || isOp t "\n" then readList al fuel (acc ++ [c]) rest'
          else .ok (.sequence (acc ++ [c]), rest)
        | [] => .ok (.sequence (acc ++ [c]), [])

/-- Pipelines joined by `&&` and `||`, grouped from the left. -/
def readAndOr (al : List (String × String)) : Nat → List Tok → Reading Command
  | 0, ts => .error (unexpected ts none)
  | fuel + 1, ts =>
    match readPipeline al fuel ts with
    | .error e => .error e
    | .ok (first, rest) => readChain al fuel first rest

def readChain (al : List (String × String)) : Nat → Command → List Tok → Reading Command
  | 0, c, ts => .ok (c, ts)
  | fuel + 1, c, ts =>
    match ts with
    | t :: rest =>
      if isOp t "&&" || isOp t "||" then
        match readPipeline al fuel (skipBreaks rest) with
        | .error e => .error e
        | .ok (next, rest') =>
          readChain al fuel (if isOp t "&&" then .both c next else .either c next) rest'
      else .ok (c, ts)
    | [] => .ok (c, [])

def readPipeline (al : List (String × String)) : Nat → List Tok → Reading Command
  | 0, ts => .error (unexpected ts none)
  | fuel + 1, ts =>
    let (negated, ts) := match ts with
      | t :: rest => if isWord t "!" then (true, rest) else (false, ts)
      | [] => (false, ts)
    match readCommand al fuel ts with
    | .error e => .error e
    | .ok (first, rest) =>
      match readStages al fuel [first] rest with
      | .error e => .error e
      | .ok (stages, rest') =>
        match stages, negated with
        | [one], false => .ok (one, rest')
        | _, _ => .ok (.pipeline negated stages, rest')

def readStages (al : List (String × String)) : Nat → List Command → List Tok → Reading (List Command)
  | 0, acc, ts => .ok (acc, ts)
  | fuel + 1, acc, ts =>
    match ts with
    | t :: rest =>
      if isOp t "|" then
        match readCommand al fuel (skipBreaks rest) with
        | .error e => .error e
        | .ok (c, rest') => readStages al fuel (acc ++ [c]) rest'
      else .ok (acc, ts)
    | [] => .ok (acc, [])

def readCommand (al : List (String × String)) : Nat → List Tok → Reading Command
  | 0, ts => .error (unexpected ts none)
  | fuel + 1, ts =>
    match ts with
    | [] => .error (unexpected ts none)
    | t :: rest =>
      if isWord t "if" then withRedirects fuel (readIf al fuel rest)
      else if isWord t "for" then withRedirects fuel (readFor al fuel rest)
      else if isWord t "while" || isWord t "until" then
        withRedirects fuel (readLoop al fuel (isWord t "until") rest)
      else if isWord t "case" then withRedirects fuel (readCase al fuel rest)
      else if isWord t "\x7b" then
        match readList al fuel [] rest with
        | .error e => .error e
        | .ok (body, rest') =>
          match expectWord "\x7d" rest' with
          | .error e => .error e
          | .ok rest'' =>
            match readRedirects fuel [] rest'' with
            | .error e => .error e
            | .ok (rs, after) => .ok (.group body rs, after)
      else if isOp t "(" then
        match readList al fuel [] rest with
        | .error e => .error e
        | .ok (body, rest') =>
          match rest' with
          | c :: rest'' =>
            if isOp c ")" then
              match readRedirects fuel [] rest'' with
              | .error e => .error e
              | .ok (rs, after) => .ok (.subshell body rs, after)
            else .error (unexpected rest' (some ")"))
          | [] => .error (unexpected rest' (some ")"))
      else if closingWords.any (isWord t) then .error (unexpected ts none)
      else
        match expandAlias al ts with
        | some (name, ts') => readCommand (al.filter (·.1 != name)) fuel ts'
        | none =>
        match ts with
        | ⟨.word _ name true, _⟩ :: o :: c :: more =>
          if isOp o "(" then
            if !isName name then .error ⟨"Bad function name", t.line⟩
            else if !isOp c ")" then .error (unexpected (c :: more) (some ")"))
            else
              match readCommand al fuel (skipBreaks more) with
              | .error e => .error e
              | .ok (body, after) => .ok (.define name body, after)
          else readSimpleCommand fuel t ts
        | _ => readSimpleCommand fuel t ts

def readIf (al : List (String × String)) : Nat → List Tok → Reading Command
  | 0, ts => .error (unexpected ts none)
  | fuel + 1, ts =>
    match readList al fuel [] ts with
    | .error e => .error e
    | .ok (test, rest) =>
      match expectWord "then" rest with
      | .error e => .error e
      | .ok rest =>
        match readList al fuel [] rest with
        | .error e => .error e
        | .ok (body, rest) =>
          match rest with
          | t :: rest' =>
            if isWord t "fi" then .ok (.cond test body none, rest')
            else if isWord t "else" then
              match readList al fuel [] rest' with
              | .error e => .error e
              | .ok (other, rest'') =>
                match expectWord "fi" rest'' with
                | .error e => .error e
                | .ok after => .ok (.cond test body (some other), after)
            else if isWord t "elif" then
              match readIf al fuel rest' with
              | .error e => .error e
              | .ok (other, after) => .ok (.cond test body (some other), after)
            else .error (unexpected rest (some "fi"))
          | [] => .error (unexpected rest (some "fi"))

def readFor (al : List (String × String)) : Nat → List Tok → Reading Command
  | 0, ts => .error (unexpected ts none)
  | fuel + 1, ts =>
    match ts with
    | ⟨.word _ var _, _⟩ :: rest =>
      let rest := skipBreaks rest
      let (items, rest) := match rest with
        | t :: r => if isWord t "in" then (let (ws, r') := readItems [] r; (some ws, r')) else (none, rest)
        | [] => (none, rest)
      let rest := match rest with
        | t :: r => if isOp t ";" then r else rest
        | [] => rest
      match expectWord "do" (skipBreaks rest) with
      | .error e => .error e
      | .ok rest =>
        match readList al fuel [] rest with
        | .error e => .error e
        | .ok (body, rest) =>
          match expectWord "done" rest with
          | .error e => .error e
          | .ok after => .ok (.forEach var items body, after)
    | _ => .error (unexpected ts none)

def readLoop (al : List (String × String)) : Nat → Bool → List Tok → Reading Command
  | 0, _, ts => .error (unexpected ts none)
  | fuel + 1, untilMode, ts =>
    match readList al fuel [] ts with
    | .error e => .error e
    | .ok (test, rest) =>
      match expectWord "do" rest with
      | .error e => .error e
      | .ok rest =>
        match readList al fuel [] rest with
        | .error e => .error e
        | .ok (body, rest) =>
          match expectWord "done" rest with
          | .error e => .error e
          | .ok after => .ok (.loop test body untilMode, after)

def readCase (al : List (String × String)) : Nat → List Tok → Reading Command
  | 0, ts => .error (unexpected ts none)
  | fuel + 1, ts =>
    match ts with
    | ⟨.word subject _ _, _⟩ :: rest =>
      match expectWord "in" (skipBreaks rest) with
      | .error e => .error e
      | .ok rest =>
        match readArms al fuel [] rest with
        | .error e => .error e
        | .ok (arms, after) => .ok (.caseOf subject arms, after)
    | _ => .error (unexpected ts none)

def readArms (al : List (String × String)) : Nat → List (List Word × Command) → List Tok → Reading (List (List Word × Command))
  | 0, _, ts => .error (unexpected ts none)
  | fuel + 1, acc, ts =>
    let ts := skipBreaks ts
    match ts with
    | t :: rest =>
      if isWord t "esac" then .ok (acc, rest)
      else
        let rest := if isOp t "(" then rest else ts
        match readPatterns al fuel [] rest with
        | .error e => .error e
        | .ok (pats, rest) =>
          match readList al fuel [] rest with
          | .error e => .error e
          | .ok (body, rest) =>
            match rest with
            | u :: rest' =>
              if isOp u ";;" then readArms al fuel (acc ++ [(pats, body)]) rest'
              else if isWord u "esac" then .ok (acc ++ [(pats, body)], rest')
              else .error (unexpected rest (some "esac"))
            | [] => .error (unexpected rest (some "esac"))
    | [] => .error (unexpected ts (some "esac"))

def readPatterns (al : List (String × String)) : Nat → List Word → List Tok → Reading (List Word)
  | 0, _, ts => .error (unexpected ts none)
  | fuel + 1, acc, ts =>
    match ts with
    | ⟨.word w _ _, _⟩ :: t :: rest =>
      if isOp t "|" then readPatterns al fuel (acc ++ [w]) rest
      else if isOp t ")" then .ok (acc ++ [w], rest)
      else .error (unexpected (t :: rest) (some ")"))
    | _ => .error (unexpected ts none)

end

def parse (source : String) : Except SyntaxError Command :=
  let ts := tokens source
  match readList [] (4 * ts.length + 4) [] ts with
  | .error e => .error e
  | .ok (c, []) => .ok c
  | .ok (_, rest) => .error (unexpected rest none)

end LineCoverage.Shell
