import LineCoverage.Shell.Syntax
/-! Cutting shell source into tokens: words, operators and redirection operators, each with
the line it starts on.

Outside quotes a word ends at a blank, a line break or an operator character. Single quotes
keep everything up to the next single quote. Double quotes keep everything but expansions and
the escapes `\$`, `` \` ``, `\"` and `\\`. A `#` that starts a word starts a comment. Digits
written right before `<` or `>` name the descriptor redirected. The text of a here-document
is read from the lines after the one its operator stands on, as between double quotes but
with double quotes kept.

The word of `${name OP word}` is read in the quoting around the expansion, up to the brace
that closes it; a pattern after `#` or `%` is read as if unquoted. Inside such a word double
quotes open a stretch in which a closing brace is plain text, and within double quotes a
single quote is plain text. The inside of `$((...))` is read up to the `))` that balances it,
quotes being plain characters there. The command of `$(...)` ends at the parenthesis that
closes it as a command: a `)` that ends a `case` pattern does not count. A backquoted command
ends at the next backquote, with `\$`, `` \` ``, `\\` (and between double quotes `\"`)
unescaped.

Source that ends inside quotes or an expansion is a syntax error; the token list then ends with
an error token carrying the message and the line the source ends on.
-/

set_option autoImplicit false

namespace LineCoverage.Shell

inductive Token where
  /-- A word; `raw` is its source and `plain` says it has no quotes and no expansions. -/
  | word (w : Word) (raw : String) (plain : Bool)
  | op (s : String)
  | redirect (fd : Option Nat) (op : String)
  | here (fd : Option Nat) (body : Word)
  | error (message : String)
  deriving Repr, Inhabited

structure Tok where
  token : Token
  line : Nat
  deriving Repr, Inhabited

def isOperatorChar (c : Char) : Bool := c ∈ [';', '&', '|', '(', ')', '<', '>']

def isBlankChar (c : Char) : Bool := c = ' ' || c = '\t'

def isNameStart (c : Char) : Bool := c.isAlpha || c = '_'

def isNameChar (c : Char) : Bool := c.isAlphanum || c = '_'

def isName (s : String) : Bool :=
  match s.toList with
  | c :: rest => isNameStart c && rest.all isNameChar
  | [] => false

def isSpecialParam (c : Char) : Bool := c ∈ ['#', '?', '$', '!', '-', '*', '@']

def pushText (w : Word) (s : String) (quoted : Bool) : Word :=
  match w.getLast? with
  | some (.text t q) => if q == quoted then w.dropLast ++ [.text (t ++ s) q] else w ++ [.text s quoted]
  | _ => w ++ [.text s quoted]

def appendWord (w more : Word) : Word :=
  more.foldl (fun acc p => match p with
    | .text s q => pushText acc s q
    | other => acc ++ [other]) w

structure Source where
  rest : List Char
  line : Nat
  deriving Inhabited

def Source.skip : Nat → Source → Source
  | 0, s => s
  | n + 1, s =>
    match s.rest with
    | [] => s
    | c :: r => Source.skip n ⟨r, if c = '\n' then s.line + 1 else s.line⟩

def Source.next (s : Source) : Source := s.skip 1

structure LexFail where
  message : String
  line : Nat

abbrev Lexed (α : Type) := Except LexFail (α × Source)

/-- Where a word is being read, which decides where it ends and how characters are quoted:
unquoted (`delimiter` for a here-document's delimiter, where `$` and backquotes are plain),
between double quotes (`inVar` inside a parameter's word), the word of a parameter (`dq`
when the parameter stands between double quotes), a here-document's text, or arithmetic at
a depth of open parentheses. -/
inductive Mode where
  | base
  | delimiter
  | double (inVar : Bool)
  | var (dq : Bool)
  | here
  | arith (level : Nat)
  deriving DecidableEq

def Mode.dq : Mode → Bool
  | .base | .delimiter => false
  | .var dq => dq
  | _ => true

/-- Whether a backslash escapes a character, between double quotes, in this mode: `\`, a
backquote and `$` always, a double quote except in a here-document, and a closing brace in
the word of a parameter. -/
def Mode.escapes (m : Mode) (c : Char) : Bool :=
  c = '\\' || c = '`' || c = '$' || (c = '"' && m != .here) ||
    (c = '}' && match m with
      | .double true | .var _ => true
      | _ => false)

def scanBackquote : Nat → Bool → List Char → Source → Lexed String
  | 0, _, _, src => .error ⟨"EOF in backquote substitution", src.line⟩
  | fuel + 1, dq, acc, src =>
    match src.rest with
    | [] => .error ⟨"EOF in backquote substitution", src.line⟩
    | '`' :: _ => .ok (String.ofList acc.reverse, src.next)
    | '\\' :: '\n' :: _ => scanBackquote fuel dq acc (src.skip 2)
    | '\\' :: d :: _ =>
      if d = '\\' || d = '`' || d = '$' || (dq && d = '"') then scanBackquote fuel dq (d :: acc) (src.skip 2)
      else scanBackquote fuel dq (d :: '\\' :: acc) (src.skip 2)
    | ['\\'] => .error ⟨"EOF in backquote substitution", src.next.line⟩
    | c :: _ => scanBackquote fuel dq (c :: acc) src.next

/-- An open construct inside a command substitution, seen at the level of tokens: a
parenthesis, or a `case` before its subject, before `in`, among the patterns of an arm, or
in the commands of an arm. -/
inductive Frame where
  | paren
  | caseSubject
  | caseIn
  | casePatterns
  | caseBody
  deriving DecidableEq

structure Nest where
  frames : List Frame := []
  atCommand : Bool := true

def openingWords : List String :=
  ["then", "do", "else", "elif", "if", "while", "until", "\x7b", "\x7d", "!", "fi", "done"]

/-- The nesting after a token; none when the token is the `)` that closes the substitution. -/
def Nest.step (n : Nest) (t : Token) : Option Nest :=
  let top := n.frames.head?
  let rest := n.frames.drop 1
  match t with
  | .op "(" =>
    if top = some .casePatterns then some { n with atCommand := true }
    else some { frames := .paren :: n.frames, atCommand := true }
  | .op ")" =>
    if top = some .casePatterns then some { frames := .caseBody :: rest, atCommand := true }
    else if top = some .paren then some { frames := rest, atCommand := true }
    else none
  | .op ";;" =>
    if top = some .caseBody then some { frames := .casePatterns :: rest, atCommand := true }
    else some { n with atCommand := true }
  | .op _ => some { n with atCommand := true }
  | .redirect _ _ | .here _ _ | .error _ => some { n with atCommand := false }
  | .word _ raw plain =>
    if top = some .caseSubject then some { frames := .caseIn :: rest, atCommand := false }
    else if top = some .caseIn then
      some { frames := (if raw = "in" then Frame.casePatterns else .caseIn) :: rest, atCommand := false }
    else if top = some .casePatterns then
      if plain && raw = "esac" then some { frames := rest, atCommand := false } else some n
    else if n.atCommand && plain then
      if raw = "case" then some { frames := .caseSubject :: n.frames, atCommand := false }
      else if raw = "esac" && top = some .caseBody then some { frames := rest, atCommand := false }
      else some { n with atCommand := openingWords.contains raw }
    else some { n with atCommand := false }

def redirectOps : List String := ["<<-", "<<", "<&", "<>", ">>", ">&", ">|", "<", ">"]

def redirectOp? (cs : List Char) : Option String :=
  let text := String.ofList (cs.take 3)
  redirectOps.find? (fun o => text.startsWith o)

structure PendingHere where
  slot : Nat
  fd : Option Nat
  delimiter : String
  strip : Bool
  literal : Bool

def literalText (w : Word) : String :=
  String.join (w.map fun p => match p with
    | .text s _ => s
    | _ => "")

def isPlainWord (w : Word) : Bool :=
  w.all fun p => match p with
    | .text _ false => true
    | _ => false

def readHereLines : Nat → PendingHere → List Char → Source → List Char × Source
  | 0, _, acc, src => (acc, src)
  | fuel + 1, h, acc, src =>
    if src.rest.isEmpty then (acc, src)
    else
      let line := src.rest.takeWhile (· ≠ '\n')
      let after := src.skip (line.length + 1)
      let line' := if h.strip then line.dropWhile (· = '\t') else line
      if String.ofList line' = h.delimiter then (acc, after)
      else readHereLines fuel h (acc ++ line' ++ ['\n']) after

mutual

/-- Reads the pieces of a word in a mode, after the pieces `w` already read, up to where the
mode ends: for an unquoted word the first blank, line break or operator character (left
unread), for double quotes the closing quote, for a parameter's word the closing brace, for
arithmetic the balancing `))`, and for a here-document the end of its text. -/
def readPieces : Nat → Mode → Word → Source → Lexed Word
  | 0, _, _, src => .error ⟨"nesting too deep", src.line⟩
  | fuel + 1, mode, w, src =>
    match src.rest with
    | [] =>
      match mode with
      | .base | .delimiter | .here => .ok (w, src)
      | .double _ => .error ⟨"Unterminated quoted string", src.line⟩
      | .var dq => .error ⟨if dq then "Unterminated quoted string" else "Missing '\x7d'", src.line⟩
      | .arith _ => .error ⟨"Missing '))'", src.line⟩
    | c :: rest =>
      let unquoted := mode = .base || mode = .delimiter
      let bareQuotes := unquoted || mode = .var false
      if unquoted && (isBlankChar c || c = '\n' || isOperatorChar c) then .ok (w, src)
      else if c = '"' && (match mode with
          | .double _ => true
          | _ => false) then .ok (w, src.next)
      else if c = '}' && (match mode with
          | .var _ => true
          | _ => false) then .ok (w, src.next)
      else if c = '(' && (match mode with
          | .arith _ => true
          | _ => false) then
        let level := match mode with
          | .arith l => l
          | _ => 0
        readPieces fuel (.arith (level + 1)) (pushText w "(" true) src.next
      else if c = ')' && (match mode with
          | .arith _ => true
          | _ => false) then
        match mode, rest with
        | .arith (l + 1), _ => readPieces fuel (.arith l) (pushText w ")" true) src.next
        | _, ')' :: _ => .ok (w, src.skip 2)
        | _, _ => readPieces fuel mode (pushText w ")" true) src.next
      else if c = '\\' then
        match rest with
        | [] => readPieces fuel mode (pushText w "\\" mode.dq) src.next
        | '\n' :: _ => readPieces fuel mode w (src.skip 2)
        | d :: _ =>
          let text := if mode.dq && !mode.escapes d then "\\" ++ d.toString else d.toString
          readPieces fuel mode (pushText w text true) (src.skip 2)
      else if c = '\'' && bareQuotes then
        let inner := rest.takeWhile (· ≠ '\'')
        if inner.length = rest.length then .error ⟨"Unterminated quoted string", (src.skip (rest.length + 1)).line⟩
        else readPieces fuel mode (pushText w (String.ofList inner) true) (src.skip (inner.length + 2))
      else if c = '"' && (bareQuotes || mode = .var true) then
        match readPieces fuel (.double (!unquoted)) [] src.next with
        | .error e => .error e
        | .ok (inner, after) =>
          readPieces fuel mode (if inner.isEmpty then pushText w "" true else appendWord w inner) after
      else if c = '$' && mode != .delimiter then
        match readDollar fuel mode.dq src.next with
        | .error e => .error e
        | .ok (some p, after) => readPieces fuel mode (w ++ [p]) after
        | .ok (none, _) => readPieces fuel mode (pushText w "$" mode.dq) src.next
      else if c = '`' && mode != .delimiter then
        match scanBackquote (rest.length + 1) mode.dq [] src.next with
        | .error e => .error e
        | .ok (body, after) => readPieces fuel mode (w ++ [.command body 1 mode.dq]) after
      else readPieces fuel mode (pushText w c.toString mode.dq) src.next

def readDollar : Nat → Bool → Source → Lexed (Option Piece)
  | 0, _, src => .error ⟨"nesting too deep", src.line⟩
  | fuel + 1, dq, src =>
    match src.rest with
    | '{' :: _ => (readBrace fuel dq src.next).map fun (p, after) => (some p, after)
    | '(' :: '(' :: _ =>
      (readPieces fuel (.arith 0) [] (src.skip 2)).map fun (body, after) => (some (.arith body dq), after)
    | '(' :: _ =>
      let start := src.next
      match tokenize fuel start [] [] (some {}) with
      | .error e => .error e
      | .ok (_, after) =>
        let body := start.rest.take (start.rest.length - after.rest.length - 1)
        .ok (some (.command (String.ofList body) start.line dq), after)
    | c :: rest =>
      if isNameStart c then
        let name := c :: rest.takeWhile isNameChar
        .ok (some (.param (String.ofList name) .value [] dq), src.skip name.length)
      else if c.isDigit || isSpecialParam c then .ok (some (.param c.toString .value [] dq), src.next)
      else .ok (none, src)
    | [] => .ok (none, src)

def readBrace : Nat → Bool → Source → Lexed Piece
  | 0, _, src => .error ⟨"nesting too deep", src.line⟩
  | fuel + 1, dq, src =>
    let wordOf (op : ParamOp) (name : String) (wordDq : Bool) (from_ : Source) : Lexed Piece :=
      (readPieces fuel (.var wordDq) [] from_).map fun (w, after) => (.param name op w dq, after)
    let badFrom (from_ : Source) : Lexed Piece := wordOf .bad "" dq from_
    let operator (name : String) (at_ : Source) : Lexed Piece :=
      match at_.rest with
      | '}' :: _ => .ok (.param name .value [] dq, at_.next)
      | ':' :: d :: _ =>
        match d with
        | '-' => wordOf (.orDefault true) name dq (at_.skip 2)
        | '=' => wordOf (.assign true) name dq (at_.skip 2)
        | '?' => wordOf (.orError true) name dq (at_.skip 2)
        | '+' => wordOf (.alternative true) name dq (at_.skip 2)
        | '}' => badFrom at_.next
        | _ => badFrom (at_.skip 2)
      | '-' :: _ => wordOf (.orDefault false) name dq at_.next
      | '=' :: _ => wordOf (.assign false) name dq at_.next
      | '?' :: _ => wordOf (.orError false) name dq at_.next
      | '+' :: _ => wordOf (.alternative false) name dq at_.next
      | '#' :: '#' :: _ => wordOf (.trimPrefix true) name false (at_.skip 2)
      | '#' :: _ => wordOf (.trimPrefix false) name false at_.next
      | '%' :: '%' :: _ => wordOf (.trimSuffix true) name false (at_.skip 2)
      | '%' :: _ => wordOf (.trimSuffix false) name false at_.next
      | [] => badFrom at_
      | _ :: _ => badFrom at_.next
    let nameAt (cs : List Char) : List Char :=
      match cs with
      | c :: rest =>
        if isNameStart c then c :: rest.takeWhile isNameChar
        else if c.isDigit then cs.takeWhile Char.isDigit
        else []
      | [] => []
    match src.rest with
    | [] => badFrom src
    | c :: rest =>
      let name := nameAt src.rest
      if !name.isEmpty then operator (String.ofList name) (src.skip name.length)
      else if c = '}' then badFrom src
      else if c = '#' then
        match rest with
        | d :: more =>
          if d = '_' || d.isAlphanum then
            let inner := nameAt rest
            let after := src.skip (1 + inner.length)
            match after.rest with
            | '}' :: _ => .ok (.param (String.ofList inner) .length [] dq, after.next)
            | _ => badFrom after
          else if d = '}' || more.head? != some '}' then operator "#" src.next
          else if isSpecialParam d then .ok (.param d.toString .length [] dq, src.skip 3)
          else badFrom (src.skip 2)
        | [] => operator "#" src.next
      else if isSpecialParam c then operator c.toString src.next
      else badFrom src.next

/-- Cuts source into tokens, after the tokens `acc`, with here-documents waiting for their
text. At the top (`nest` none) it reads to the end, and a syntax error ends the tokens with
an error token; inside a command substitution it stops after the `)` that closes it, and a
syntax error fails the whole. -/
def tokenize : Nat → Source → List PendingHere → List Tok → Option Nest → Except LexFail (List Tok × Source)
  | 0, src, _, acc, _ => .ok (acc, src)
  | fuel + 1, src, pending, acc, nest =>
    let failed (e : LexFail) : Except LexFail (List Tok × Source) :=
      match nest with
      | none => .ok (acc ++ [⟨.error e.message, e.line⟩], ⟨[], e.line⟩)
      | some _ => .error e
    let emit (t : Token) (line : Nat) (after : Source) : Except LexFail (List Tok × Source) :=
      match nest with
      | none => tokenize fuel after pending (acc ++ [⟨t, line⟩]) none
      | some n =>
        match n.step t with
        | none => .ok (acc, after)
        | some n' => tokenize fuel after pending (acc ++ [⟨t, line⟩]) (some n')
    match src.rest with
    | [] =>
      match readHeres fuel pending acc src with
      | .error e => failed e
      | .ok (acc', after) =>
        match nest with
        | none => .ok (acc', after)
        | some _ => .error ⟨"end of file unexpected (expecting \")\")", src.line⟩
    | c :: rest =>
      if isBlankChar c then tokenize fuel src.next pending acc nest
      else if c = '\\' && rest.head? = some '\n' then tokenize fuel (src.skip 2) pending acc nest
      else if c = '#' then tokenize fuel (src.skip (rest.takeWhile (· ≠ '\n')).length.succ) pending acc nest
      else if c = '\n' then
        match readHeres fuel pending acc src.next with
        | .error e => failed e
        | .ok (acc', after) =>
          match nest with
          | none => tokenize fuel after [] (acc' ++ [⟨.op "\n", src.line⟩]) none
          | some n =>
            match n.step (.op "\n") with
            | none => .ok (acc', after)
            | some n' => tokenize fuel after [] (acc' ++ [⟨.op "\n", src.line⟩]) (some n')
      else if c = ';' then
        match rest with
        | ';' :: _ => emit (.op ";;") src.line (src.skip 2)
        | _ => emit (.op ";") src.line src.next
      else if c = '&' then
        match rest with
        | '&' :: _ => emit (.op "&&") src.line (src.skip 2)
        | _ => emit (.op "&") src.line src.next
      else if c = '|' then
        match rest with
        | '|' :: _ => emit (.op "||") src.line (src.skip 2)
        | _ => emit (.op "|") src.line src.next
      else if c = '(' || c = ')' then emit (.op c.toString) src.line src.next
      else
        match readPieces fuel .base [] src with
        | .error e => failed e
        | .ok (w, after) =>
          let raw := src.rest.take (src.rest.length - after.rest.length)
          let plain := isPlainWord w
          let ioNumber := plain && !raw.isEmpty && raw.all Char.isDigit &&
            (after.rest.head? = some '<' || after.rest.head? = some '>')
          let (fd, opAt) := if ioNumber then (some (Numeral.leadingValue (String.ofList raw)), after)
            else (none, src)
          match redirectOp? opAt.rest with
          | some o =>
            let afterOp := opAt.skip o.length
            if o = "<<" || o = "<<-" then
              let blanks := (afterOp.rest.takeWhile isBlankChar).length
              let start := afterOp.skip blanks
              match readPieces fuel .delimiter [] start with
              | .error e => failed e
              | .ok (dw, afterDelim) =>
                if afterDelim.rest.length = start.rest.length then emit (.redirect fd o) src.line afterOp
                else
                  let h : PendingHere := ⟨acc.length, fd, literalText dw, o = "<<-", !isPlainWord dw⟩
                  match nest with
                  | none => tokenize fuel afterDelim (pending ++ [h]) (acc ++ [⟨.here fd [], src.line⟩]) none
                  | some n =>
                    match n.step (.here fd []) with
                    | none => .ok (acc, afterDelim)
                    | some n' =>
                      tokenize fuel afterDelim (pending ++ [h]) (acc ++ [⟨.here fd [], src.line⟩]) (some n')
            else emit (.redirect fd o) src.line afterOp
          | none =>
            if after.rest.length = src.rest.length then tokenize fuel src.next pending acc nest
            else emit (.word w (String.ofList raw) plain) src.line after

def readHeres : Nat → List PendingHere → List Tok → Source → Except LexFail (List Tok × Source)
  | 0, _, acc, src => .ok (acc, src)
  | _ + 1, [], acc, src => .ok (acc, src)
  | fuel + 1, h :: hs, acc, src =>
    let (text, after) := readHereLines (src.rest.length + 1) h [] src
    let body : Except LexFail Word :=
      if h.literal then .ok [.text (String.ofList text) true]
      else (readPieces fuel .here [.text "" true] ⟨text, src.line⟩).map (·.1)
    match body with
    | .error e => .error e
    | .ok b =>
      let acc' := acc.modify h.slot fun t => { t with token := .here h.fd b }
      readHeres fuel hs acc' after

end

def tokensFrom (source : String) (line : Nat) : List Tok :=
  match tokenize (4 * source.length + 8) ⟨source.toList, line⟩ [] [] none with
  | .ok (ts, _) => ts
  | .error e => [⟨.error e.message, e.line⟩]

def tokens (source : String) : List Tok := tokensFrom source 1

end LineCoverage.Shell
