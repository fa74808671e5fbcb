import TapeToJava.Shell.Tree
import TapeToJava.Text.Pieces

/-! Reading scripts. A script is read a line at a time, or more lines where a command goes on behind the
end of its line. `none` stands for a text that is not a command. -/

namespace TapeToJava.Shell.Reading

/-! ### Characters and bare words -/

/-- The characters that end a word. -/
def endsWord (c : Char) : Bool :=
  c == ' ' || c == '\t' || c == '\n' || c == ';' || c == '&' || c == '|' || c == '<' || c == '>' ||
    c == '(' || c == ')'

/-- Drops blanks, continued line ends and comments, and line ends if they are wanted, too. The first
flag is for being inside a comment. -/
def skip : Bool → Bool → List Char → List Char
  | _, _, [] => []
  | true, lines, c :: cs =>
    if c = '\n' then (if lines then skip false lines cs else '\n' :: cs) else skip true lines cs
  | false, lines, '\\' :: '\n' :: cs => skip false lines cs
  | false, lines, c :: cs =>
    if c = ' ' ∨ c = '\t' ∨ (c = '\n' ∧ lines) then skip false lines cs
    else if c = '#' then skip true lines cs
    else c :: cs

def skipBlanks : List Char → List Char := skip false false

def skipLines : List Char → List Char := skip false true

def isNameStart (c : Char) : Bool := c.isAlpha || c == '_'

def isNameChar (c : Char) : Bool := c.isAlphanum || c == '_'

/-- Whether a text can be the name of a variable. -/
def isName (s : String) : Bool :=
  s.toList.head?.any isNameStart && s.toList.all isNameChar

/-- The characters up to the end of a word, when no quotes are looked at. -/
def bareWord (cs : List Char) : List Char :=
  cs.takeWhile (!endsWord ·)

/-- The text behind a certain bare word. -/
def behind? (word : String) (cs : List Char) : Option (List Char) :=
  if bareWord cs = word.toList then some (cs.drop word.length) else none

/-- The words that end a list of commands. -/
def closers : List (List Char) :=
  ["then", "else", "elif", "fi", "do", "done", "esac", "\x7d"].map String.toList

/-- Whether a list of commands ends here. -/
def closes : List Char → Bool
  | [] => true
  | ')' :: _ => true
  | ';' :: ';' :: _ => true
  | cs => closers.contains (bareWord cs)

/-- The name of a parameter in braces, and what follows it. -/
def parameterName : List Char → String × List Char
  | [] => ("", [])
  | c :: cs =>
    if isNameStart c then
      (String.ofList ((c :: cs).takeWhile isNameChar), (c :: cs).dropWhile isNameChar)
    else if c.isDigit then (String.ofList ((c :: cs).takeWhile Char.isDigit), (c :: cs).dropWhile Char.isDigit)
    else if "@*#?-$!".toList.contains c then (c.toString, cs)
    else ("", c :: cs)

/-- What is between backquotes, and what follows them. -/
def backquoted? : List Char → Option (List Char × List Char)
  | [] => none
  | '\x60' :: cs => some ([], cs)
  | '\\' :: c :: cs =>
    if c = '\x60' ∨ c = '$' ∨ c = '\\' then (backquoted? cs).map fun (text, rest) => (c :: text, rest)
    else (backquoted? cs).map fun (text, rest) => ('\\' :: c :: text, rest)
  | c :: cs => (backquoted? cs).map fun (text, rest) => (c :: text, rest)

/-- What a redirection begins with: its direction, the descriptor that it is for if none is named, and
whether tabs are dropped at the start of the lines of a text. -/
def redirection? : List Char → Option (Direction × Nat × Bool × List Char)
  | '<' :: '<' :: '-' :: cs => some (.text, 0, true, cs)
  | '<' :: '<' :: cs => some (.text, 0, false, cs)
  | '<' :: '&' :: cs => some (.copy, 0, false, cs)
  | '<' :: '>' :: cs => some (.both, 0, false, cs)
  | '<' :: cs => some (.input, 0, false, cs)
  | '>' :: '>' :: cs => some (.append, 1, false, cs)
  | '>' :: '&' :: cs => some (.copy, 1, false, cs)
  | '>' :: '|' :: cs => some (.over, 1, false, cs)
  | '>' :: cs => some (.output, 1, false, cs)
  | _ => none

/-- The lines up to one that ends a text, and those behind it. -/
def textLines (ending : List Char) : List (List Char) → List (List Char) × List (List Char)
  | [] => ([], [])
  | l :: ls => if l = ending then ([], ls) else ((l :: (textLines ending ls).1), (textLines ending ls).2)

/-- What surrounds a part of a word. -/
inductive Around where
  | bare
  | double
  | braces (quoted : Bool)
  | text
  | sum (depth : Nat)
  deriving DecidableEq, Repr

namespace Around

/-- Whether characters stand for themselves here. -/
def quotes : Around → Bool
  | bare | braces false => false
  | _ => true

/-- Whether a character ends what is read. -/
def stopsAt (a : Around) (c : Char) : Bool :=
  match a with
  | bare => endsWord c
  | double => c == '"'
  | braces _ => c == '\x7d'
  | text => false
  | sum depth => c == ')' && depth == 0

/-- The surroundings behind a character. -/
def behind (a : Around) (c : Char) : Around :=
  match a with
  | sum depth => if c = '(' then sum (depth + 1) else if c = ')' then sum (depth - 1) else a
  | _ => a

/-- Whether the end of the script may end what is read. -/
def mayEnd (a : Around) : Bool :=
  a == bare || a == text

/-- Whether a backslash takes the meaning of a character away. -/
def escapes (a : Around) (c : Char) : Bool :=
  !a.quotes || c == '$' || c == '\x60' || c == '\\' || (c == '"' && a != text) || (c == '\x7d' && a == braces true)

end Around

/-! ### The grammar -/

mutual

/-- The parts of a word. -/
def parts : Nat → Around → List Char → Option (List Part × List Char)
  | 0, _, _ => none
  | _ + 1, around, [] => if around.mayEnd then some ([], []) else none
  | fuel + 1, around, c :: cs =>
    if around.stopsAt c then some ([], c :: cs)
    else
      let more (ps : List Part) (rest : List Char) : Option (List Part × List Char) :=
        (parts fuel (around.behind c) rest).map fun (qs, rest) => (ps ++ qs, rest)
      match c with
      | '\\' => match cs with
        | [] => more [.char true '\\'] []
        | '\n' :: rest => more [] rest
        | d :: rest => if around.escapes d then more [.char true d] rest else more [.char true '\\'] cs
      | '\'' =>
        if around.quotes then more [.char true '\''] cs
        else
          let inside := cs.takeWhile (· != '\'')
          match cs.drop inside.length with
          | [] => none
          | _ :: rest => more (.quotes :: plainWord true inside) rest
      | '"' =>
        if around = .text then more [.char true '"'] cs
        else match parts fuel .double cs with
          | some (inside, _ :: rest) => more (.quotes :: inside) rest
          | _ => none
      | '$' => match dollar fuel around.quotes cs with
        | some (p, rest) => more [p] rest
        | none => none
      | '\x60' => match backquoted? cs with
        | some (inside, rest) => match script fuel inside with
          | some commands => more [.output around.quotes commands] rest
          | none => none
        | none => none
      | c => more [.char around.quotes c] cs

/-- What a dollar sign stands for. -/
def dollar : Nat → Bool → List Char → Option (Part × List Char)
  | 0, _, _ => none
  | fuel + 1, quoted, cs =>
    match cs with
    | '(' :: '(' :: rest =>
      match parts fuel (.sum 0) rest with
      | some (expression, ')' :: ')' :: rest) => some (.sum quoted expression, rest)
      | _ => closed fuel quoted ('(' :: rest)
    | '(' :: rest => closed fuel quoted rest
    | '\x7b' :: '#' :: rest =>
      let (name, behind) := parameterName rest
      match name, behind with
      | "", _ => modified fuel quoted "#" rest
      | _, '\x7d' :: behind => some (.parameter quoted name .length [], behind)
      | _, _ => modified fuel quoted "#" rest
    | '\x7b' :: rest =>
      let (name, behind) := parameterName rest
      if name = "" then none else modified fuel quoted name behind
    | c :: rest =>
      if c.isDigit then some (.parameter quoted c.toString .value [], rest)
      else
        let (name, behind) := parameterName (c :: rest)
        if name = "" then some (.char quoted '$', c :: rest) else some (.parameter quoted name .value [], behind)
    | [] => some (.char quoted '$', [])

/-- Commands up to a closing parenthesis, for what they print. -/
def closed : Nat → Bool → List Char → Option (Part × List Char)
  | 0, _, _ => none
  | fuel + 1, quoted, cs =>
    match sequence fuel cs with
    | some (commands, ')' :: rest) => some (.output quoted commands, rest)
    | _ => none

/-- What is said in braces behind the name of a parameter. -/
def modified : Nat → Bool → String → List Char → Option (Part × List Char)
  | 0, _, _, _ => none
  | fuel + 1, quoted, name, cs =>
    let withWord (around : Around) (use : Use) (rest : List Char) : Option (Part × List Char) :=
      match parts fuel around rest with
      | some (word, _ :: rest) => some (.parameter quoted name use word, rest)
      | _ => none
    match cs with
    | '\x7d' :: rest => some (.parameter quoted name .value [], rest)
    | '%' :: '%' :: rest => withWord (.braces false) (.cutEnd true) rest
    | '%' :: rest => withWord (.braces false) (.cutEnd false) rest
    | '#' :: '#' :: rest => withWord (.braces false) (.cutStart true) rest
    | '#' :: rest => withWord (.braces false) (.cutStart false) rest
    | ':' :: '-' :: rest => withWord (.braces quoted) (.fallback true) rest
    | ':' :: '=' :: rest => withWord (.braces quoted) (.assign true) rest
    | ':' :: '?' :: rest => withWord (.braces quoted) (.require true) rest
    | ':' :: '+' :: rest => withWord (.braces quoted) (.replace true) rest
    | '-' :: rest => withWord (.braces quoted) (.fallback false) rest
    | '=' :: rest => withWord (.braces quoted) (.assign false) rest
    | '?' :: rest => withWord (.braces quoted) (.require false) rest
    | '+' :: rest => withWord (.braces quoted) (.replace false) rest
    | _ => none

/-- A redirection, if there is one here; `none` inside stands for its absence. -/
def redirect : Nat → List Char → Option (Option (Redirect × List Char))
  | 0, _ => none
  | fuel + 1, cs =>
    let (descriptor, behind) := match cs with
      | c :: rest => if c.isDigit then (some (c.toNat - 48), rest) else (none, cs)
      | [] => (none, cs)
    match redirection? behind with
    | none => some none
    | some (direction, usual, dropTabs, rest) =>
      match parts fuel .bare (skipBlanks rest) with
      | none | some ([], _) => none
      | some (word, rest) =>
        if direction = .text then
          let line := rest.takeWhile (· != '\n')
          let strip (l : List Char) := if dropTabs then l.dropWhile (· == '\t') else l
          let (body, after) :=
            textLines (word.filterMap Part.char?) ((Text.pieces '\n' (rest.drop (line.length + 1))).map strip)
          let body := body.flatMap (· ++ ['\n'])
          let rest := line ++ '\n' :: Text.joined '\n' after
          if word.any Part.isQuoted then
            some (some (.mk (descriptor.getD usual) .text (plainWord true body), rest))
          else match parts fuel .text body with
            | some (body, _) => some (some (.mk (descriptor.getD usual) .text body, rest))
            | none => none
        else some (some (.mk (descriptor.getD usual) direction word, rest))

/-- The redirections here. -/
def redirects : Nat → List Char → Option (List Redirect × List Char)
  | 0, _ => none
  | fuel + 1, cs =>
    match redirect fuel (skipBlanks cs) with
    | none => none
    | some none => some ([], cs)
    | some (some (r, rest)) => (redirects fuel rest).map fun (rs, rest) => (r :: rs, rest)

/-- The words up to the end of a command. -/
def wordsTo : Nat → List Char → Option (List (List Part) × List Char)
  | 0, _ => none
  | fuel + 1, cs =>
    match skipBlanks cs with
    | [] => some ([], [])
    | c :: cs =>
      if endsWord c then some ([], c :: cs)
      else match parts fuel .bare (c :: cs) with
        | some (word, rest) => (wordsTo fuel rest).map fun (ws, rest) => (word :: ws, rest)
        | none => none

/-- A command without words of the shell's own; behind it come what has been read of it before. -/
def simple : Nat → List (String × List Part) → List (List Part) → List Redirect → List Char →
    Option (Command × List Char)
  | 0, _, _, _, _ => none
  | fuel + 1, assignments, words, rs, cs =>
    let finish (rest : List Char) : Option (Command × List Char) :=
      if assignments.isEmpty ∧ words.isEmpty ∧ rs.isEmpty then none
      else some (.simple assignments.reverse words.reverse rs.reverse, rest)
    let cs := skipBlanks cs
    match redirect fuel cs with
    | none => none
    | some (some (r, rest)) => simple fuel assignments words (r :: rs) rest
    | some none =>
      match cs with
      | [] => finish []
      | '(' :: rest =>
        match words, assignments, skipBlanks rest with
        | [name], [], ')' :: rest =>
          let name := String.ofList (name.filterMap Part.char?)
          if !isName name ∨ !rs.isEmpty then none
          else (command fuel (skipLines rest)).map fun (body, rest) => (.function name body, rest)
        | _, _, _ => none
      | c :: rest =>
        if endsWord c then finish cs
        else
          let name := cs.takeWhile isNameChar
          match words, cs.drop name.length with
          | [], '=' :: behind =>
            if isName (String.ofList name) then
              match parts fuel .bare behind with
              | some (value, rest) => simple fuel ((String.ofList name, value) :: assignments) [] rs rest
              | none => none
            else match parts fuel .bare (c :: rest) with
              | some (word, rest) => simple fuel assignments [word] rs rest
              | none => none
          | _, _ => match parts fuel .bare (c :: rest) with
            | some (word, rest) => simple fuel assignments (word :: words) rs rest
            | none => none

/-- A command with the redirections behind it. -/
def withRedirects : Nat → Command → List Char → Option (Command × List Char)
  | 0, _, _ => none
  | fuel + 1, c, cs =>
    match redirects fuel cs with
    | none => none
    | some ([], rest) => some (c, rest)
    | some (rs, rest) => some (.redirected c rs, rest)

/-- A list of commands that is not empty, up to a certain word. -/
def upTo : Nat → String → List Char → Option (List Command × List Char)
  | 0, _, _ => none
  | fuel + 1, word, cs =>
    match sequence fuel cs with
    | none | some ([], _) => none
    | some (commands, rest) => (behind? word rest).map fun rest => (commands, rest)

/-- A choice, from behind its first word. -/
def choice : Nat → List Char → Option (Command × List Char)
  | 0, _ => none
  | fuel + 1, cs =>
    match upTo fuel "then" cs with
    | none => none
    | some (condition, rest) =>
      match sequence fuel rest with
      | none | some ([], _) => none
      | some (accepted, rest) =>
        match behind? "elif" rest, behind? "else" rest, behind? "fi" rest with
        | some rest, _, _ =>
          (choice fuel rest).map fun (other, rest) => (.choice condition accepted [other], rest)
        | _, some rest, _ =>
          (upTo fuel "fi" rest).map fun (rejected, rest) => (.choice condition accepted rejected, rest)
        | _, _, some rest => some (.choice condition accepted [], rest)
        | _, _, _ => none

/-- The patterns of an arm. -/
def armPatterns : Nat → List Char → Option (List (List Part) × List Char)
  | 0, _ => none
  | fuel + 1, cs =>
    match parts fuel .bare (skipBlanks cs) with
    | none | some ([], _) => none
    | some (p, rest) =>
      match skipBlanks rest with
      | '|' :: rest => (armPatterns fuel rest).map fun (ps, rest) => (p :: ps, rest)
      | ')' :: rest => some ([p], rest)
      | _ => none

/-- The arms of a selection, up to its end. -/
def arms : Nat → List Char → Option (List (List (List Part) × List Command) × List Char)
  | 0, _ => none
  | fuel + 1, cs =>
    let cs := skipLines cs
    match behind? "esac" cs with
    | some rest => some ([], rest)
    | none =>
      match armPatterns fuel (if cs.head? = some '(' then cs.tail else cs) with
      | none => none
      | some (patterns, rest) =>
        match sequence fuel rest with
        | none => none
        | some (commands, ';' :: ';' :: rest) =>
          (arms fuel rest).map fun (others, rest) => ((patterns, commands) :: others, rest)
        | some (commands, rest) =>
          (behind? "esac" rest).map fun rest => ([(patterns, commands)], rest)

/-- Commands for each word, from behind the name. -/
def eachOf : Nat → String → List Char → Option (Command × List Char)
  | 0, _, _ => none
  | fuel + 1, name, cs =>
    let body (words : Option (List (List Part))) (rest : List Char) : Option (Command × List Char) :=
      match behind? "do" (skipLines rest) with
      | some rest => (upTo fuel "done" rest).map fun (body, rest) => (.each name words body, rest)
      | none => none
    match behind? "in" (skipLines cs) with
    | some rest =>
      match wordsTo fuel rest with
      | some (words, ';' :: rest) | some (words, '\n' :: rest) => body (some words) rest
      | _ => none
    | none => match skipBlanks cs with
      | ';' :: rest => body none rest
      | rest => body none rest

/-- A command. -/
def command : Nat → List Char → Option (Command × List Char)
  | 0, _ => none
  | fuel + 1, cs =>
    let cs := skipBlanks cs
    let finish (read : Option (Command × List Char)) : Option (Command × List Char) :=
      match read with
      | some (c, rest) => withRedirects fuel c rest
      | none => none
    let word := String.ofList (bareWord cs)
    match cs with
    | '(' :: rest =>
      match sequence fuel rest with
      | none | some ([], _) => none
      | some (commands, ')' :: rest) => finish (some (.apart commands, rest))
      | _ => none
    | _ =>
      let rest := cs.drop word.length
      if closers.contains word.toList then none
      else if word = "\x7b" then
        finish ((upTo fuel "\x7d" rest).map fun (commands, rest) => (.block commands, rest))
      else if word = "if" then finish (choice fuel rest)
      else if word = "while" ∨ word = "until" then
        match upTo fuel "do" rest with
        | none => none
        | some (condition, rest) =>
          finish ((upTo fuel "done" rest).map fun (body, rest) =>
            (.loop (word = "until") condition body, rest))
      else if word = "for" then
        let rest := skipBlanks rest
        let name := String.ofList (bareWord rest)
        if isName name then finish (eachOf fuel name (rest.drop name.length)) else none
      else if word = "case" then
        match parts fuel .bare (skipBlanks rest) with
        | none | some ([], _) => none
        | some (subject, rest) =>
          match behind? "in" (skipLines rest) with
          | some rest => finish ((arms fuel rest).map fun (as, rest) => (.select subject as, rest))
          | none => none
      else simple fuel [] [] [] cs

/-- The stages of a pipe. -/
def stages : Nat → List Char → Option (List Command × List Char)
  | 0, _ => none
  | fuel + 1, cs =>
    match command fuel cs with
    | none => none
    | some (c, rest) =>
      match skipBlanks rest with
      | '|' :: '|' :: rest => some ([c], '|' :: '|' :: rest)
      | '|' :: rest => (stages fuel (skipLines rest)).map fun (others, rest) => (c :: others, rest)
      | rest => some ([c], rest)

/-- A pipe, and whether its end is turned around. -/
def pipe : Nat → List Char → Option (Command × List Char)
  | 0, _ => none
  | fuel + 1, cs =>
    let cs := skipBlanks cs
    match behind? "!" cs with
    | some rest => (pipe fuel rest).map fun (c, rest) => (.negate c, rest)
    | none =>
      match stages fuel cs with
      | none => none
      | some ([c], rest) => some (c, rest)
      | some (several, rest) => some (.pipe several, rest)

/-- What follows a command on the way to the end of its list. -/
def linked : Nat → Command → List Char → Option (Command × List Char)
  | 0, _, _ => none
  | fuel + 1, c, cs =>
    match skipBlanks cs with
    | '&' :: '&' :: rest => match pipe fuel (skipLines rest) with
      | some (d, rest) => linked fuel (.andThen c d) rest
      | none => none
    | '|' :: '|' :: rest => match pipe fuel (skipLines rest) with
      | some (d, rest) => linked fuel (.orElse c d) rest
      | none => none
    | rest => some (c, rest)

/-- A command, or several of which each hangs on the end of the one before it. -/
def chain : Nat → List Char → Option (Command × List Char)
  | 0, _ => none
  | fuel + 1, cs =>
    match pipe fuel cs with
    | some (c, rest) => linked fuel c rest
    | none => none

/-- The commands up to what closes their list. -/
def sequence : Nat → List Char → Option (List Command × List Char)
  | 0, _ => none
  | fuel + 1, cs =>
    let cs := skipLines cs
    if closes cs then some ([], cs)
    else match chain fuel cs with
      | none => none
      | some (c, rest) =>
        match rest with
        | ';' :: ';' :: _ => some ([c], rest)
        | ';' :: rest | '\n' :: rest => (sequence fuel rest).map fun (cs, rest) => (c :: cs, rest)
        | '&' :: rest => (sequence fuel rest).map fun (cs, rest) => (.background c :: cs, rest)
        | _ => some ([c], rest)

/-- The commands of a line. -/
def line : Nat → List Char → Option (List Command × List Char)
  | 0, _ => none
  | fuel + 1, cs =>
    match skipBlanks cs with
    | [] => some ([], [])
    | '\n' :: rest => some ([], rest)
    | cs =>
      match chain fuel cs with
      | none => none
      | some (c, rest) =>
        match rest with
        | [] => some ([c], [])
        | '\n' :: rest => some ([c], rest)
        | ';' :: rest => (line fuel rest).map fun (cs, rest) => (c :: cs, rest)
        | '&' :: rest => (line fuel rest).map fun (cs, rest) => (.background c :: cs, rest)
        | _ => none

/-- All commands of a text. -/
def script : Nat → List Char → Option (List Command)
  | 0, _ => none
  | fuel + 1, cs =>
    match line fuel cs with
    | none => none
    | some (commands, []) => some commands
    | some (commands, rest) => (script fuel rest).map (commands ++ ·)

end

/-- Enough fuel to read a text: each character is met by a bounded number of steps. -/
def fuelFor (cs : List Char) : Nat :=
  32 * cs.length + 64

/-- The commands of the first line of a text, and the text behind them. -/
def nextLine? (cs : List Char) : Option (List Command × List Char) :=
  line (fuelFor cs) cs

end TapeToJava.Shell.Reading
