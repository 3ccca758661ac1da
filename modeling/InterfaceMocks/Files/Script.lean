/-!
Shell scripts that stand in for an external tool. The part of the shell that is understood is small:
commands one after the other, quoting, the parameters of the script, output sent to the error channel
or dropped, and the commands `cat`, `echo`, `printf`, `true`, `false` and `exit`.
-/

namespace InterfaceMocks.Script

structure Outcome where
  output : String
  report : String
  status : Nat
  deriving DecidableEq, Repr

inductive Token where
  | word (text : String)
  -- output of the given channel goes to what the next word names
  | redirect (channel : String)
  -- the end of a command; what comes next may depend on how it ended
  | next
  | ifOk
  | ifFailed
  deriving DecidableEq

inductive Within where
  | bare
  | single
  | double
  | comment
  -- after a backslash or a dollar sign, between double quotes or not
  | escape (quoted : Bool)
  | dollar (quoted : Bool)
  | ampersand
  | bar

def Within.back : Bool → Within
  | true => .double
  | false => .bare

def parameter? (args : List String) (c : Char) : Option String :=
  if c = '@' || c = '*' then some (" ".intercalate args)
  else if c = '#' then some (toString args.length)
  else if '1' ≤ c && c ≤ '9' then some ((args[c.toNat - 49]?).getD "")
  else none

def flush : Option (List Char) → List Token
  | none => []
  | some cs => [.word (String.ofList cs)]

def add (current : Option (List Char)) (more : List Char) : Option (List Char) :=
  some (current.getD [] ++ more)

def escaped (quoted : Bool) (c : Char) : List Char :=
  if quoted && !(c = '\x22' || c = '\\' || c = '$') then ['\\', c] else [c]

/-- The tokens of a script; `current` is the word being read. -/
def scan (args : List String) (within : Within) (current : Option (List Char)) :
    List Char → List Token
  | [] => flush current
  | c :: rest =>
      match within with
      | .comment =>
          if c = '\n' then .next :: scan args .bare none rest else scan args .comment none rest
      | .single =>
          if c = '\x27' then scan args .bare current rest
          else scan args .single (add current [c]) rest
      | .double =>
          if c = '\x22' then scan args .bare current rest
          else if c = '$' then scan args (.dollar true) current rest
          else if c = '\\' then scan args (.escape true) current rest
          else scan args .double (add current [c]) rest
      | .escape quoted => scan args (.back quoted) (add current (escaped quoted c)) rest
      | .dollar quoted =>
          let value := ((parameter? args c).map String.toList).getD ['$', c]
          scan args (.back quoted) (add current value) rest
      | .ampersand =>
          if c = '&' then flush current ++ .ifOk :: scan args .bare none rest
          else scan args .bare (add current ['&', c]) rest
      | .bar =>
          if c = '|' then flush current ++ .ifFailed :: scan args .bare none rest
          else scan args .bare (add current ['|', c]) rest
      | .bare =>
          if c = ' ' || c = '\t' then flush current ++ scan args .bare none rest
          else if c = '\n' || c = ';' then flush current ++ .next :: scan args .bare none rest
          else if c = '\x27' then scan args .single (add current []) rest
          else if c = '\x22' then scan args .double (add current []) rest
          else if c = '#' && current.isNone then scan args .comment none rest
          else if c = '\\' then scan args (.escape false) current rest
          else if c = '$' then scan args (.dollar false) current rest
          else if c = '&' then scan args .ampersand current rest
          else if c = '|' then scan args .bar current rest
          else if c = '>' then
            if current = some ['1'] || current = some ['2'] then
              .redirect (String.ofList (current.getD [])) :: scan args .bare none rest
            else flush current ++ .redirect "1" :: scan args .bare none rest
          else scan args .bare (add current [c]) rest

/-- Where the two channels of a command go: to the output, to the error channel, or nowhere. -/
inductive Sink where
  | output
  | report
  | nowhere
  deriving DecidableEq

/-- The state of a running script: what it has written, what is left to read, and how the last
command ended. -/
structure State where
  input : String
  output : String
  report : String
  status : Nat
  stopped : Bool

namespace State

def send (state : State) (sink : Sink) (text : String) : State :=
  match sink with
  | .output => { state with output := state.output ++ text }
  | .report => { state with report := state.report ++ text }
  | .nowhere => state

end State

def unescape : List Char → List Char
  | '\\' :: 'n' :: rest => '\n' :: unescape rest
  | '\\' :: 't' :: rest => '\t' :: unescape rest
  | '\\' :: '\\' :: rest => '\\' :: unescape rest
  | c :: rest => c :: unescape rest
  | [] => []

def fill : List Char → List String → List Char
  | '%' :: '%' :: rest, args => '%' :: fill rest args
  | '%' :: 's' :: rest, args => (args.headD "").toList ++ fill rest args.tail
  | '%' :: 'd' :: rest, args => (args.headD "0").toList ++ fill rest args.tail
  | c :: rest, args => c :: fill rest args
  | [], _ => []

def text (cs : List Char) : String := String.ofList cs

def command (state : State) (out err : Sink) : List String → State
  | [] => state
  | "cat" :: _ =>
      { (state.send out state.input) with input := "", status := 0 }
  | "echo" :: "-n" :: args =>
      { (state.send out (text (unescape (" ".intercalate args).toList))) with status := 0 }
  | "echo" :: args =>
      { (state.send out (text (unescape (" ".intercalate args).toList) ++ "\n")) with status := 0 }
  | "printf" :: format :: args =>
      { (state.send out (text (fill (unescape format.toList) args))) with status := 0 }
  | "exit" :: args =>
      { state with status := ((args.head?.bind String.toNat?).getD state.status) % 256,
                   stopped := true }
  | "true" :: _ => { state with status := 0 }
  | ":" :: _ => { state with status := 0 }
  | "false" :: _ => { state with status := 1 }
  | name :: _ => { (state.send err (name ++ ": not found\n")) with status := 127 }

def sinkOf (out err : Sink) (target : String) : Sink :=
  if target = "&2" then err
  else if target = "&1" then out
  else .nowhere

/-- Runs commands; `words` are those of the command being read, and `skip` says that it is not
run. -/
def perform (state : State) (skip : Bool) (out err : Sink) (words : List String) :
    List Token → State
  | [] => if skip || state.stopped then state else command state out err words
  | .word w :: rest => perform state skip out err (words ++ [w]) rest
  | .redirect channel :: .word target :: rest =>
      if channel = "2" then perform state skip out (sinkOf out err target) words rest
      else perform state skip (sinkOf out err target) err words rest
  | .redirect _ :: rest => perform state skip out err words rest
  | separator :: rest =>
      let state := if skip || state.stopped then state else command state out err words
      let skip :=
        match separator with
        | .ifOk => state.status ≠ 0
        | .ifFailed => state.status = 0
        | _ => false
      perform state skip .output .report [] rest

def run (script : String) (args : List String) (input : String) : Outcome :=
  let state :=
    perform ⟨input, "", "", 0, false⟩ false .output .report []
      (scan args .bare none script.toList)
  ⟨state.output, state.report, state.status⟩

def isScript (text : String) : Bool := "#!".toList.isPrefixOf text.toList

end InterfaceMocks.Script
