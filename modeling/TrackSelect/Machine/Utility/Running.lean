import TrackSelect.Machine.Shell.Builtin.Basic
import TrackSelect.Machine.Utility.Escape
import TrackSelect.Machine.Utility.Printf
import TrackSelect.Machine.Utility.Stream
import TrackSelect.Machine.Utility.Test

/-!
# Utilities that run others, and those that shells have too
-/

namespace TrackSelect.Utility

open TrackSelect.System (Program Process Pid)

/-! ### Programs -/

/-- The path of a program in the folders that the environment names, or why there is none. -/
def findProgram (environment : List (String × String)) (name : String) :
    Program (Except Errno String) := do
  if name.toList.contains '/' then return .ok name
  let folders := ((environment.lookup "PATH").getD "/bin:/usr/bin").splitOn ":"
  let rec find : List String → Errno → Program (Except Errno String)
    | [], errno => pure (.error errno)
    | folder :: rest, errno => do
      let path := (if folder = "" then "." else folder) ++ "/" ++ name
      match ← Program.ask (.inspect path) with
      | .ok facts =>
        if facts.kind = .folder then find rest errno
        else if facts.executable then return .ok path
        else find rest .noPermission
      | .error _ => find rest errno
  find folders .noEntry

/-- Start another program in place of this one. -/
def become {α : Type} (name : String) (environment : List (String × String)) (program : String)
    (arguments : List String) : Program α := do
  let errno ← match ← findProgram environment program with
    | .ok path => do
      let errno ← Program.ask (.become path program arguments environment)
      if errno = .notExecutable then
        Program.ask (.become "/bin/sh" "/bin/sh" (path :: arguments) environment)
      else pure errno
    | .error errno => pure errno
  complain (name ++ ": '" ++ program ++ "': " ++ errno.text)
  Program.finish (if errno = .noEntry then 127 else 126)

/-- Start another program, and give its number. -/
def start (name : String) (environment : List (String × String)) (program : String)
    (arguments : List String) : Program Pid :=
  Program.fork (Program.process (become name environment program arguments))

/-- A setting of a variable. -/
def setting? (argument : String) : Option (String × String) :=
  let name := argument.toList.takeWhile (· ≠ '=')
  if name.length < argument.length then
    some (String.ofList name, String.ofList (argument.toList.drop (name.length + 1)))
  else none

/-- Words with blanks between them. -/
def wordsOf (text : String) : List String := (text.splitOn " ").filter (· ≠ "")

/-- Change the environment, and run a program in it or show it. -/
def env : Utility := fun _ arguments environment => do
  let rec go (fuel : Nat) (environment : List (String × String)) (arguments : List String) :
      Program Nat :=
    match fuel, arguments with
    | 0, _ => pure 125
    | _, [] => finish "env"
        (environment.flatMap fun (name, text) => name.toList ++ '=' :: text.toList ++ ['\n']) 0
    | fuel + 1, argument :: rest => do
      match argument, rest with
      | "-", _ | "-i", _ | "--ignore-environment", _ => go fuel [] rest
      | "--", _ => settings environment rest
      | "-u", name :: rest => go fuel (environment.filter (·.1 ≠ name)) rest
      | "-S", text :: rest => go fuel environment (wordsOf text ++ rest)
      | _, _ =>
        if argument.startsWith "-S" then
          go fuel environment (wordsOf (String.ofList (argument.toList.drop 2)) ++ rest)
        else if argument.startsWith "-" then
          refuse 125 ((Misuse.unknown ((argument.toList.drop 1).headD ' ')).message "env")
        else settings environment arguments
  go (2 * (arguments.map String.length).foldl (· + ·) arguments.length + 4) environment arguments
where
  /-- Take settings from the front of the arguments, and run what is behind them. -/
  settings (environment : List (String × String)) : List String → Program Nat
    | [] => finish "env"
        (environment.flatMap fun (name, text) => name.toList ++ '=' :: text.toList ++ ['\n']) 0
    | argument :: rest =>
      match setting? argument with
      | some (name, text) =>
        let others := environment.filter (·.1 ≠ name)
        settings (others ++ [(name, text)]) rest
      | none => become "env" environment argument rest

/-- Run a program as it is. -/
def nohup : Utility := fun called arguments environment => do
  match arguments with
  | [] => refuse 125 (called ++ ": missing operand" ++ hint called)
  | program :: rest =>
    Program.ask (.react 1 .ignored)
    become called environment program rest

/-- Run a program with another priority, which makes no difference. -/
def nice : Utility := fun called arguments environment => do
  let arguments := match arguments with
    | "-n" :: _ :: rest => rest
    | arguments => arguments
  match arguments with
  | [] => finish "nice" "0\n".toList 0
  | program :: rest => become called environment program rest

/-- Run a program, and end it when its time is up. -/
def timeout : Utility := fun _ arguments environment => do
  match optionsFrom { plain := "fpv", valued := "ks", names := [("signal", 's'),
      ("kill-after", 'k'), ("preserve-status", 'p'), ("foreground", 'f')] } false
      (arguments.length + 1) arguments with
  | .error misuse => refuse 125 (misuse.message "timeout")
  | .ok (found, duration :: program :: rest) => do
    let number := ((value? found 's').bind fun text =>
      let name := text.toUpper
      Shell.Builtin.signal? (if name.startsWith "SIG" then String.ofList (name.toList.drop 3) else name)).getD 15
    match time? duration with
    | none => refuse 125 ("timeout: invalid time interval '" ++ duration ++ "'" ++ hint "timeout")
    | some time =>
      let child ← start "timeout" environment program rest
      if time = 0 then
        match ← Program.ask (.await [child] false) with
        | some (_, ending) => return ending.status
        | none => return 125
      let timer ← Program.fork (Program.process do
        Program.ask (.sleep time)
        return 0)
      match ← Program.ask (.await [child, timer] false) with
      | some (pid, ending) =>
        if pid = child then
          discard (Program.ask (.signal timer 9))
          return ending.status
        else
          discard (Program.ask (.signal child number))
          match (value? found 'k').bind time? with
          | none => pure ()
          | some more =>
            discard (Program.fork (Program.process do
              Program.ask (.sleep more)
              discard (Program.ask (.signal child 9))
              return 0))
          match ← Program.ask (.await [child] false) with
          | some (_, ending) =>
            return if has found 'p' then ending.status
              else match ending with
                | .signal 9 => 137
                | _ => 124
          | none => return 124
      | none => return 125
  | .ok _ => refuse 125 ("timeout: missing operand" ++ hint "timeout")

/-- The items of a text for `xargs`: with quotes and backslashes, or between separators. -/
def argumentItems (separator : Option Char) (cs : List Char) : List String :=
  match separator with
  | some c =>
    let parts := cs.splitOn c
    let parts := if parts.getLast? = some [] then parts.dropLast else parts
    parts.map String.ofList
  | none => (go cs.length none false cs).map String.ofList
where
  go : (fuel : Nat) → (current : Option (List Char)) → (escaped : Bool) → List Char →
      List (List Char)
    | 0, current, _, _ => (current.map List.reverse).toList
    | _, current, _, [] => (current.map List.reverse).toList
    | fuel + 1, current, true, c :: rest => go fuel (some (c :: current.getD [])) false rest
    | fuel + 1, current, false, c :: rest =>
      if c = '\\' then go fuel current true rest
      else if c = '\'' || c = '"' then
        let inner := rest.takeWhile (· ≠ c)
        go fuel (some (inner.reverse ++ current.getD [])) false (rest.drop (inner.length + 1))
      else if c = ' ' || c = '\t' || c = '\n' then
        match current with
        | some cs => cs.reverse :: go fuel none false rest
        | none => go fuel none false rest
      else go fuel (some (c :: current.getD [])) false rest

/-- Parts of a list of so many elements each. -/
def partsOf {α : Type} (size : Nat) : (fuel : Nat) → List α → List (List α)
  | 0, _ => []
  | _, [] => []
  | fuel + 1, items => items.take size :: partsOf size fuel (items.drop size)

def xargs : Utility := fun _ arguments environment => do
  match optionsFrom { plain := "0rtpx", valued := "nILdPsa", names := [("null", '0'),
      ("no-run-if-empty", 'r'), ("max-args", 'n')] } false (arguments.length + 1) arguments with
  | .error misuse => refuse 1 (misuse.message "xargs")
  | .ok (found, command) => do
    let separator := if has found '0' then some '\x00'
      else match value? found 'd' with
        | some text => (Escape.replace .program text.length text.toList).1.head?
        | none => if has found 'I' then some '\n' else none
    let (cs, _) ← contents "xargs" []
    let items := argumentItems separator cs
    let items := if has found 'I' then
        (items.map fun item => String.ofList (item.toList.dropWhile (· = ' '))).filter (· ≠ "")
      else items
    let (program, first) := match command with
      | [] => ("echo", [])
      | program :: first => (program, first)
    let calls : List (List String) := match value? found 'I' with
      | some mark => items.map fun item => first.map fun text => item.intercalate (text.splitOn mark)
      | none =>
        if items.isEmpty then (if has found 'r' then [] else [first])
        else match (value? found 'n').bind fun text => Text.natural? text.toList with
          | some size => (partsOf (max 1 size) items.length items).map (first ++ ·)
          | none => [first ++ items]
    let rec each (status : Nat) : List (List String) → Program Nat
      | [] => pure status
      | arguments :: rest => do
        if has found 't' then complain (" ".intercalate (program :: arguments))
        let pid ← Program.fork (Program.process do
          Program.ask (.close 0)
          discard (Program.ask (.open "/dev/null" .input))
          let errno ← match ← findProgram environment program with
            | .ok path => Program.ask (.become path program arguments environment)
            | .error errno => pure errno
          complain ("xargs: " ++ program ++ ": " ++ errno.text)
          Program.finish (if errno = .noEntry then 127 else 126))
        match ← Program.ask (.await [pid] false) with
        | some (_, .exit 0) => each status rest
        | some (_, .exit 255) =>
          refuse 124 ("xargs: " ++ program ++ ": exited with status 255; aborting")
        | some (_, .exit 127) => return 127
        | some (_, .exit 126) => return 126
        | some (_, .exit _) => each 123 rest
        | some (_, .signal number) =>
          refuse 125 ("xargs: " ++ program ++ ": terminated by signal " ++ toString number)
        | none => return 125
    each 0 calls

/-! ### What shells have too -/

def echo : Utility := fun _ arguments _ => finish "echo" (Echo.text .program arguments) 0

def printf : Utility := fun _ arguments _ => do
  let printed := Printf.run .program arguments
  printed.complaints.forM fun complaint => complain ("printf: " ++ complaint)
  finish "printf" printed.out.reverse printed.status

def test (name : String) : Utility := fun _ arguments _ => do
  match ← Test.holds .program name arguments with
  | .ok holds => return if holds then 0 else 1
  | .error message => refuse 2 (name ++ ": " ++ message)

/-- Send a signal to processes. -/
def kill : Utility := fun _ arguments _ => do
  let send (number : Nat) (targets : List String) : Program Nat := do
    let results ← targets.mapM fun target => do
      match integer? target with
      | none =>
        complain ("kill: failed to parse argument: '" ++ target ++ "'")
        return false
      | some pid =>
        match ← Program.ask (.signal pid number) with
        | .ok () => return true
        | .error errno =>
          complain ("kill: (" ++ target ++ "): " ++ errno.text)
          return false
    return if results.all id then 0 else 1
  let number? (text : String) : Option Nat :=
    let name := text.toUpper
    Shell.Builtin.signal? (if name.startsWith "SIG" then String.ofList (name.toList.drop 3) else name)
  match arguments with
  | "-s" :: name :: targets =>
    match number? name with
    | some number => send number targets
    | none => refuse 1 ("kill: invalid signal name or number: " ++ name)
  | first :: targets =>
    match first.toList with
    | '-' :: name =>
      match number? (String.ofList name) with
      | some number => send number targets
      | none => refuse 1 ("kill: invalid argument " ++ first)
    | _ => send 15 arguments
  | [] => refuse 1 "kill: not enough arguments"

/-- Whose program this is, and what it runs on. -/
def about (text : String) : Utility := fun called _ _ => finish called (text ++ "\n").toList 0

/-- The time in seconds. -/
def date : Utility := fun _ arguments _ => do
  let now ← Program.ask .clock
  let seconds := 1700000000 + now / 1000000
  match arguments.find? fun argument => argument.toList.head? = some '+' with
  | some "+%s" => finish "date" (toString seconds ++ "\n").toList 0
  | some "+%s%N" =>
    finish "date" (toString seconds ++ String.ofList ((Text.digits (now % 1000000 * 1000)).leftpad 9 '0')
      ++ "\n").toList 0
  | _ => finish "date" "Tue Nov 14 22:13:20 UTC 2023\n".toList 0

end TrackSelect.Utility
