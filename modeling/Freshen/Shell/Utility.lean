import Freshen.Shell.Utility.BlockCopy
import Freshen.Shell.Utility.Calculation
import Freshen.Shell.Utility.Characters
import Freshen.Shell.Utility.Checksum
import Freshen.Shell.Utility.Choice
import Freshen.Shell.Utility.Coding
import Freshen.Shell.Utility.Compare
import Freshen.Shell.Utility.Dump
import Freshen.Shell.Utility.Edit
import Freshen.Shell.Utility.Factors
import Freshen.Shell.Utility.Fields
import Freshen.Shell.Utility.Files
import Freshen.Shell.Utility.Identity
import Freshen.Shell.Utility.Layout
import Freshen.Shell.Utility.Likeness
import Freshen.Shell.Utility.Names
import Freshen.Shell.Utility.Search
import Freshen.Shell.Utility.Splitting
/-! The small programs that recipes call, by name. -/

namespace Freshen.Shell.Utility

def formatted (c : Call) (o : Printf.Output) : Result :=
  { disk := c.disk, out := o.bytes, complaints := o.complaints.map (c.name ++ ": " ++ ·),
    status := o.fault.getD (if o.failed then 1 else 0) }

def printf (c : Call) : Result :=
  let args := match c.args with
    | "--" :: r => r
    | args => args
  match args with
  | [] => misuse c 1 "missing operand"
  | f :: args => formatted c (Printf.format .alone f args)

def test (bracketed : Bool) (c : Call) : Result :=
  let args := if bracketed then c.args.dropLast else c.args
  if bracketed && c.args.getLast? ≠ some "]" then failing c 2 "missing ']'"
  else match Condition.holds { dialect := .bash, disk := c.disk } args with
  | .ok b => { disk := c.disk, status := if b then 0 else 1 }
  | .error e => failing c 2 (e.message .bash)

def yes (c : Call) : Result :=
  let line := bytesOf ((if c.args.isEmpty then "y" else " ".intercalate c.args) ++ "\n")
  { printing c (List.replicate (65536 / line.length) line).flatten with isEndless := true }

def date (c : Call) : Result :=
  withArguments ['u', 'R', 'I'] ['d', 'r'] c fun a =>
    let format := match a.operands with
      | [] => if a.has 'R' then "%a, %d %b %Y %H:%M:%S +0000" else if a.has 'I' then "%Y-%m-%d"
        else "%a %b %e %H:%M:%S UTC %Y"
      | f :: _ => (f.drop 1).toString
    let shows (m : Int) : Result := printing c (bytesOf (Moment.text m format ++ "\n"))
    match a.operands with
    | _ :: extra :: _ => extraOperand c extra
    | [f] =>
      if !f.startsWith "+" then failing c 1 s!"invalid date {quoted f}"
      else choose c a shows
    | [] => choose c a shows
where
  choose (c : Call) (a : Arguments) (shows : Int → Result) : Result :=
    match a.value? 'd', a.value? 'r' with
    | some t, _ =>
      match Moment.ofText? c.disk.clock t with
      | some m => shows m
      | none => failing c 1 s!"invalid date {quoted t}"
    | none, some f =>
      match Condition.timeOf? c.disk ⟨f⟩ with
      | some m => shows m
      | none => failing c 1 s!"{f}: {OsError.notFound.text}"
    | none, none => shows c.disk.clock

def pwd (c : Call) : Result :=
  withArguments ['L', 'P'] [] c fun _ =>
    printing c (bytesOf (c.disk.current.path.text ++ "\n"))

def find? : String → Option (Call → Result)
  | "cat" => some cat
  | "cp" => some cp
  | "mv" => some mv
  | "rm" => some rm
  | "ln" => some ln
  | "install" => some install
  | "truncate" => some truncate
  | "mktemp" => some mktemp
  | "mkdir" => some mkdir
  | "rmdir" => some rmdir
  | "touch" => some touch
  | "chmod" => some chmod
  | "ls" => some ls
  | "stat" => some stat
  | "basename" => some basename
  | "dirname" => some dirname
  | "realpath" => some realpath
  | "readlink" => some readlink
  | "tr" => some tr
  | "grep" => some grep
  | "egrep" => some (grepWith 'E')
  | "fgrep" => some (grepWith 'F')
  | "sed" => some sed
  | "head" => some head
  | "tail" => some tail
  | "wc" => some wc
  | "sort" => some sort
  | "uniq" => some uniq
  | "comm" => some comm
  | "join" => some join
  | "tsort" => some tsort
  | "cut" => some cut
  | "paste" => some paste
  | "nl" => some nl
  | "fold" => some fold
  | "expand" => some expand
  | "unexpand" => some unexpand
  | "rev" => some rev
  | "tac" => some tac
  | "tee" => some tee
  | "seq" => some seq
  | "yes" => some yes
  | "cmp" => some cmp
  | "diff" => some diff
  | "expr" => some expr
  | "base64" => some base64
  | "base32" => some base32
  | "od" => some od
  | "split" => some split
  | "dd" => some dd
  | "factor" => some factor
  | "shuf" => some shuf
  | "link" => some link
  | "unlink" => some unlink
  | "md5sum" => some (sums .md5)
  | "sha1sum" => some (sums .sha1)
  | "sha224sum" => some (sums .sha224)
  | "sha256sum" => some (sums .sha256)
  | "sha384sum" => some (sums .sha384)
  | "sha512sum" => some (sums .sha512)
  | "b2sum" => some blakeSums
  | "cksum" => some cksum
  | "sum" => some sum
  | "date" => some date
  | "sleep" => some sleep
  | "true" => some unchanged
  | "sync" => some fun c => withArguments ['d', 'f'] [] c fun _ => unchanged c
  | "false" => some fun c => { unchanged c with status := 1 }
  | "echo" => some fun c => printing c (Echo.onRequest {} c.args)
  | "printf" => some printf
  | "test" => some (test false)
  | "[" => some (test true)
  | "pwd" => some pwd
  | "uname" => some uname
  | "arch" => some (saying "x86_64")
  | "hostname" => some (saying "localhost")
  | "whoami" => some (saying user)
  | "id" => some identity
  | "groups" => some groups
  | "users" => some unchanged
  | "logname" => some logname
  | "nproc" => some nproc
  | "tty" => some tty
  | _ => none

end Freshen.Shell.Utility
