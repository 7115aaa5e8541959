import Freshen.Shell.Utility.Basic
/-! What there is to know about the machine and about the one user that it has. -/

namespace Freshen.Shell.Utility

def printingLine (c : Call) (text : String) : Result := printing c (bytesOf (text ++ "\n"))

def saying (text : String) (c : Call) : Result :=
  withArguments [] [] c fun a =>
    match a.operands with
    | [] => printingLine c text
    | extra :: _ => extraOperand c extra

def kernelFacts : List (Char × String) :=
  [('s', "Linux"), ('n', "localhost"), ('r', "6.1.0"), ('v', "#1 SMP"), ('m', "x86_64"),
    ('p', "x86_64"), ('i', "x86_64"), ('o', "GNU/Linux")]

def uname (c : Call) : Result :=
  withArguments ('a' :: kernelFacts.map (·.1)) [] c fun a =>
    match a.operands with
    | extra :: _ => extraOperand c extra
    | [] =>
      let wanted := if a.flags.isEmpty then ['s'] else a.flags
      let facts := kernelFacts.filter fun f => a.has 'a' || wanted.contains f.1
      printingLine c (" ".intercalate (facts.map (·.2)))

def nproc (c : Call) : Result :=
  withArguments ['a'] ['i'] c fun a =>
    match a.operands with
    | extra :: _ => extraOperand c extra
    | [] => printingLine c "1"

def tty (c : Call) : Result :=
  withArgumentsOr 2 ['s'] [] c fun a =>
    match a.operands with
    | extra :: _ => misuse c 2 ("extra operand " ++ quoted extra)
    | [] => { (if a.has 's' then unchanged c else printingLine c "not a tty") with status := 1 }

def user : String := "root"

def noSuchUser (c : Call) (r : Result) (name : String) : Result :=
  complain c r 1 s!"{quoted name}: no such user"

def identity (c : Call) : Result :=
  withArguments ['u', 'g', 'G', 'n', 'r', 'z', 'a', 'Z'] [] c fun a =>
    let choices := ['u', 'g', 'G'].filter a.has
    match choices with
    | _ :: _ :: _ => failing c 1 "cannot print \"only\" of more than one choice"
    | [] =>
      if a.has 'n' || a.has 'r' then
        failing c 1 "cannot print only names or real IDs in default format"
      else eachUser a.operands "uid=0(root) gid=0(root) groups=0(root)"
    | [_] => eachUser a.operands (if a.has 'n' then user else "0")
where
  eachUser (names : List String) (text : String) : Result :=
    (if names.isEmpty then [user] else names).foldl (fun r name =>
      if name = user || name = "0" then { r with out := r.out ++ bytesOf (text ++ "\n") }
      else noSuchUser c r name) (unchanged c)

def groups (c : Call) : Result :=
  withArguments [] [] c fun a =>
    if a.operands.isEmpty then printingLine c user
    else a.operands.foldl (fun r name =>
      if name = user then { r with out := r.out ++ bytesOf s!"{name} : {user}\n" }
      else noSuchUser c r name) (unchanged c)

def logname (c : Call) : Result :=
  withArguments [] [] c fun a =>
    match a.operands with
    | [] => failing c 1 "no login name"
    | extra :: _ => extraOperand c extra

end Freshen.Shell.Utility
