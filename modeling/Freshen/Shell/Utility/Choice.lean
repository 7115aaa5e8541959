import Freshen.Shell.Utility.Text
/-! Lines in any order. One order is as good as another, so they are left as they are. -/

namespace Freshen.Shell.Utility

def numberRange? (text : String) : Option (List Nat) :=
  match text.splitOn "-" with
  | [first, last] =>
    match first.toNat?, last.toNat? with
    | some m, some n => if m ≤ n + 1 then some ((List.range (n + 1 - m)).map (m + ·)) else none
    | _, _ => none
  | _ => none

def choices (c : Call) (a : Arguments) : Except Result (List Bytes) :=
  match a.value? 'i', a.has 'e', a.operands with
  | some _, true, _ => .error (misuse c 1 "cannot combine -e and -i options")
  | some _, false, extra :: _ => .error (extraOperand c extra)
  | some t, false, [] =>
    match numberRange? t with
    | some ns => .ok (ns.map fun n => bytesOf (toString n))
    | none => .error (failing c 1 s!"invalid input range: {quoted t}")
  | none, true, words => .ok (words.map bytesOf)
  | none, false, _ :: extra :: _ => .error (extraOperand c extra)
  | none, false, files =>
    let file := files.headD "-"
    match contents c file with
    | .ok bs => .ok (rows a.mark bs)
    | .error .isDirectory => .error (failing c 1 s!"read error: {OsError.isDirectory.text}")
    | .error e => .error (failing c 1 (plainFault file e))

def shuf (c : Call) : Result :=
  withArguments ['e', 'r', 'z'] ['i', 'n', 'o', '?'] c fun a =>
    let counts := (a.allValues 'n').map fun t => (t, t.toNat?)
    match counts.find? (·.2.isNone) with
    | some (t, _) => failing c 1 s!"invalid line count: {quoted t}"
    | none =>
      let limit := counts.foldl (fun l e => match l, e.2 with
        | some l, some n => some (min l n)
        | l, n => l.or n) none
      match choices c a with
      | .error r => r
      | .ok ls =>
        let chosen := match limit with
          | none => ls
          | some n =>
            if a.has 'r' then (List.replicate (if ls.isEmpty then 0 else n) ls).flatten.take n
            else ls.take n
        let out := closed a.mark chosen
        let takesInput := (a.value? 'i').isNone && !a.has 'e' && readsInput a.operands
        let r : Result := { disk := c.disk, tookInput := takesInput }
        match a.value? 'o' with
        | none => { r with out }
        | some file =>
          match write c.disk file out with
          | .ok disk => { r with disk }
          | .error e => complain c r 1 (plainFault file e)

end Freshen.Shell.Utility
