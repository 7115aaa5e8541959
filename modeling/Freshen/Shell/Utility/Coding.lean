import Freshen.Shell.Radix
import Freshen.Shell.Utility.Basic
/-! Programs that write bytes as digits and read them back. -/

namespace Freshen.Shell.Utility

def wrapped (width : Nat) (ds : Bytes) : Bytes :=
  if width = 0 then ds
  else unlines (Checksum.parts width (ds.length / width + 1) ds)

def coding (r : Radix) (c : Call) : Result :=
  withArguments ['d', 'i'] ['w'] c fun a =>
    let text := (a.value? 'w').getD "76"
    match text.toNat?, a.operands with
    | none, _ => failing c 1 s!"invalid wrap size: {quoted text}"
    | some _, _ :: extra :: _ => extraOperand c extra
    | some width, files =>
      let file := files.headD "-"
      match contents c file with
      | .error .isDirectory => failing c 1 s!"read error: {OsError.isDirectory.text}"
      | .error e => failing c 1 (plainFault file e)
      | .ok bs =>
        let done (out : Bytes) : Result := { printing c out with tookInput := readsInput files }
        if a.has 'd' then
          let digits := if a.has 'i' then bs.filter fun b => r.isDigit b || b = Radix.filler else bs
          let (out, isWhole) := r.decode digits
          if isWhole then done out else complain c (done out) 1 "invalid input"
        else done (wrapped width (r.encode bs))

def base64 : Call → Result := coding .sixBits

def base32 : Call → Result := coding .fiveBits

end Freshen.Shell.Utility
