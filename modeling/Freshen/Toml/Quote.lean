/-! TOML strings: basic and literal, on one line and on several. Each reader starts after the
opening quotes and gives the text and what follows the closing ones. -/

namespace Freshen.Toml

def isControl (c : Char) : Bool := (c.toNat < 0x20 && c != '\t') || c.toNat == 0x7F

def hexValue? (c : Char) : Option Nat :=
  if '0' ≤ c && c ≤ '9' then some (c.toNat - 48)
  else if 'a' ≤ c && c ≤ 'f' then some (c.toNat - 87)
  else if 'A' ≤ c && c ≤ 'F' then some (c.toNat - 55)
  else none

def hexNumber? (cs : List Char) : Option Nat :=
  cs.foldlM (fun n c => (hexValue? c).map (n * 16 + ·)) 0

def codePoint? (cs : List Char) : Option Char :=
  match hexNumber? cs with
  | some n => if h : n.isValidChar then some (Char.ofNatAux n h) else none
  | none => none

def shortEscape? : Char → Option Char
  | 'b' => some '\x08'
  | 't' => some '\t'
  | 'n' => some '\n'
  | 'f' => some '\x0c'
  | 'r' => some '\r'
  | 'e' => some '\x1b'
  | '"' => some '"'
  | '\\' => some '\\'
  | _ => none

def longEscape? : Char → Option Nat
  | 'x' => some 2
  | 'u' => some 4
  | 'U' => some 8
  | _ => none

def escape? : List Char → Option (Char × List Char)
  | [] => none
  | c :: r =>
    match longEscape? c with
    | none => (shortEscape? c).map (·, r)
    | some n => if r.length < n then none else (codePoint? (r.take n)).map (·, r.drop n)

theorem escape?_length {cs r : List Char} {c : Char} (h : escape? cs = some (c, r)) :
    r.length < cs.length := by
  cases cs with
  | nil => simp [escape?] at h
  | cons d cs =>
    simp only [escape?] at h
    split at h
    · obtain ⟨_, _, h⟩ := Option.map_eq_some_iff.1 h
      cases h; simp
    · split at h
      · simp at h
      · obtain ⟨_, _, h⟩ := Option.map_eq_some_iff.1 h
        cases h
        simp only [List.length_drop, List.length_cons]; omega

abbrev Text := List Char × List Char

def Text.push (c : Char) (t : Text) : Text := (c :: t.1, t.2)

def basic? : List Char → Option Text
  | [] => none
  | '"' :: r => some ([], r)
  | '\\' :: r =>
    match h : escape? r with
    | none => none
    | some (c, r') =>
      have := escape?_length h
      (basic? r').map (Text.push c)
  | c :: r => if isControl c then none else (basic? r).map (Text.push c)
  termination_by cs => cs.length
  decreasing_by all_goals simp; try omega

def literal? : List Char → Option Text
  | [] => none
  | '\'' :: r => some ([], r)
  | c :: r => if isControl c then none else (literal? r).map (Text.push c)

def skipFirstBreak : List Char → List Char
  | '\n' :: r => r
  | '\r' :: '\n' :: r => r
  | r => r

def skipBlank : List Char → List Char
  | ' ' :: r => skipBlank r
  | '\t' :: r => skipBlank r
  | r => r

def skipBreaks : List Char → List Char
  | ' ' :: r => skipBreaks r
  | '\t' :: r => skipBreaks r
  | '\n' :: r => skipBreaks r
  | '\r' :: '\n' :: r => skipBreaks r
  | r => r

theorem skipBreaks_length (cs : List Char) : (skipBreaks cs).length ≤ cs.length := by
  fun_induction skipBreaks cs <;> simp_all <;> omega

def continuation? (cs : List Char) : Option (List Char) :=
  match skipBlank cs with
  | '\n' :: _ | '\r' :: '\n' :: _ => some (skipBreaks cs)
  | _ => none

theorem continuation?_length {cs r : List Char} (h : continuation? cs = some r) :
    r.length ≤ cs.length := by
  simp only [continuation?] at h
  split at h <;> cases h <;> exact skipBreaks_length cs

def closing? (q : Char) : List Char → Option Text
  | a :: b :: c :: r =>
    if a = q && b = q && c = q then
      match r with
      | d :: e :: r' =>
        if d = q && e = q then some ([q, q], r')
        else if d = q then some ([q], e :: r')
        else some ([], r)
      | [d] => if d = q then some ([q], []) else some ([], r)
      | [] => some ([], r)
    else none
  | _ => none

def longBasic? (cs : List Char) : Option Text :=
  match closing? '"' cs with
  | some t => some t
  | none =>
    match cs with
    | [] => none
    | '\\' :: r =>
      match hc : continuation? r with
      | some r' =>
        have := continuation?_length hc
        longBasic? r'
      | none =>
        match h : escape? r with
        | none => none
        | some (c, r') =>
          have := escape?_length h
          (longBasic? r').map (Text.push c)
    | '\r' :: '\n' :: r => (longBasic? r).map fun t => Text.push '\r' (Text.push '\n' t)
    | c :: r =>
      if isControl c && c != '\n' then none else (longBasic? r).map (Text.push c)
  termination_by cs.length
  decreasing_by all_goals simp; try omega

def longLiteral? (cs : List Char) : Option Text :=
  match closing? '\'' cs with
  | some t => some t
  | none =>
    match cs with
    | [] => none
    | '\r' :: '\n' :: r => (longLiteral? r).map fun t => Text.push '\r' (Text.push '\n' t)
    | c :: r =>
      if isControl c && c != '\n' then none else (longLiteral? r).map (Text.push c)
  termination_by cs.length
  decreasing_by all_goals simp; try omega

def quoted? : List Char → Option Text
  | '"' :: '"' :: '"' :: r => longBasic? (skipFirstBreak r)
  | '\'' :: '\'' :: '\'' :: r => longLiteral? (skipFirstBreak r)
  | '"' :: r => basic? r
  | '\'' :: r => literal? r
  | _ => none

end Freshen.Toml
