import Freshen.Description.Basic
import Freshen.Toml.Document
/-! Descriptions written in TOML. Keys that mean nothing are ignored; a value of the wrong type is
refused. -/

namespace Freshen.Description.Format

open Toml

def string? : Value → Option String
  | .string s => some s
  | _ => none

def boolean? : Value → Option Bool
  | .boolean b => some b
  | _ => none

def list? (f : Value → Option α) : Value → Option (List α)
  | .array vs => vs.mapM f
  | .tables ts => ts.mapM fun es => f (.table .header es)
  | _ => none

def momentKey : String := "$__toml_private_datetime"

def entries? : Value → Option Table
  | .table _ es => some es
  | .moment text => some [(momentKey, .string text)]
  | _ => none

def fields? : Value → Option (Nat → String → Option Value)
  | .array vs => some fun i _ => vs[i]?
  | .tables ts => some fun i _ => ts[i]?.map (.table .header)
  | v => (entries? v).map fun es _ k => Keyed.get? es k

def optional (f : Value → Option α) : Option Value → Option (Option α)
  | none => some none
  | some v => (f v).map some

def withDefault (f : Value → Option α) (a : α) : Option Value → Option α
  | none => some a
  | some v => f v

def isEmpty : Value → Bool
  | .array [] | .table _ [] => true
  | _ => false

def backend? : Value → Option Backend
  | .string s => Backend.ofName? s
  | .table _ [(k, v)] => if isEmpty v then Backend.ofName? k else none
  | _ => none

def settings? (v : Value) : Option Settings := do
  let field ← fields? v
  return {
    goal := ← optional string? (field 0 "goal")
    backend := ← optional backend? (field 1 "cache_backend")
    cachePath := ← optional string? (field 2 "cache_path")
    shell := ← optional string? (field 3 "shell") }

def rule? (v : Value) : Option RuleEntry := do
  let field ← fields? v
  return {
    target := ← (field 0 "target").bind string?
    deps := ← withDefault (list? string?) [] (field 1 "deps")
    recipe := ← optional string? (field 2 "recipe")
    always := ← withDefault boolean? false (field 3 "always") }

def vars? (v : Value) : Option Vars :=
  (entries? v).bind fun es => es.mapM fun e => (string? e.2).map (e.1, ·)

def ofEntries? (es : Table) : Option RawDescription := do
  return {
    includes := ← withDefault (list? string?) [] (Keyed.get? es "include")
    settings := ← withDefault settings? {} (Keyed.get? es "config")
    vars := ← withDefault vars? [] (Keyed.get? es "vars")
    rules := ← withDefault (list? rule?) [] (Keyed.get? es "rule") }

def parse? (text : String) : Option RawDescription := (Toml.parse? text).bind ofEntries?

end Freshen.Description.Format
