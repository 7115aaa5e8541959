import Freshen.Proofs.Including
import Freshen.Proofs.Tables

/-! What is left of all the files that a description is read from. They are put in one row, each
after those that it includes; the rules are those of the row, and of the settings and variables
the last file that gives one counts. -/

namespace Freshen.Description

variable {f : Files} {searchPath : List String} {stack : List Path} {p q : Path}
  {own raw merged merged' top : RawDescription} {name : String} {names : List String}
  {row row' : List (Path × RawDescription)}

inductive Included (f : Files) (searchPath : List String) :
    Path → List String → List (Path × RawDescription) → Prop
  | nil (p : Path) : Included f searchPath p [] []
  | cons {p q : Path} {name : String} {names : List String} {own : RawDescription}
      {inner rest : List (Path × RawDescription)} :
      findInclude f searchPath p name = .ok q → loadOne f q = .ok own →
      Included f searchPath q own.includes inner → Included f searchPath p names rest →
      Included f searchPath p (name :: names) (inner ++ (q, own) :: rest)

/-- The include tree in post-order: a file comes after all that it includes. -/
def PostOrder (f : Files) (searchPath : List String) (p : Path)
    (row : List (Path × RawDescription)) : Prop :=
  ∃ own inner, loadOne f p = .ok own ∧ Included f searchPath p own.includes inner ∧
    row = inner ++ [(p, own)]

lemma Included.unique (h : Included f searchPath p names row)
    (h' : Included f searchPath p names row') : row = row' := by
  induction h generalizing row' with
  | nil p =>
    cases h'
    rfl
  | cons hfind hown _ _ ihinner ihrest =>
    cases h' with
    | cons hfind' hown' hinner' hrest' =>
      obtain rfl := Except.ok.inj (hfind.symm.trans hfind')
      obtain rfl := Except.ok.inj (hown.symm.trans hown')
      rw [ihinner hinner', ihrest hrest']

lemma PostOrder.unique (h : PostOrder f searchPath p row) (h' : PostOrder f searchPath p row') :
    row = row' := by
  obtain ⟨own, inner, hown, hinner, rfl⟩ := h
  obtain ⟨own', inner', hown', hinner', rfl⟩ := h'
  obtain rfl := Except.ok.inj (hown.symm.trans hown')
  rw [hinner.unique hinner']

def lastWord (row : List (Path × RawDescription)) (field : RawDescription → Option α) : Option α :=
  row.reverse.findSome? fun e => field e.2

lemma lastWord_append (field : RawDescription → Option α) :
    lastWord (row ++ row') field = (lastWord row' field).or (lastWord row field) := by
  rw [lastWord, List.reverse_append, List.findSome?_append]
  rfl

lemma lastWord_singleton (p : Path) (own : RawDescription) (field : RawDescription → Option α) :
    lastWord [(p, own)] field = field own := by
  rw [lastWord, List.reverse_singleton, List.findSome?_singleton]

/-- A description with the settings, variables and rules of a row of files. -/
structure Sums (row : List (Path × RawDescription)) (raw : RawDescription) : Prop where
  rules : raw.rules = row.flatMap fun e => e.2.rules
  goal : raw.settings.goal = lastWord row fun own => own.settings.goal
  backend : raw.settings.backend = lastWord row fun own => own.settings.backend
  cachePath : raw.settings.cachePath = lastWord row fun own => own.settings.cachePath
  shell : raw.settings.shell = lastWord row fun own => own.settings.shell
  vars : ∀ name, Keyed.get? raw.vars name = lastWord row fun own => Keyed.get? own.vars name
  distinct : Keyed.Distinct raw.vars

namespace Sums

lemma nil : Sums [] {} := ⟨rfl, rfl, rfl, rfl, rfl, fun _ => rfl, Keyed.distinct_nil⟩

lemma file (hown : loadOne f p = .ok own) : Sums [(p, own)] own := by
  have hdistinct : Keyed.Distinct own.vars := by
    rw [loadOne] at hown
    split at hown
    · cases hown
    rw [readOne] at hown
    split at hown
    · next hparse => exact Except.ok.inj hown ▸ Format.parse?_distinct hparse
    · cases hown
  refine ⟨?_, ?_, ?_, ?_, ?_, fun name => ?_, hdistinct⟩
  · simp
  all_goals rw [lastWord_singleton]

lemma overlay (h : Sums row merged) (h' : Sums row' top) :
    Sums (row ++ row') (overlay merged top) where
  rules := by rw [Description.overlay, h.rules, h'.rules, List.flatMap_append]
  goal := by rw [lastWord_append, ← h.goal, ← h'.goal]; exact Option.orElse_eq_or
  backend := by rw [lastWord_append, ← h.backend, ← h'.backend]; exact Option.orElse_eq_or
  cachePath := by rw [lastWord_append, ← h.cachePath, ← h'.cachePath]; exact Option.orElse_eq_or
  shell := by rw [lastWord_append, ← h.shell, ← h'.shell]; exact Option.orElse_eq_or
  vars name := by
    rw [lastWord_append, ← h.vars, ← h'.vars, ← h'.distinct.get?_merge]
    rfl
  distinct := h.distinct.merge _

end Sums

lemma sums_of_loadAll
    (hload : ∀ name ∈ names, ∀ q inner, findInclude f searchPath p name = .ok q →
      load f searchPath stack q = .ok inner → ∃ row, PostOrder f searchPath q row ∧ Sums row inner)
    (hrow : Sums row merged) (h : loadAll f searchPath stack p merged names = .ok merged') :
    ∃ rest, Included f searchPath p names rest ∧ Sums (row ++ rest) merged' := by
  induction names generalizing row merged with
  | nil =>
    rw [loadAll_nil] at h
    exact ⟨[], .nil p, by simpa [Except.ok.inj h] using hrow⟩
  | cons name names ih =>
    obtain ⟨q, inner, hfind, hinner, hrest⟩ := loadAll_ok h
    obtain ⟨read, ⟨own, below, hown, hbelow, rfl⟩, hsums⟩ :=
      hload name List.mem_cons_self q inner hfind hinner
    obtain ⟨rest, hincluded, hall⟩ :=
      ih (fun n hn => hload n (List.mem_cons_of_mem name hn)) (hrow.overlay hsums) hrest
    refine ⟨below ++ (q, own) :: rest, .cons hfind hown hbelow hincluded, ?_⟩
    simpa using hall

lemma sums_of_load (h : load f searchPath stack p = .ok raw) :
    ∃ row, PostOrder f searchPath p row ∧ Sums row raw := by
  induction stack, p using load_induction f searchPath generalizing raw with
  | _ stack p ih =>
    obtain ⟨hfresh, own, hown, ⟨hnone, rfl⟩ | ⟨merged, hall, rfl⟩⟩ := load_ok h
    · refine ⟨[(p, raw)], ⟨raw, [], hown, ?_, rfl⟩, .file hown⟩
      rw [hnone]
      exact .nil p
    · obtain ⟨row, hincluded, hsums⟩ := sums_of_loadAll (fun name hname q inner hfind hinner =>
        ih own name q hfresh hown hname hfind hinner) .nil hall
      exact ⟨row ++ [(p, own)], ⟨own, row, hown, hincluded, rfl⟩, hsums.overlay (.file hown)⟩

theorem loadChecked_sums (params : Vars) (h : load f searchPath [] p = .ok raw) :
    ∃ row checked, PostOrder f searchPath p row ∧
      (∀ row', PostOrder f searchPath p row' → row' = row) ∧
      loadChecked f searchPath p params = ofRaw checked ∧
      checked.rules = row.flatMap (fun e => e.2.rules) ∧
      checked.settings.goal = lastWord row (fun own => own.settings.goal) ∧
      checked.settings.backend = lastWord row (fun own => own.settings.backend) ∧
      checked.settings.cachePath = lastWord row (fun own => own.settings.cachePath) ∧
      checked.settings.shell = lastWord row (fun own => own.settings.shell) ∧
      Keyed.Distinct checked.vars ∧
      ∀ name, Keyed.get? checked.vars name = (Keyed.get? params.reverse name).or
        (lastWord row fun own => Keyed.get? own.vars name) := by
  obtain ⟨row, hrow, hsums⟩ := sums_of_load h
  refine ⟨row, { raw with vars := Keyed.merge raw.vars params }, hrow,
    fun row' hrow' => hrow'.unique hrow, ?_, hsums.rules, hsums.goal, hsums.backend,
    hsums.cachePath, hsums.shell, hsums.distinct.merge params, fun name => ?_⟩
  · rw [loadChecked, h]
  · rw [Keyed.get?_merge, hsums.vars]

def nested : FileSet where
  entries := [
    (⟨"top.toml"⟩, ("include = [\"mid.toml\", \"./base.toml\"]\n" ++
      "config.goal = \"t\"\n[[rule]]\ntarget = \"t\"\n").toUTF8),
    (⟨"mid.toml"⟩, ("include = [\"base.toml\"]\n" ++
      "vars.CC = \"gcc\"\n[[rule]]\ntarget = \"m\"\n").toUTF8),
    (⟨"base.toml"⟩, ("[config]\ngoal = \"b\"\nshell = \"ksh\"\n" ++
      "[vars]\nCC = \"cc\"\nOPT = \"0\"\n").toUTF8)]

def nestedTop : RawDescription where
  includes := ["mid.toml", "./base.toml"]
  settings := { goal := some "t" }
  rules := [{ target := "t" }]

def nestedMid : RawDescription where
  includes := ["base.toml"]
  vars := [("CC", "gcc")]
  rules := [{ target := "m" }]

def nestedBase : RawDescription where
  settings := { goal := some "b", shell := some "ksh" }
  vars := [("CC", "cc"), ("OPT", "0")]

lemma nested_top : loadOne nested.files ⟨"top.toml"⟩ = .ok nestedTop := by decide +kernel

lemma nested_mid : loadOne nested.files ⟨"mid.toml"⟩ = .ok nestedMid := by decide +kernel

lemma nested_base : loadOne nested.files ⟨"base.toml"⟩ = .ok nestedBase := by decide +kernel

lemma nested_dotted : loadOne nested.files ⟨"./base.toml"⟩ = .ok nestedBase := by decide +kernel

lemma find_mid : findInclude nested.files [] ⟨"top.toml"⟩ "mid.toml" = .ok ⟨"mid.toml"⟩ := by
  decide +kernel

lemma find_base : findInclude nested.files [] ⟨"mid.toml"⟩ "base.toml" = .ok ⟨"base.toml"⟩ := by
  decide +kernel

lemma find_dotted :
    findInclude nested.files [] ⟨"top.toml"⟩ "./base.toml" = .ok ⟨"./base.toml"⟩ := by
  decide +kernel

lemma nested_postOrder : PostOrder nested.files [] ⟨"top.toml"⟩
    [(⟨"base.toml"⟩, nestedBase), (⟨"mid.toml"⟩, nestedMid), (⟨"./base.toml"⟩, nestedBase),
      (⟨"top.toml"⟩, nestedTop)] :=
  ⟨nestedTop, [(⟨"base.toml"⟩, nestedBase), (⟨"mid.toml"⟩, nestedMid),
      (⟨"./base.toml"⟩, nestedBase)], nested_top,
    .cons find_mid nested_mid (.cons find_base nested_base (.nil _) (.nil _))
      (.cons find_dotted nested_dotted (.nil _) (.nil _)), rfl⟩

lemma nested_load : ∃ raw, load nested.files [] [] ⟨"top.toml"⟩ = .ok raw := by
  let top := nested.files.nameOf ⟨"top.toml"⟩
  let mid := nested.files.nameOf ⟨"mid.toml"⟩
  have hbase : load nested.files [] [mid, top] ⟨"base.toml"⟩ = .ok nestedBase :=
    load_of_loadOne (by decide +kernel) nested_base
  have hmid : load nested.files [] [top] ⟨"mid.toml"⟩ =
      .ok (overlay (overlay {} nestedBase) nestedMid) := by
    rw [load_of_loadOne (by decide +kernel) nested_mid]
    change (loadAll _ _ [mid, top] _ _ ["base.toml"]).map _ = _
    rw [loadAll_cons find_base, hbase]
    change (loadAll _ _ _ _ _ []).map _ = _
    rw [loadAll_nil]
    rfl
  have hdotted : load nested.files [] [top] ⟨"./base.toml"⟩ = .ok nestedBase :=
    load_of_loadOne (by decide +kernel) nested_dotted
  rw [load_of_loadOne (by decide +kernel) nested_top]
  change ∃ raw, (loadAll _ _ [top] _ _ ["mid.toml", "./base.toml"]).map _ = _
  rw [loadAll_cons find_mid, hmid]
  change ∃ raw, (loadAll _ _ _ _ _ ["./base.toml"]).map _ = _
  rw [loadAll_cons find_dotted, hdotted]
  change ∃ raw, (loadAll _ _ _ _ _ []).map _ = _
  rw [loadAll_nil]
  exact ⟨_, rfl⟩

theorem loadChecked_sums_nested :
    ∃ checked, loadChecked nested.files [] ⟨"top.toml"⟩ [("OPT", "2"), ("OPT", "3")] =
        ofRaw checked ∧
      checked.rules = [{ target := "m" }, { target := "t" }] ∧
      checked.settings.goal = some "t" ∧ checked.settings.shell = some "ksh" ∧
      Keyed.get? checked.vars "CC" = some "cc" ∧ Keyed.get? checked.vars "OPT" = some "3" := by
  obtain ⟨raw, hload⟩ := nested_load
  obtain ⟨row, checked, -, hunique, hchecked, hrules, hgoal, -, -, hshell, -, hvars⟩ :=
    loadChecked_sums [("OPT", "2"), ("OPT", "3")] hload
  obtain rfl := hunique _ nested_postOrder
  refine ⟨checked, hchecked, hrules, hgoal, hshell, ?_, ?_⟩
  · rw [hvars]
    decide
  · rw [hvars]
    decide

end Freshen.Description
