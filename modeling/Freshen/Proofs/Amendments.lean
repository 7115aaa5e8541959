import Freshen.Proofs.Dependency

/-! A rule store that is declared to, marked, told of source files and given a goal, in any order.
Its rules, its list of declarations and its goal stay in step. -/

namespace Freshen

inductive Amendment
  | declare (t : String) (deps : List String) (recipe : Option String)
  | setAlwaysStale (t : String) (always : Bool)
  | addFile (t : String)
  | setGoal (t : String)

namespace Amendment

def apply (s : RuleStore) : Amendment → RuleStore
  | declare t deps recipe => s.declare t deps recipe
  | setAlwaysStale t always => (s.setAlwaysStale t always).2
  | addFile t => s.addFile t
  | setGoal t => s.setGoal t

def subject? : Amendment → Option String
  | declare t _ _ | setAlwaysStale t _ | addFile t => some t
  | setGoal _ => none

def declared? : Amendment → Option String
  | declare t _ _ => some t
  | setAlwaysStale _ _ | addFile _ | setGoal _ => none

def goal? : Amendment → Option String
  | setGoal t => some t
  | declare _ _ _ | setAlwaysStale _ _ | addFile _ => none

end Amendment

namespace RuleStore

variable {s s' : RuleStore} {t : String} {r : Rule}

def amended (as : List Amendment) : RuleStore := as.foldl Amendment.apply {}

lemma amended_concat (as : List Amendment) (a : Amendment) :
    amended (as ++ [a]) = a.apply (amended as) := by
  rw [amended, List.foldl_concat, amended]

lemma setAlwaysStale_of_some (h : s.find? t = some r) (always : Bool) :
    (s.setAlwaysStale t always).2 = s.put { r with alwaysStale := always } := by
  simp only [setAlwaysStale, h]

lemma setAlwaysStale_of_none (h : s.find? t = none) (always : Bool) :
    (s.setAlwaysStale t always).2 = s := by
  simp only [setAlwaysStale, h]

lemma addFile_of_some (h : s.find? t = some r) : s.addFile t = s := by
  rw [addFile, h, Option.isSome_some, if_pos rfl]

lemma addFile_of_none (h : s.find? t = none) : s.addFile t = s.put (.file t) := by
  rw [addFile, h, if_neg (by simp)]

lemma setAlwaysStale_rest (s : RuleStore) (t : String) (always : Bool) :
    (s.setAlwaysStale t always).2.declared = s.declared ∧
      (s.setAlwaysStale t always).2.goal = s.goal := by
  unfold setAlwaysStale
  split
  · exact ⟨rfl, rfl⟩
  · exact ⟨rfl, rfl⟩

lemma addFile_rest (s : RuleStore) (t : String) :
    (s.addFile t).declared = s.declared ∧ (s.addFile t).goal = s.goal := by
  unfold addFile
  split
  · exact ⟨rfl, rfl⟩
  · exact ⟨rfl, rfl⟩

lemma targets_replaced (r : Rule) (rs : List Rule) : targets (replaced r rs) =
    if r.target ∈ targets rs then targets rs else targets rs ++ [r.target] := by
  induction rs with
  | nil => rfl
  | cons q qs ih =>
    rw [replaced]
    by_cases hq : q.target = r.target
    · rw [if_pos hq]
      simp [hq]
    · rw [if_neg hq, targets, List.map_cons, ← targets, ih]
      by_cases hr : r.target ∈ targets qs
      · simp [hr]
      · simp [hr, Ne.symm hq]

lemma nodup_put (h : (targets s.rules).Nodup) (r : Rule) : (targets (s.put r).rules).Nodup := by
  change (targets (replaced r s.rules)).Nodup
  rw [targets_replaced]
  split
  · exact h
  · next hr => exact h.append (List.nodup_singleton _) (List.disjoint_singleton.mpr hr)

lemma find?_of_mem (h : (targets s.rules).Nodup) (hr : r ∈ s.rules) :
    s.find? r.target = some r := by
  unfold find?
  generalize s.rules = rs at h hr
  induction rs with
  | nil => cases hr
  | cons q qs ih =>
    obtain ⟨hq, hqs⟩ := List.nodup_cons.mp h
    rcases List.mem_cons.mp hr with rfl | hr
    · simp
    · have hne : q.target ≠ r.target := fun he => hq (he ▸ List.mem_map_of_mem hr)
      rw [List.find?_cons_of_neg (by simpa using hne)]
      exact ih hqs hr

lemma isDeclared_iff : s.isDeclared t = true ↔ ∃ r, s.find? t = some r ∧ r.kind = .explicit := by
  simp [isDeclared, Option.any_eq_true]

structure InStep (s : RuleStore) : Prop where
  nodup : (targets s.rules).Nodup
  declared_nodup : s.declared.Nodup
  mem_declared : ∀ t, t ∈ s.declared ↔ s.isDeclared t = true
  bare : ∀ t r, s.find? t = some r → r.kind = .filename → r.deps = [] ∧ r.recipe = none

namespace InStep

lemma empty : ({} : RuleStore).InStep :=
  ⟨List.nodup_nil, List.nodup_nil, fun _ => by simp [isDeclared, find?], fun _ _ h => by cases h⟩

lemma of_put (h : s.InStep) (hbare : r.kind = .filename → r.deps = [] ∧ r.recipe = none)
    (hrules : s'.rules = (s.put r).rules) (hnodup : s'.declared.Nodup)
    (hmem : ∀ u, u ∈ s'.declared ↔ if r.target = u then r.kind = .explicit else u ∈ s.declared) :
    s'.InStep := by
  have hfind : ∀ u, s'.find? u = if r.target = u then some r else s.find? u := by
    intro u
    rw [← find?_put, find?, find?, hrules]
  refine ⟨hrules ▸ nodup_put h.nodup r, hnodup, fun u => ?_, fun u q hq => ?_⟩
  · rw [hmem, isDeclared, hfind]
    split
    · simp
    · exact h.mem_declared u
  · rw [hfind] at hq
    split at hq
    · exact Option.some.inj hq ▸ hbare
    · exact h.bare u q hq

lemma declare (h : s.InStep) (t : String) (deps : List String) (recipe : Option String) :
    (s.declare t deps recipe).InStep := by
  refine h.of_put (r := ⟨t, deps, recipe, .explicit, (s.find? t).any (·.alwaysStale)⟩)
    (fun hk => by cases hk) rfl ?_ fun u => ?_
  · change (if t ∈ s.declared then s.declared else s.declared ++ [t]).Nodup
    split
    · exact h.declared_nodup
    · next ht => exact List.concat_eq_append ▸ h.declared_nodup.concat ht
  · change u ∈ (if t ∈ s.declared then s.declared else s.declared ++ [t]) ↔ _
    by_cases hu : t = u
    · subst hu
      split <;> simp_all
    · split <;> simp [Ne.symm hu]

lemma setAlwaysStale (h : s.InStep) (t : String) (always : Bool) :
    (s.setAlwaysStale t always).2.InStep := by
  cases ht : s.find? t with
  | none => rwa [setAlwaysStale_of_none ht]
  | some r =>
    rw [setAlwaysStale_of_some ht]
    refine h.of_put (r := { r with alwaysStale := always }) (h.bare t r ht) rfl h.declared_nodup
      fun u => ?_
    change u ∈ s.declared ↔ if r.target = u then r.kind = .explicit else u ∈ s.declared
    split
    · next hu =>
      rw [← hu, target_of_find? ht, h.mem_declared, isDeclared, ht]
      simp
    · rfl

lemma addFile (h : s.InStep) (t : String) : (s.addFile t).InStep := by
  cases ht : s.find? t with
  | some r => rwa [addFile_of_some ht]
  | none =>
    rw [addFile_of_none ht]
    refine h.of_put (fun _ => ⟨rfl, rfl⟩) rfl h.declared_nodup fun u => ?_
    change u ∈ s.declared ↔ if t = u then RuleKind.filename = .explicit else u ∈ s.declared
    split
    · next hu =>
      rw [← hu, h.mem_declared, isDeclared, ht]
      simp
    · rfl

lemma apply (h : s.InStep) (a : Amendment) : (a.apply s).InStep := by
  cases a with
  | declare t deps recipe => exact h.declare t deps recipe
  | setAlwaysStale t always => exact h.setAlwaysStale t always
  | addFile t => exact h.addFile t
  | setGoal t => exact ⟨h.nodup, h.declared_nodup, h.mem_declared, h.bare⟩

lemma mem_rules (h : s.InStep) : r ∈ s.rules ↔ s.find? r.target = some r :=
  ⟨find?_of_mem h.nodup, mem_of_find?⟩

end InStep

lemma amended_inStep (as : List Amendment) : (amended as).InStep := by
  induction as using List.reverseRecOn with
  | nil => exact .empty
  | append_singleton as a ih =>
    rw [amended_concat]
    exact ih.apply a

lemma amended_goal (as : List Amendment) : (amended as).goal =
    (as.reverse.findSome? Amendment.goal? <|> as.findSome? Amendment.declared?) := by
  induction as using List.reverseRecOn with
  | nil => rfl
  | append_singleton as a ih =>
    rw [amended_concat, List.reverse_concat, List.findSome?_append, List.findSome?_cons]
    cases a with
    | declare t deps recipe =>
      change ((amended as).goal <|> some t) = _
      rw [ih]
      simp [Amendment.goal?, Amendment.declared?]
    | setAlwaysStale t always =>
      change ((amended as).setAlwaysStale t always).2.goal = _
      rw [(setAlwaysStale_rest _ t always).2, ih]
      simp [Amendment.goal?, Amendment.declared?]
    | addFile t =>
      change ((amended as).addFile t).goal = _
      rw [(addFile_rest _ t).2, ih]
      simp [Amendment.goal?, Amendment.declared?]
    | setGoal t => rfl

end RuleStore

namespace Amendment

variable {s : RuleStore} {t : String} {r : Rule}

structure Keeps (a : Amendment) (s s' : RuleStore) : Prop where
  found : ∀ t r, s.find? t = some r →
    ∃ r', s'.find? t = some r' ∧ (r.kind = .explicit → r'.kind = .explicit)
  declared : s.declared <+: s'.declared
  others : ∀ t, a.subject? ≠ some t → s'.find? t = s.find? t

lemma apply_others (a : Amendment) (s : RuleStore) (h : a.subject? ≠ some t) :
    (a.apply s).find? t = s.find? t := by
  cases a with
  | declare u deps recipe =>
    exact (s.find?_declare u t deps recipe).trans (if_neg fun he => h (congrArg some he))
  | setAlwaysStale u always =>
    exact (s.find?_setAlwaysStale u t always).trans (if_neg fun he => h (congrArg some he))
  | addFile u => exact (s.find?_addFile u t).trans (if_neg fun he => h (congrArg some he))
  | setGoal u => rfl

lemma apply_found (a : Amendment) (h : s.find? t = some r) :
    ∃ r', (a.apply s).find? t = some r' ∧ (r.kind = .explicit → r'.kind = .explicit) := by
  by_cases hs : a.subject? = some t
  · cases a with
    | declare u deps recipe =>
      obtain rfl := Option.some.inj hs
      exact ⟨_, (s.find?_declare u u deps recipe).trans (if_pos rfl), fun _ => rfl⟩
    | setAlwaysStale u always =>
      obtain rfl := Option.some.inj hs
      refine ⟨{ r with alwaysStale := always }, ?_, id⟩
      rw [apply, RuleStore.find?_setAlwaysStale, if_pos rfl, h, Option.map_some]
    | addFile u =>
      obtain rfl := Option.some.inj hs
      rw [apply, RuleStore.addFile_of_some h]
      exact ⟨r, h, id⟩
    | setGoal u => cases hs
  · exact ⟨r, (a.apply_others s hs).trans h, id⟩

lemma apply_declared (a : Amendment) (s : RuleStore) : s.declared <+: (a.apply s).declared := by
  cases a with
  | declare t deps recipe =>
    change s.declared <+: if t ∈ s.declared then s.declared else s.declared ++ [t]
    split
    · exact List.prefix_rfl
    · exact List.prefix_append _ _
  | setAlwaysStale t always => exact ((s.setAlwaysStale_rest t always).1).symm ▸ List.prefix_rfl
  | addFile t => exact ((s.addFile_rest t).1).symm ▸ List.prefix_rfl
  | setGoal t => exact List.prefix_rfl

lemma keeps_apply (a : Amendment) (s : RuleStore) : a.Keeps s (a.apply s) :=
  ⟨fun _ _ => a.apply_found, a.apply_declared s, fun _ => a.apply_others s⟩

end Amendment

namespace RuleStore

/-- Each rule is kept under its own target, with no other there, no target is declared twice, and a
target is declared just if its rule is an explicit one. The goal is the last that was set, else the
first target that was declared. Whatever comes next keeps all this in its place. -/
theorem amended_in_step (as : List Amendment) :
    (∀ t r, (amended as).find? t = some r ↔ r ∈ (amended as).rules ∧ r.target = t) ∧
    (targets (amended as).rules).Nodup ∧
    (amended as).declared.Nodup ∧
    (∀ t, (t ∈ (amended as).declared ↔
        ∃ r, (amended as).find? t = some r ∧ r.kind = .explicit) ∧
      (t ∈ (amended as).declared ↔ (amended as).isDeclared t = true)) ∧
    (∀ t r, (amended as).find? t = some r → r.kind = .filename → r.deps = [] ∧ r.recipe = none) ∧
    (amended as).goal =
      (as.reverse.findSome? Amendment.goal? <|> as.findSome? Amendment.declared?) ∧
    ∀ a : Amendment, a.Keeps (amended as) (amended (as ++ [a])) := by
  have h := amended_inStep as
  refine ⟨fun t r => ⟨fun hr => ⟨mem_of_find? hr, target_of_find? hr⟩, ?_⟩, h.nodup,
    h.declared_nodup, fun t => ⟨?_, h.mem_declared t⟩, h.bare, amended_goal as, fun a => ?_⟩
  · rintro ⟨hr, rfl⟩
    exact h.mem_rules.mp hr
  · rw [h.mem_declared, isDeclared_iff]
  · rw [amended_concat]
    exact a.keeps_apply _

def upgrade : List Amendment :=
  [.setGoal "app", .addFile "main.c", .setAlwaysStale "main.c" true,
    .declare "main.c" [] (some "generate")]

theorem amended_in_step_upgrade :
    (amended upgrade).find? "main.c" = some ⟨"main.c", [], some "generate", .explicit, true⟩ ∧
    "main.c" ∈ (amended upgrade).declared ∧ (amended upgrade).goal = some "app" ∧
    ∃ r, (amended (upgrade ++ [.addFile "main.c"])).find? "main.c" = some r ∧
      r.kind = .explicit := by
  have hf : (amended upgrade).find? "main.c" =
      some ⟨"main.c", [], some "generate", .explicit, true⟩ := by decide
  obtain ⟨-, -, -, hdeclared, -, hgoal, hkeeps⟩ := amended_in_step upgrade
  obtain ⟨r, hr, hk⟩ := (hkeeps (.addFile "main.c")).found "main.c" _ hf
  exact ⟨hf, (hdeclared "main.c").1.mpr ⟨_, hf, rfl⟩, hgoal, r, hr, hk rfl⟩

end RuleStore
end Freshen
