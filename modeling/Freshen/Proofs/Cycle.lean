import Freshen.Proofs.Resolution

/-! What the resolution of a goal comes to, whatever the rules: the goal is unknown, or the rules of
its closure come in an order, or the walk has met a cycle and can show it. -/

namespace Freshen

namespace RuleStore

variable {s : RuleStore} {goal t u : String} {path chain : List String}

lemma step_iff : s.Step t u ↔ ∃ r, s.find? t = some r ∧ u ∈ r.deps := by
  rw [Step]
  cases hf : s.find? t with
  | none => simp [ruleFor, hf, Rule.file]
  | some r => simp [ruleFor_of_find? hf]

structure Cycle (s : RuleStore) (goal t : String) (chain : List String) : Prop where
  length : 2 ≤ chain.length
  first : chain.head? = some t
  last : chain.getLast? = some t
  distinct : chain.dropLast.Nodup
  reached : ∀ a ∈ chain.dropLast, s.Reaches goal a
  linked : chain.IsChain fun a b => ∃ r, s.find? a = some r ∧ b ∈ r.deps

inductive Way (s : RuleStore) (goal : String) : List String → String → Prop
  | start : Way s goal [] goal
  | step {path : List String} {t u : String} : Way s goal path t → t ∉ path → s.Step t u →
      Way s goal (t :: path) u

namespace Way

lemma reaches (h : s.Way goal path t) : s.Reaches goal t := by
  induction h with
  | start => exact .refl goal
  | step _ _ hs ih => exact ih.snoc hs

lemma reaches_of_mem (h : s.Way goal path t) (hu : u ∈ path) : s.Reaches goal u := by
  induction h with
  | start => cases hu
  | step h _ _ ih =>
    rcases List.mem_cons.mp hu with rfl | hu
    · exact h.reaches
    · exact ih hu

lemma nodup (h : s.Way goal path t) : path.Nodup := by
  induction h with
  | start => exact List.nodup_nil
  | step _ hnew _ ih => exact List.nodup_cons.mpr ⟨hnew, ih⟩

lemma linked (h : s.Way goal path t) : (t :: path).IsChain fun a b => s.Step b a := by
  induction h with
  | start => exact .singleton goal
  | step _ _ hs ih => exact .cons_cons hs ih

lemma cycle (h : s.Way goal path t) (ht : t ∈ path) : s.Cycle goal t (Walk.chain path t) := by
  -- What is cut from the way lies between the name and the place where it was passed before.
  obtain ⟨front, rest, rfl, hnew⟩ := List.eq_append_cons_of_mem ht
  have hfront : (front ++ t :: rest).takeWhile (· ≠ t) = front := by
    have hpos : ∀ a ∈ front, decide (a ≠ t) = true := by
      intro a ha
      rw [decide_eq_true_eq]
      rintro rfl
      exact hnew ha
    rw [List.takeWhile_append_of_pos hpos]
    simp
  have hchain : Walk.chain (front ++ t :: rest) t = (t :: front.reverse) ++ [t] := by
    rw [Walk.chain, hfront, List.cons_append]
  have hback : (t :: front ++ [t]).IsChain fun a b => s.Step b a :=
    h.linked.prefix ⟨rest, by simp⟩
  rw [hchain]
  refine ⟨by simp, rfl, List.getLast?_concat .., ?_, ?_, ?_⟩
  · rw [List.dropLast_concat, List.nodup_cons, List.mem_reverse, List.nodup_reverse]
    exact ⟨hnew, (List.nodup_append.mp h.nodup).1⟩
  · intro a ha
    rw [List.dropLast_concat] at ha
    rcases List.mem_cons.mp ha with rfl | ha
    · exact h.reaches
    · exact h.reaches_of_mem (List.mem_append_left _ (List.mem_reverse.mp ha))
  · have hforth : (t :: front ++ [t]).reverse.IsChain s.Step := List.isChain_reverse.mpr hback
    have heq : (t :: front ++ [t]).reverse = (t :: front.reverse) ++ [t] := by simp
    rw [heq] at hforth
    exact hforth.imp fun a b hs => step_iff.mp hs

end Way
end RuleStore

namespace Walk

variable {s : RuleStore} {goal t : String} {path : List String} {w : Walk}

def Honest (s : RuleStore) (goal : String) (w : Walk) : Prop :=
  ∀ chain, w.cycle = some chain → s.Cycle goal (chain.headD goal) chain

lemma Honest.congr {w' : Walk} (hw : Honest s goal w) (h : w'.cycle = w.cycle) :
    Honest s goal w' := by
  intro chain hc
  exact hw chain (h ▸ hc)

lemma visit_honest (s : RuleStore) (goal : String) (path : List String) (w : Walk) (t : String)
    (hw : Honest s goal w) (ht : s.Way goal path t) : Honest s goal (visit s path w t) := by
  refine (visit.mutual_induct s
    (fun path w t => Honest s goal w → s.Way goal path t → Honest s goal (visit s path w t))
    (fun path w ts => Honest s goal w → (∀ t ∈ ts, s.Way goal path t) →
      Honest s goal (visitAll s path w ts))
    ?done ?cycle ?noRule ?rule ?nil ?cons).1 path w t hw ht
  case done =>
    intro path w t h hw _
    rwa [visit_of_done h]
  case cycle =>
    intro path w t h hp _ ht chain hc
    rw [visit, if_neg h, dif_pos hp] at hc
    obtain rfl := Option.some.inj hc
    exact ht.cycle hp
  case noRule =>
    intro path w t h hp hf hw _
    have hdeps : (s.ruleFor t).deps = [] := by simp [RuleStore.ruleFor, hf, Rule.file]
    rw [visit_of_new h hp, hdeps, visitAll]
    exact hw.congr (finish_cycle _ _)
  case rule =>
    intro path w t h hp r hf ih hw ht
    obtain rfl := RuleStore.ruleFor_of_find? hf
    rw [visit_of_new h hp]
    have hall := ih (hw.congr rfl) fun d hd => ht.step hp hd
    exact hall.congr (finish_cycle _ _)
  case nil =>
    intro path w hw _
    rwa [visitAll]
  case cons =>
    intro path w t ts iht ihts hw h
    rw [visitAll]
    exact ihts (iht hw (h t (by simp))) fun u hu => h u (by simp [hu])

end Walk

namespace RuleStore

variable {s : RuleStore} {goal t : String} {exists_ : String → Bool} {order : List Rule}
  {chain : List String}

lemma reaches_getLast {l : List String} {a b : String}
    (hl : (a :: l).IsChain fun a b => ∃ r, s.find? a = some r ∧ b ∈ r.deps)
    (hb : (a :: l).getLast? = some b) : s.Reaches a b := by
  induction l generalizing a with
  | nil =>
    obtain rfl : a = b := by simpa using hb
    exact .refl a
  | cons c l ih =>
    obtain ⟨hac, hl⟩ := List.isChain_cons_cons.mp hl
    rw [List.getLast?_cons_cons] at hb
    exact .step (step_iff.mpr hac) (ih hl hb)

lemma Cycle.not_acyclic (h : s.Cycle goal t chain) : ¬ s.Acyclic goal := by
  obtain ⟨hlength, hfirst, hlast, _, hreached, hlinked⟩ := h
  cases chain with
  | nil => simp at hlength
  | cons a rest =>
    cases rest with
    | nil => simp at hlength
    | cons b rest =>
      obtain rfl : a = t := by simpa using hfirst
      obtain ⟨hab, hrest⟩ := List.isChain_cons_cons.mp hlinked
      have hback : s.Reaches b a := by
        rw [List.getLast?_cons_cons] at hlast
        exact reaches_getLast hrest hlast
      intro ha
      exact ha (hreached a (by simp)) (step_iff.mpr hab) hback

inductive Resolves (s : RuleStore) (goal : String) (exists_ : String → Bool) : Prop
  | unknown : s.find? goal = none → exists_ goal = false →
      (s.resolve goal exists_).outcome = .error (.unknownGoal goal) → Resolves s goal exists_
  | cycle {t : String} {chain : List String} : (s.find? goal = none → exists_ goal = true) →
      s.Cycle goal t chain → (s.resolve goal exists_).outcome = .error (.cycle t chain) →
      Resolves s goal exists_
  | order {order : List Rule} : (s.find? goal = none → exists_ goal = true) → s.Acyclic goal →
      (s.resolve goal exists_).outcome = .ok order → Resolves s goal exists_

lemma resolves (s : RuleStore) (goal : String) (exists_ : String → Bool) :
    s.Resolves goal exists_ := by
  by_cases hg : s.find? goal = none ∧ exists_ goal = false
  · refine .unknown hg.1 hg.2 ?_
    rw [resolve, if_pos (by simp [hg.1, hg.2])]
  · have hknown : s.find? goal = none → exists_ goal = true := by
      intro hf
      simpa using fun he => hg ⟨hf, he⟩
    have hcond : ¬ ((s.find? goal).isNone && !exists_ goal) = true := by simpa using hknown
    cases hc : (Walk.visit s [] {} goal).cycle with
    | none =>
      have ho : (s.resolve goal exists_).outcome = .ok (Walk.visit s [] {} goal).order := by
        rw [resolve, if_neg hcond]
        simp [hc]
      exact .order hknown (acyclic_of_resolved ho) ho
    | some chain =>
      have hh := Walk.visit_honest s goal [] {} goal (by simp [Walk.Honest]) .start chain hc
      refine .cycle hknown hh ?_
      rw [resolve, if_neg hcond]
      simp [hc]

lemma cycle_of_error (h : (s.resolve goal exists_).outcome = .error (.cycle t chain)) :
    s.Cycle goal t chain := by
  cases s.resolves goal exists_ with
  | unknown _ _ ho =>
    rw [ho] at h
    cases h
  | cycle _ hcycle ho =>
    rw [ho] at h
    cases h
    exact hcycle
  | order _ _ ho =>
    rw [ho] at h
    cases h

lemma error_of_not_acyclic (hk : (s.find? goal).isSome ∨ exists_ goal = true)
    (ha : ¬ s.Acyclic goal) :
    ∃ t chain, (s.resolve goal exists_).outcome = .error (.cycle t chain) := by
  cases s.resolves goal exists_ with
  | unknown hf he _ => simp [hf, he] at hk
  | cycle _ _ ho => exact ⟨_, _, ho⟩
  | order _ ha' _ => exact (ha ha').elim

/-- Resolving a goal comes to an end for any rules. The goal is unknown just if it has neither a
rule nor a file; else a cycle is met just if one can be reached, and is shown; else there is an
order. -/
theorem resolve_outcome (s : RuleStore) (goal : String) (exists_ : String → Bool) :
    ((s.resolve goal exists_).outcome = .error (.unknownGoal goal) ↔
      s.find? goal = none ∧ exists_ goal = false) ∧
    (¬ (s.find? goal = none ∧ exists_ goal = false) →
      ((∃ t chain, (s.resolve goal exists_).outcome = .error (.cycle t chain)) ↔
        ∃ a b, s.Reaches goal a ∧ s.Step a b ∧ s.Reaches b a) ∧
      ((∃ order, (s.resolve goal exists_).outcome = .ok order) ↔
        ¬ ∃ a b, s.Reaches goal a ∧ s.Step a b ∧ s.Reaches b a)) ∧
    ∀ t chain, (s.resolve goal exists_).outcome = .error (.cycle t chain) →
      s.Cycle goal t chain := by
  have hcyclic : (∃ a b, s.Reaches goal a ∧ s.Step a b ∧ s.Reaches b a) ↔ ¬ s.Acyclic goal := by
    simp [Acyclic]
  rw [hcyclic, not_not]
  cases s.resolves goal exists_ with
  | unknown hf he ho =>
    rw [ho]
    exact ⟨by simp [hf, he], fun hn => (hn ⟨hf, he⟩).elim, by simp⟩
  | cycle hknown hcycle ho =>
    rw [ho]
    refine ⟨by simpa using hknown, fun _ => ⟨?_, ?_⟩, ?_⟩
    · exact iff_of_true ⟨_, _, rfl⟩ hcycle.not_acyclic
    · exact iff_of_false (by simp) hcycle.not_acyclic
    · rintro t chain he
      cases he
      exact hcycle
  | order hknown ha ho =>
    rw [ho]
    exact ⟨by simpa using hknown, fun _ => ⟨by simpa using ha, by simpa using ha⟩, by simp⟩

def ring : RuleStore :=
  (((({} : RuleStore).declare "goal" ["a"] none).declare "a" ["b"] none).declare "b" ["c"]
    none).declare "c" ["d", "a"] none

theorem ring_resolved :
    (ring.resolve "goal" fun _ => false).outcome = .error (.cycle "a" ["a", "b", "c", "a"]) ∧
      ring.Cycle "goal" "a" ["a", "b", "c", "a"] := by
  have ho : (ring.resolve "goal" fun _ => false).outcome =
      .error (.cycle "a" ["a", "b", "c", "a"]) := by
    rw [resolve, if_neg (by decide)]
    cbv
  exact ⟨ho, (resolve_outcome ring "goal" fun _ => false).2.2 _ _ ho⟩

end RuleStore
end Freshen
