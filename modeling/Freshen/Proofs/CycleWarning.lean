import Freshen.Proofs.Cycle
import Freshen.Proofs.CycleSearch
import Freshen.Proofs.Declarations

/-! The warning of a cycle among described rules, and what comes of resolving goals after the rules
have been declared. Of several rules for one target only the last is left then, so a cycle that is
warned of need not be there any more; one that is met has been warned of. -/

namespace Freshen

open Relation

namespace RuleStore

variable {s : RuleStore} {goal t a b c : String} {chain : List String}

lemma transGen_of_step (hab : s.Step a b) (hbc : s.Reaches b c) : TransGen s.Step a c := by
  induction hbc generalizing a with
  | refl => exact .single hab
  | step hs _ ih => exact .head hab (ih hs)

lemma step_of_transGen (h : TransGen s.Step a c) : ∃ b, s.Step a b ∧ s.Reaches b c := by
  induction h using TransGen.head_induction_on with
  | single hs => exact ⟨c, hs, .refl c⟩
  | head hs _ ih =>
    obtain ⟨b, hb, hr⟩ := ih
    exact ⟨_, hs, .step hb hr⟩

lemma Cycle.around (h : s.Cycle goal t chain) : ∃ a, TransGen s.Step a a := by
  by_contra hnone
  exact h.not_acyclic fun a b _ hab hba => hnone ⟨a, transGen_of_step hab hba⟩

lemma cycle_of_around (h : TransGen s.Step t t) (exists_ : String → Bool) :
    ∃ u chain, (s.resolve t exists_).outcome = .error (.cycle u chain) := by
  obtain ⟨b, hstep, hback⟩ := step_of_transGen h
  obtain ⟨r, hr, -⟩ := step_iff.mp hstep
  exact error_of_not_acyclic (.inl (by simp [hr])) fun ha => ha (.refl t) hstep hback

end RuleStore

namespace Description

variable {rules : List RuleEntry} {d : Description} {a b : String}

def Feeds (rules : List RuleEntry) (a b : String) : Prop := ∃ r ∈ rules, r.target = b ∧ a ∈ r.deps

lemma step_declared : (d.declareInto {}).Step a b ↔
    ∃ r, d.rules.reverse.find? (·.target = a) = some r ∧ b ∈ r.deps := by
  rw [RuleStore.step_iff, find?_declareInto, RuleStore.ruleOf?]
  cases d.rules.reverse.find? (·.target = a) with
  | none => simp
  | some e => simp

lemma feeds_of_step (h : (d.declareInto {}).Step a b) : Feeds d.rules b a := by
  obtain ⟨r, hr, hb⟩ := step_declared.mp h
  have hra : r.target = a := by simpa using List.find?_some hr
  exact ⟨r, List.mem_reverse.mp (List.mem_of_find?_eq_some hr), hra, hb⟩

lemma step_of_feeds (hd : (d.rules.map RuleEntry.target).Nodup) (h : Feeds d.rules b a) :
    (d.declareInto {}).Step a b := by
  obtain ⟨r, hr, rfl, hb⟩ := h
  obtain ⟨q, hq⟩ : ∃ q, d.rules.reverse.find? (·.target = r.target) = some q :=
    Option.isSome_iff_exists.mp (List.find?_isSome.mpr ⟨r, List.mem_reverse.mpr hr, by simp⟩)
  have hqr : q.target = r.target := by simpa using List.find?_some hq
  have hmem : q ∈ d.rules := List.mem_reverse.mp (List.mem_of_find?_eq_some hq)
  obtain rfl : q = r := List.inj_on_of_nodup_map hd hmem hr hqr
  exact step_declared.mpr ⟨q, hq, hb⟩

lemma edge_iff_feeds : (Graph.ofRules rules).Edge = Feeds rules := by
  funext a b
  exact propext Graph.edge_ofRules

lemma lintCycles_cases (rules : List RuleEntry) :
    lintCycles rules = [] ∧ (∀ n, ¬ TransGen (Feeds rules) n n) ∨
    ∃ n, lintCycles rules = [.describedCycle n] ∧ TransGen (Feeds rules) n n := by
  have hg := Graph.proper_ofRules rules
  rw [← edge_iff_feeds, lintCycles]
  cases hc : (Graph.ofRules rules).cycle? with
  | none => exact .inl ⟨rfl, Graph.not_onCycle_of_cycle? hg hc⟩
  | some n => exact .inr ⟨n, rfl, Graph.onCycle_of_cycle? hg hc⟩

/-- There is a warning just if the described rules go round in a circle, and it names a target on
one. Without it no goal meets a cycle; with it, the named target does, if no target is described
twice. -/
theorem warned_of_cycle (rules : List RuleEntry) :
    (lintCycles rules).length ≤ 1 ∧
    (lintCycles rules ≠ [] ↔ ∃ n, TransGen (Feeds rules) n n) ∧
    (∀ w ∈ lintCycles rules, ∃ n, w = .describedCycle n ∧ TransGen (Feeds rules) n n) ∧
    (lintCycles rules = [] → ∀ d : Description, d.rules = rules → ∀ goal exists_ t chain,
      ((d.declareInto {}).resolve goal exists_).outcome ≠ .error (.cycle t chain)) ∧
    ((rules.map RuleEntry.target).Nodup → ∀ n, .describedCycle n ∈ lintCycles rules →
      ∀ d : Description, d.rules = rules → ∀ exists_, ∃ t chain,
        ((d.declareInto {}).resolve n exists_).outcome = .error (.cycle t chain)) := by
  rcases lintCycles_cases rules with ⟨hl, hnone⟩ | ⟨n, hl, hn⟩
  · rw [hl]
    refine ⟨by simp, by simpa using hnone, by simp, fun _ => ?_, by simp⟩
    rintro d rfl goal exists_ t chain ho
    obtain ⟨a, ha⟩ := (RuleStore.cycle_of_error ho).around
    have hs : (d.declareInto {}).Step ≤ Function.swap (Feeds d.rules) := fun _ _ => feeds_of_step
    exact hnone a (transGen_swap.mp (TransGen.mono hs a a ha))
  · rw [hl]
    refine ⟨by simp, ?_, ?_, by simp, ?_⟩
    · exact iff_of_true (by simp) ⟨n, hn⟩
    · intro w hw
      exact ⟨n, List.mem_singleton.mp hw, hn⟩
    · intro hd m hm
      obtain rfl : m = n := by simpa using hm
      rintro d rfl exists_
      have hs : Function.swap (Feeds d.rules) ≤ (d.declareInto {}).Step :=
        fun _ _ => step_of_feeds hd
      exact RuleStore.cycle_of_around (TransGen.mono hs m m (transGen_swap.mpr hn)) exists_

def tangled : List RuleEntry :=
  [{ target := "app", deps := ["lib", "main.c"] }, { target := "lib", deps := ["gen", "gen"] },
    { target := "gen", deps := ["lib"] }]

theorem warned_of_cycle_tangled :
    lintCycles tangled = [.describedCycle "gen"] ∧ (tangled.map RuleEntry.target).Nodup ∧
    (∃ t chain, (((⟨{}, [], tangled⟩ : Description).declareInto {}).resolve "gen"
      fun _ => false).outcome = .error (.cycle t chain)) ∧
    lintCycles (tangled.take 2) = [] ∧
    ∀ goal t chain, (((⟨{}, [], tangled.take 2⟩ : Description).declareInto {}).resolve goal
      fun _ => true).outcome ≠ .error (.cycle t chain) := by
  have hwarned : lintCycles tangled = [.describedCycle "gen"] := by cbv
  have hsilent : lintCycles (tangled.take 2) = [] := by cbv
  have hd : (tangled.map RuleEntry.target).Nodup := by decide
  obtain ⟨-, -, -, -, hmet⟩ := warned_of_cycle tangled
  obtain ⟨-, -, -, hnone, -⟩ := warned_of_cycle (tangled.take 2)
  refine ⟨hwarned, hd, ?_, hsilent, ?_⟩
  · exact hmet hd "gen" (by simp [hwarned]) ⟨{}, [], tangled⟩ rfl fun _ => false
  · intro goal t chain
    exact hnone hsilent ⟨{}, [], tangled.take 2⟩ rfl goal (fun _ => true) t chain

end Description
end Freshen
