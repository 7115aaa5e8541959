import Freshen.Proofs.CyclicRules
import Freshen.Proofs.Bench
import Freshen.Proofs.Cycle

/-! What a question about staleness looks into. However rules depend on each other, no name is
looked into twice, and the answer is the plain one if nothing was remembered before. -/

namespace Freshen

open Bench

namespace Survey

mutual

def decided (o : Outlook) (path : List String) (v : Survey) (t : String) : List String :=
  if t ∈ o.made || t ∈ v.fresh then []
  else match v.known.lookup t with
  | some _ => []
  | none =>
    if _ : t ∈ path then []
    else match _ : o.rules.find? t with
    | none => [t]
    | some r => t :: if r.alwaysStale then [] else decidedAny o (t :: path) v r.deps
  termination_by (o.rules.offPath path, 0)
  decreasing_by exact Prod.Lex.left _ _ (RuleStore.offPath_cons_lt ‹_› ‹_›)

def decidedAny (o : Outlook) (path : List String) (v : Survey) : List String → List String
  | [] => []
  | t :: ts =>
    if t ∈ o.made then []
    else decided o path v t ++
      if (ask o path v t).1 then [] else decidedAny o path (ask o path v t).2 ts
  termination_by ts => (o.rules.offPath path, ts.length + 1)

end

def names (v : Survey) : List String := v.known.map (·.1)

structure Looks (o : Outlook) (path : List String) (v : Survey) (ts l : List String)
    (a : Bool × Survey) : Prop where
  nodup : l.Nodup
  new : ∀ u ∈ l, u ∉ path ∧ u ∉ v.names
  names : a.2.names.Perm (l ++ v.names)
  reached : ∀ u ∈ l, u ∉ o.made ∧ ∃ t ∈ ts, o.rules.Reaches t u
  ruled : l.countP (fun u => (o.rules.find? u).isNone) ≤ a.1.toNat

variable {o : Outlook} {path : List String} {v v' : Survey} {t u : String} {ts l l' : List String}
  {r : Rule} {a : Bool × Survey}

lemma notMem_names_iff : t ∉ v.names ↔ v.known.lookup t = none := by
  rw [names, List.mem_map, List.lookup_eq_none_iff]
  constructor
  · rintro h e he
    exact bne_iff_ne.mpr fun ht => h ⟨e, he, ht.symm⟩
  · rintro h ⟨e, he, ht⟩
    exact bne_iff_ne.mp (h e he) ht.symm

lemma decided_of_noRule (hn : ¬ (decide (t ∈ o.made) || decide (t ∈ v.fresh)) = true)
    (hk : v.known.lookup t = none) (hp : t ∉ path) (hr : o.rules.find? t = none) :
    decided o path v t = [t] := by
  rw [decided, if_neg hn, hk]
  dsimp only
  rw [dif_neg hp]
  split
  · rfl
  · next hr' => rw [hr] at hr'; cases hr'

lemma decided_of_rule (hn : ¬ (decide (t ∈ o.made) || decide (t ∈ v.fresh)) = true)
    (hk : v.known.lookup t = none) (hp : t ∉ path) (hr : o.rules.find? t = some r) :
    decided o path v t =
      t :: if r.alwaysStale then [] else decidedAny o (t :: path) v r.deps := by
  rw [decided, if_neg hn]
  split
  · next hk' => rw [hk] at hk'; cases hk'
  · rw [dif_neg hp]
    split
    · next hr' => rw [hr] at hr'; cases hr'
    · next r' hr' => rw [Option.some.inj (hr'.symm.trans hr)]

namespace Looks

lemma nothing (ts : List String) (stale : Bool) : Looks o path v ts [] (stale, v) :=
  ⟨List.nodup_nil, by simp, .refl _, by simp, by simp⟩

lemma conclude {stale : Bool} (hm : t ∉ o.made) (hp : t ∉ path) (hk : v.known.lookup t = none)
    (hts : ∀ u ∈ ts, o.rules.Step t u)
    (hruled : (t :: l).countP (fun u => (o.rules.find? u).isNone) ≤ stale.toNat)
    (h : Looks o (t :: path) v ts l a) :
    Looks o path v [t] (t :: l) (stale, a.2.conclude t stale) := by
  refine ⟨?_, ?_, h.names.cons t, ?_, hruled⟩
  · exact List.nodup_cons.mpr ⟨fun ht => (h.new t ht).1 (by simp), h.nodup⟩
  · intro u hu
    rcases List.mem_cons.mp hu with rfl | hu
    · exact ⟨hp, notMem_names_iff.mpr hk⟩
    · exact ⟨fun hm => (h.new u hu).1 (List.mem_cons_of_mem t hm), (h.new u hu).2⟩
  · intro u hu
    rcases List.mem_cons.mp hu with rfl | hu
    · exact ⟨hm, u, by simp, .refl u⟩
    · obtain ⟨hum, d, hd, hr⟩ := h.reached u hu
      exact ⟨hum, t, by simp, .step (hts d hd) hr⟩

lemma append (h : Looks o path v [t] l (false, v')) (h' : Looks o path v' ts l' a) :
    Looks o path v (t :: ts) (l ++ l') a := by
  have hknown : ∀ u, u ∈ l ∨ u ∈ v.names → u ∈ v'.names := fun u hu =>
    h.names.mem_iff.mpr (List.mem_append.mpr hu)
  refine ⟨?_, ?_, ?_, ?_, ?_⟩
  · refine List.nodup_append.mpr ⟨h.nodup, h'.nodup, ?_⟩
    rintro u hu _ hu' rfl
    exact (h'.new u hu').2 (hknown u (.inl hu))
  · intro u hu
    rcases List.mem_append.mp hu with hu | hu
    · exact h.new u hu
    · exact ⟨(h'.new u hu).1, fun hv => (h'.new u hu).2 (hknown u (.inr hv))⟩
  · have hboth : a.2.names.Perm (l' ++ l ++ v.names) := by
      rw [List.append_assoc]
      exact h'.names.trans (h.names.append_left l')
    exact hboth.trans (List.perm_append_comm.append_right _)
  · intro u hu
    rcases List.mem_append.mp hu with hu | hu
    · obtain ⟨hm, d, hd, hr⟩ := h.reached u hu
      exact ⟨hm, d, by simp [List.mem_singleton.mp hd], hr⟩
    · obtain ⟨hm, d, hd, hr⟩ := h'.reached u hu
      exact ⟨hm, d, List.mem_cons_of_mem t hd, hr⟩
  · have hnone := h.ruled
    have hrest := h'.ruled
    rw [List.countP_append]
    simp only [Bool.toNat_false] at hnone
    omega

lemma length_le (h : Looks o path v ts l a) : l.length ≤ o.rules.size + 1 := by
  have hbare := h.ruled
  have hruled : (l.filter fun u => !(o.rules.find? u).isNone).length ≤ o.rules.size := by
    have hsub : (l.filter fun u => !(o.rules.find? u).isNone) ⊆ targets o.rules.rules := by
      intro u hu
      have hsome := (List.mem_filter.mp hu).2
      cases hr : o.rules.find? u with
      | none => simp [hr] at hsome
      | some r =>
        have ht := RuleStore.target_of_find? hr
        exact ht ▸ List.mem_map_of_mem (RuleStore.mem_of_find? hr)
    have hle := (List.subperm_of_subset (h.nodup.filter _) hsub).length_le
    rwa [targets, List.length_map] at hle
  have hsplit := List.length_eq_countP_add_countP (fun u => (o.rules.find? u).isNone) (l := l)
  rw [← List.countP_eq_length_filter] at hruled
  simp only [Bool.not_eq_true, Bool.decide_eq_false] at hsplit
  have hstale := Bool.toNat_le a.1
  omega

lemma first (h : Looks o path v [t] l (true, v')) : Looks o path v (t :: ts) l (true, v') := by
  refine ⟨h.nodup, h.new, h.names, fun u hu => ?_, h.ruled⟩
  obtain ⟨hm, d, hd, hr⟩ := h.reached u hu
  exact ⟨hm, d, by simp [List.mem_singleton.mp hd], hr⟩

end Looks

lemma ask_looks (o : Outlook) (path : List String) (v : Survey) (t : String) :
    Looks o path v [t] (decided o path v t) (ask o path v t) := by
  refine (ask.mutual_induct o
    (fun path v t => Looks o path v [t] (decided o path v t) (ask o path v t))
    (fun path v ts => Looks o path v ts (decidedAny o path v ts) (askAny o path v ts))
    ?made ?known ?onPath ?noRule ?always ?dependency ?own ?nil ?consMade ?consStale ?consNot).1
    path v t
  case made =>
    intro path v t h
    rw [ask, if_pos h, decided, if_pos h]
    exact .nothing _ false
  case known =>
    intro path v t h stale hk
    rw [ask, if_neg h, hk, decided, if_neg h, hk]
    exact .nothing _ stale
  case onPath =>
    intro path v t h hk hp
    rw [ask, if_neg h, hk, decided, if_neg h, hk]
    dsimp only
    rw [dif_pos hp, dif_pos hp]
    exact .nothing _ false
  case noRule =>
    intro path v t h hk hp hr
    have hm : t ∉ o.made := fun hm => h (by simp [hm])
    rw [ask_of_noRule h hk hp hr, decided_of_noRule h hk hp hr]
    exact (Looks.nothing [] false).conclude hm hp hk (by simp) (by simp [hr])
  case always =>
    intro path v t h hk hp r hr hal
    have hm : t ∉ o.made := fun hm => h (by simp [hm])
    rw [ask_of_rule h hk hp hr, if_pos hal, decided_of_rule h hk hp hr, if_pos hal]
    exact (Looks.nothing [] false).conclude hm hp hk (by simp) (by simp [hr])
  case dependency =>
    intro path v t h hk hp r hr hal v' hv' ih
    have hm : t ∉ o.made := fun hm => h (by simp [hm])
    have hruled := ih.ruled
    rw [ask_of_rule h hk hp hr, if_neg hal, if_pos (by rw [hv']), decided_of_rule h hk hp hr,
      if_neg hal]
    refine ih.conclude hm hp hk (fun u hu => ?_) ?_
    · rwa [RuleStore.Step, RuleStore.ruleFor_of_find? hr]
    · rw [hv'] at hruled
      simpa [hr] using hruled
  case own =>
    intro path v t h hk hp r hr hal stale v' hv' hst stale' ns hd ih
    have hm : t ∉ o.made := fun hm => h (by simp [hm])
    have hnone : (askAny o (t :: path) v r.deps).1 = false := by
      rw [hv']
      exact Bool.not_eq_true _ ▸ hst
    have hruled := ih.ruled
    rw [hnone] at hruled
    rw [ask_of_rule h hk hp hr, if_neg hal, if_neg (by simp [hnone]), decided_of_rule h hk hp hr,
      if_neg hal]
    have hreport : Looks o (t :: path) v r.deps (decidedAny o (t :: path) v r.deps)
        (false, (askAny o (t :: path) v r.deps).2.report (o.differs t r).2) :=
      ⟨ih.nodup, ih.new, ih.names, ih.reached, hruled⟩
    refine hreport.conclude hm hp hk (fun u hu => ?_) ?_
    · rwa [RuleStore.Step, RuleStore.ruleFor_of_find? hr]
    · have hzero : (o.rules.find? t).isNone = false := by simp [hr]
      rw [List.countP_cons_of_neg (by simp [hzero])]
      exact hruled.trans (Nat.zero_le _)
  case nil =>
    intro path v
    rw [askAny, decidedAny]
    exact .nothing _ false
  case consMade =>
    intro path v t ts hm
    rw [askAny, if_pos hm, decidedAny, if_pos hm]
    exact .nothing _ true
  case consStale =>
    intro path v t ts hm v' hv' ih
    rw [askAny, if_neg hm, decidedAny, if_neg hm]
    rw [hv'] at ih ⊢
    rw [if_pos rfl, List.append_nil]
    exact ih.first
  case consNot =>
    intro path v t ts hm stale v' hv' hst ih ihts
    obtain rfl : stale = false := Bool.not_eq_true _ ▸ hst
    rw [askAny, if_neg hm, decidedAny, if_neg hm]
    rw [hv'] at ih ⊢
    exact ih.append ihts

end Survey

lemma Outlook.stale_congr_of_cycle {o : Outlook} {t u : String} (htu : o.rules.Reaches t u)
    (hut : o.rules.Reaches u t) (ht : t ∉ o.made) (hu : u ∉ o.made) : o.Stale u ↔ o.Stale t := by
  constructor
  · rintro ⟨_, x, hx, hd⟩
    exact ⟨ht, x, htu.trans hx, hd⟩
  · rintro ⟨_, x, hx, hd⟩
    exact ⟨hu, x, hut.trans hx, hd⟩

namespace Surroundings

variable {W : Type} {s : Surroundings W} {root : Path} {rules : RuleStore} {c : Cache} {w : W}
  {t : String}

def lookedInto (s : Surroundings W) (root : Path) (rules : RuleStore) (c : Cache) (w : W)
    (t : String) : List String :=
  Survey.decided (s.outlook root rules c w) [] { fresh := c.fresh } t

/-- For any rules, cyclic or not, a question comes to an end: it looks into names that it reaches,
into none of them twice, and has one answer for each. If nothing was remembered before, the answer
is the plain one, and all names on a cycle stand alike. -/
theorem stale_on_any_rules (h : c.fresh = []) :
    (s.lookedInto root rules c w t).Nodup ∧
    (s.lookedInto root rules c w t).length ≤ rules.size + 1 ∧
    (∀ u ∈ s.lookedInto root rules c w t, u ∉ c.made ∧ rules.Reaches t u) ∧
    (Survey.ask (s.outlook root rules c w) [] { fresh := c.fresh } t).2.names.Perm
      (s.lookedInto root rules c w t) ∧
    ((s.isStale root rules c w t).1 = true ↔ t ∉ c.made ∧ ∃ u, rules.Reaches t u ∧
      (u ≠ t ∧ u ∈ c.made ∨ u ∉ c.made ∧ (s.outlook root rules c w).Doubt u)) ∧
    ∀ u, rules.Reaches t u → rules.Reaches u t → t ∉ c.made → u ∉ c.made →
      (s.isStale root rules c w u).1 = (s.isStale root rules c w t).1 := by
  have hlooks := Survey.ask_looks (s.outlook root rules c w) [] { fresh := c.fresh } t
  refine ⟨hlooks.nodup, hlooks.length_le, fun u hu => ?_, ?_, ?_, fun u htu hut ht hu => ?_⟩
  · obtain ⟨hm, d, hd, hr⟩ := hlooks.reached u hu
    obtain rfl := List.mem_singleton.mp hd
    exact ⟨hm, hr⟩
  · exact (List.append_nil (s.lookedInto root rules c w t)) ▸ hlooks.names
  · rw [isStale_forgotten h, Outlook.stale_iff_doubt]
    rfl
  · rw [Bool.eq_iff_iff, isStale_forgotten h, isStale_forgotten h]
    exact Outlook.stale_congr_of_cycle htu hut ht hu

theorem stale_on_any_rules_ring :
    let c := (workplace.surroundings.record ⟨""⟩ RuleStore.ring { buildId := "b" } {} "d").cache
    (workplace.surroundings.isStale ⟨""⟩ RuleStore.ring c {} "a").1 = true ∧
      (workplace.surroundings.isStale ⟨""⟩ RuleStore.ring c {} "b").1 = true ∧
      (workplace.surroundings.lookedInto ⟨""⟩ RuleStore.ring c {} "a").length ≤ 5 := by
  intro c
  have hc : c = ({ buildId := "b" } : Cache).noteMade "d" := record_cache ..
  have hstep : ∀ a b, b ∈ (RuleStore.ring.ruleFor a).deps → RuleStore.ring.Step a b :=
    fun _ _ h => h
  have hab : RuleStore.ring.Step "a" "b" := hstep "a" "b" (by decide)
  have hbc : RuleStore.ring.Step "b" "c" := hstep "b" "c" (by decide)
  have hca : RuleStore.ring.Step "c" "a" := hstep "c" "a" (by decide)
  have hcd : RuleStore.ring.Step "c" "d" := hstep "c" "d" (by decide)
  obtain ⟨-, hlength, -, -, hiff, hcycle⟩ :=
    @stale_on_any_rules Bench workplace.surroundings ⟨""⟩ RuleStore.ring c {} "a" (by rw [hc]; rfl)
  have ha : "a" ∉ c.made := by rw [hc]; decide
  have hb : "b" ∉ c.made := by rw [hc]; decide
  have hd : "d" ∈ c.made := by rw [hc]; decide
  have hstale := hiff.mpr ⟨ha, "d", .step hab (.step hbc (.single hcd)), .inl ⟨by decide, hd⟩⟩
  refine ⟨hstale, ?_, hlength⟩
  rw [hcycle "b" (.single hab) (.step hbc (.single hca)) ha hb]
  exact hstale

end Surroundings
end Freshen
