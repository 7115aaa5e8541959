import Freshen.Proofs.Deeds

/-! Two runs side by side. Where all that a goal reaches has the same rules, looks the same and is
stored the same until it is saved, both ask the same, are told the same and do the same. -/

namespace Freshen

variable {W W' : Type}

namespace RuleStore

variable {s s' : RuleStore} {t u : String}

def AgreeFrom (s s' : RuleStore) (t : String) : Prop :=
  ∀ u, s.Reaches t u → s'.find? u = s.find? u

namespace AgreeFrom

lemma of_reaches (h : s.AgreeFrom s' t) (hu : s.Reaches t u) : s.AgreeFrom s' u :=
  fun v hv => h v (hu.trans hv)

lemma ruleFor (h : s.AgreeFrom s' t) : s'.ruleFor t = s.ruleFor t := by
  rw [RuleStore.ruleFor, h t (.refl t), RuleStore.ruleFor]

lemma visit (h : s.AgreeFrom s' t) (path : List String) (w : Walk) :
    Walk.visit s' path w t = Walk.visit s path w t :=
  Walk.visit_congr (fun _ hu => (h.of_reaches hu).ruleFor) path w

lemma resolve (h : s.AgreeFrom s' t) {exists_ exists' : String → Bool}
    (hf : s.find? t = none → exists' t = exists_ t) :
    (s'.resolve t exists').outcome = (s.resolve t exists_).outcome := by
  have hknown : ((s'.find? t).isNone && !exists' t) = ((s.find? t).isNone && !exists_ t) := by
    rw [h t (.refl t)]
    cases ht : s.find? t with
    | none => rw [hf ht]
    | some _ => rfl
  unfold RuleStore.resolve
  rw [hknown, h.visit]
  dsimp only
  split
  · rfl
  · split
    · rfl
    · rfl

end AgreeFrom
end RuleStore

namespace Outlook

structure AgreeFrom (o o' : Outlook) (t : String) : Prop where
  rules : o.rules.AgreeFrom o'.rules t
  made : o'.made = o.made
  differs : ∀ u r, o.rules.Reaches t u → u ∉ o.made → o.rules.find? u = some r →
    o'.differs u r = o.differs u r

lemma AgreeFrom.of_reaches {o o' : Outlook} {t u : String} (h : o.AgreeFrom o' t)
    (hu : o.rules.Reaches t u) : o.AgreeFrom o' u :=
  ⟨h.rules.of_reaches hu, h.made, fun v r hv => h.differs v r (hu.trans hv)⟩

lemma differs_congr {o o' : Outlook} {t : String} {r : Rule}
    (hd : digestOf o'.sources r = digestOf o.sources r) (hl : o'.load t = o.load t) :
    o'.differs t r = o.differs t r := by
  unfold differs
  rw [hd, hl]

lemma AgreeFrom.deps {o o' : Outlook} {t : String} {r : Rule} (h : o.AgreeFrom o' t)
    (hr : o.rules.find? t = some r) : ∀ u ∈ r.deps, o.AgreeFrom o' u := by
  intro u hu
  refine h.of_reaches (.single ?_)
  rwa [RuleStore.Step, RuleStore.ruleFor_of_find? hr]

lemma AgreeFrom.ask {o o' : Outlook} {t : String} (h : o.AgreeFrom o' t) (path : List String)
    (v : Survey) : Survey.ask o' path v t = Survey.ask o path v t := by
  refine (Survey.ask.mutual_induct o
    (fun path v t => o.AgreeFrom o' t → Survey.ask o' path v t = Survey.ask o path v t)
    (fun path v ts => (∀ t ∈ ts, o.AgreeFrom o' t) →
      Survey.askAny o' path v ts = Survey.askAny o path v ts)
    ?made ?known ?onPath ?noRule ?always ?dependency ?own ?nil ?consMade ?consStale ?consNot).1
    path v t h
  case made =>
    intro path v t h ha
    rw [Survey.ask, if_pos (ha.made ▸ h), Survey.ask, if_pos h]
  case known =>
    intro path v t h stale hk ha
    rw [Survey.ask, if_neg (ha.made ▸ h), hk, Survey.ask, if_neg h, hk]
  case onPath =>
    intro path v t h hk hp ha
    rw [Survey.ask, if_neg (ha.made ▸ h), hk, Survey.ask, if_neg h, hk]
    dsimp only
    rw [dif_pos hp, dif_pos hp]
  case noRule =>
    intro path v t h hk hp hr ha
    rw [Survey.ask_of_noRule (ha.made ▸ h) hk hp ((ha.rules t (.refl t)).trans hr),
      Survey.ask_of_noRule h hk hp hr]
  case always =>
    intro path v t h hk hp r hr hal ha
    have hr' := (ha.rules t (.refl t)).trans hr
    rw [Survey.ask_of_rule (ha.made ▸ h) hk hp hr', if_pos hal, Survey.ask_of_rule h hk hp hr,
      if_pos hal]
  case dependency =>
    intro path v t h hk hp r hr hal v' hv' ih ha
    have hr' := (ha.rules t (.refl t)).trans hr
    have hstale : (Survey.askAny o (t :: path) v r.deps).1 = true := by rw [hv']
    rw [Survey.ask_of_rule (ha.made ▸ h) hk hp hr', if_neg hal, ih (ha.deps hr), if_pos hstale,
      Survey.ask_of_rule h hk hp hr, if_neg hal, if_pos hstale]
  case own =>
    intro path v t h hk hp r hr hal stale v' hv' hst stale' ns hd ih ha
    have hr' := (ha.rules t (.refl t)).trans hr
    have hm : t ∉ o.made := fun hm => h (by simp [hm])
    rw [Survey.ask_of_rule (ha.made ▸ h) hk hp hr', ih (ha.deps hr),
      ha.differs t r (.refl t) hm hr, Survey.ask_of_rule h hk hp hr]
  case nil =>
    intro path v _
    rw [Survey.askAny, Survey.askAny]
  case consMade =>
    intro path v t ts hm h
    rw [Survey.askAny, if_pos ((h t (by simp)).made ▸ hm), Survey.askAny, if_pos hm]
  case consStale =>
    intro path v t ts hm v' hv' ih h
    have ht := h t (by simp)
    rw [Survey.askAny, if_neg (ht.made ▸ hm), ih ht, hv', Survey.askAny, if_neg hm, hv']
    rfl
  case consNot =>
    intro path v t ts hm stale v' hv' hst ih ihts h
    have ht := h t (by simp)
    rw [Survey.askAny, if_neg (ht.made ▸ hm), ih ht, hv', Survey.askAny, if_neg hm, hv']
    dsimp only
    rw [if_neg hst, if_neg hst, ihts fun u hu => h u (List.mem_cons_of_mem _ hu)]

end Outlook

def deeds (es : List Event) : List Event := es.filter Event.isDeed

section

variable {es es' : List Event}

lemma saved_append : saved (es ++ es') = saved es ++ saved es' := List.filterMap_append ..

lemma saved_handedOut (j : Job) : saved [.handedOut j] = [] := rfl

lemma saved_recorded (t : String) (d : Digest) : saved [.recorded t (some d)] = [(t, d)] := rfl

lemma deeds_append : deeds (es ++ es') = deeds es ++ deeds es' := List.filter_append ..

lemma deeds_of_not_deed (h : ∀ e ∈ es, e.isDeed = false) : deeds es = [] :=
  List.filter_eq_nil_iff.mpr fun e he hd => by simp [h e he] at hd

lemma filterMap_deeds {α : Type*} {f : Event → Option α} (h : ∀ e, e.isDeed = false → f e = none)
    (es : List Event) : (deeds es).filterMap f = es.filterMap f := by
  induction es with
  | nil => rfl
  | cons e es ih =>
    rw [deeds, List.filter_cons]
    split
    · rw [List.filterMap_cons, List.filterMap_cons, ← deeds, ih]
    · next he => rw [List.filterMap_cons, h e (by simpa using he), ← ih, deeds]

lemma jobs_deeds (es : List Event) :
    (deeds es).filterMap Event.job? = es.filterMap Event.job? := by
  refine filterMap_deeds (fun e he => ?_) es
  cases e with
  | handedOut _ | recorded _ _ => cases he
  | skipped _ | printed _ | noticed _ => rfl

lemma saved_deeds (es : List Event) : saved (deeds es) = saved es := by
  refine filterMap_deeds (fun e he => ?_) es
  cases e with
  | handedOut _ | recorded _ _ => cases he
  | skipped _ | printed _ | noticed _ => rfl

end

namespace Plan

/-- After the same deeds two runs towards a goal see the same, get the same answers from their
recipes and find the same stored for what has not been saved. -/
structure Alike (p : Plan W) (p' : Plan W') (id goal : String) (w : W) (w' : W') : Prop where
  root : p'.root = p.root
  options : p'.options = p.options
  rules : p.rules.AgreeFrom p'.rules goal
  sight : ∀ es t, p.rules.SourceOf goal t →
    (p'.surroundings.sources p'.root (p'.surroundings.replay id w' es)).sight t =
      (p.surroundings.sources p.root (p.surroundings.replay id w es)).sight t
  outcome : ∀ es j,
    (p'.surroundings.execute (p'.surroundings.replay id w' es) j).1.outcome =
      (p.surroundings.execute (p.surroundings.replay id w es) j).1.outcome
  loads : ∀ es t, p.rules.Reaches goal t → t ∉ (saved es).map (·.1) →
    p'.surroundings.load (p'.surroundings.replay id w' es) id t =
      p.surroundings.load (p.surroundings.replay id w es) id t

structure Mirrors (p : Plan W) (p' : Plan W') (id : String) (w : W) (w' : W') (r : Run W)
    (r' : Run W') : Prop where
  buildId : r.cache.buildId = id
  cache : r'.cache = r.cache
  settled : r'.settled = r.settled
  report : r'.report = r.report
  failure : r'.failure = r.failure
  deeds : deeds r'.trace = deeds r.trace
  world : r.world = p.surroundings.replay id w r.trace
  world' : r'.world = p'.surroundings.replay id w' r.trace
  made : ∀ t ∈ (saved r.trace).map (·.1), t ∈ r.cache.made

variable {p : Plan W} {p' : Plan W'} {id goal : String} {w : W} {w' : W'} {r : Run W}
  {r' : Run W'} {t : String} {rule : Rule} {j : Job} {es es' : List Event}

namespace Mirrors

lemma start (p : Plan W) (p' : Plan W') (id : String) (w : W) (w' : W') :
    p.Mirrors p' id w w' { world := w, cache := { buildId := id } }
      { world := w', cache := { buildId := id } } where
  buildId := rfl
  cache := rfl
  settled := rfl
  report := rfl
  failure := rfl
  deeds := rfl
  world := rfl
  world' := rfl
  made _ ht := by cases ht

section

variable (h : p.Mirrors p' id w w' r r')
include h

lemma tell (hes : ∀ e ∈ es, e.isDeed = false) (hes' : ∀ e ∈ es', e.isDeed = false) :
    p.Mirrors p' id w w' (r.tell es) (r'.tell es') := by
  refine ⟨h.buildId, h.cache, h.settled, h.report, h.failure, ?_, ?_, ?_, ?_⟩
  · change Freshen.deeds (r'.trace ++ es') = Freshen.deeds (r.trace ++ es)
    rw [deeds_append, deeds_append, deeds_of_not_deed hes, deeds_of_not_deed hes', h.deeds]
  · change r.world = p.surroundings.replay id w (r.trace ++ es)
    rw [Surroundings.replay_append, Surroundings.replay_of_not_deed hes, h.world]
  · change r'.world = p'.surroundings.replay id w' (r.trace ++ es)
    rw [Surroundings.replay_append, Surroundings.replay_of_not_deed hes, h.world']
  · change ∀ t ∈ (saved (r.trace ++ es)).map (·.1), t ∈ r.cache.made
    rw [← saved_deeds, deeds_append, deeds_of_not_deed hes, List.append_nil, saved_deeds]
    exact h.made

lemma notice (ns ns' : List Notice) :
    p.Mirrors p' id w w' (r.notice ns) (r'.notice ns') :=
  h.tell Event.not_deed_noticed Event.not_deed_noticed

lemma fail (e : BuildError) : p.Mirrors p' id w w' (r.fail e) (r'.fail e) :=
  ⟨h.buildId, h.cache, h.settled, h.report, rfl, h.deeds, h.world, h.world', h.made⟩

lemma skip (t : String) : p.Mirrors p' id w w' (r.skip t) (r'.skip t) := by
  have hes : ∀ e ∈ [Event.skipped t], e.isDeed = false := by simp [Event.isDeed]
  have ht := h.tell hes hes
  refine ⟨h.buildId, h.cache, ?_, ?_, h.failure, ht.deeds, ht.world, ht.world', ht.made⟩
  · exact congrArg (t :: ·) h.settled
  · exact congrArg (fun rep : Report => { rep with skipped := rep.skipped ++ [t] }) h.report

lemma handOut (j : Job) : p.Mirrors p' id w w' (p.handOut r j) (p'.handOut r' j) := by
  have hh : p.Mirrors p' id w w' (r.tell (p.heading j)) (r'.tell (p'.heading j)) :=
    h.tell not_deed_heading not_deed_heading
  have hgiven : p.Mirrors p' id w w'
      { (r.tell (p.heading j)).tell [.handedOut j] with
        world := (p.surroundings.execute r.world j).2 }
      { (r'.tell (p'.heading j)).tell [.handedOut j] with
        world := (p'.surroundings.execute r'.world j).2 } := by
    refine ⟨h.buildId, h.cache, h.settled, h.report, h.failure, ?_, ?_, ?_, ?_⟩
    · change Freshen.deeds ((r'.tell (p'.heading j)).trace ++ [.handedOut j]) =
        Freshen.deeds ((r.tell (p.heading j)).trace ++ [.handedOut j])
      rw [deeds_append, deeds_append, hh.deeds]
    · change _ = p.surroundings.replay id w ((r.tell (p.heading j)).trace ++ [.handedOut j])
      rw [Surroundings.replay_append, ← hh.world]
      rfl
    · change _ = p'.surroundings.replay id w' ((r.tell (p.heading j)).trace ++ [.handedOut j])
      rw [Surroundings.replay_append, ← hh.world']
      rfl
    · change ∀ t ∈ (saved ((r.tell (p.heading j)).trace ++ [.handedOut j])).map (·.1),
        t ∈ r.cache.made
      rw [saved_append, saved_handedOut, List.append_nil]
      exact hh.made
  rw [handOut_eq, handOut_eq]
  exact hgiven.tell Event.not_deed_printed Event.not_deed_printed

lemma records {listed : String → Report → Report} {r₁ : Run W} {r₁' : Run W'}
    (hd : Outlook.digestOf (p'.surroundings.sources p'.root r'.world) rule =
      Outlook.digestOf (p.surroundings.sources p.root r.world) rule)
    (hr : p.Records listed rule r r₁) (hr' : p'.Records listed rule r' r₁') :
    p.Mirrors p' id w w' r₁ r₁' := by
  have hcache : r'.cache.noteMade rule.target = r.cache.noteMade rule.target := by rw [h.cache]
  have hmade : ∀ t ∈ (saved r.trace).map (·.1), t ∈ (r.cache.noteMade rule.target).made :=
    fun t ht => (Cache.mem_noteMade ..).mpr (.inr (h.made t ht))
  cases hr with
  | @undigestible e he =>
    cases hr' with
    | @undigestible e' he' =>
      obtain rfl := Except.error.inj (he'.symm.trans (hd.trans he))
      exact ⟨h.buildId, hcache, h.settled, h.report, rfl, h.deeds, h.world, h.world', hmade⟩
    | digested he' => cases he'.symm.trans (hd.trans he)
  | @digested d ns he =>
    cases hr' with
    | undigestible he' => cases he'.symm.trans (hd.trans he)
    | @digested d' ns' he' =>
      obtain rfl := Except.ok.inj (he'.symm.trans (hd.trans he))
      have hn := h.notice ns ns'
      refine ⟨h.buildId, hcache, ?_, ?_, h.failure, ?_, ?_, ?_, ?_⟩
      · exact congrArg (rule.target :: ·) h.settled
      · exact congrArg (listed rule.target) h.report
      · change Freshen.deeds ((r'.notice ns').trace ++ [.recorded rule.target (some d')]) =
          Freshen.deeds ((r.notice ns).trace ++ [.recorded rule.target (some d')])
        rw [deeds_append, deeds_append, hn.deeds]
      · change _ = p.surroundings.replay id w
          ((r.notice ns).trace ++ [.recorded rule.target (some d')])
        rw [Surroundings.replay_append, ← hn.world, ← h.buildId]
        rfl
      · change _ = p'.surroundings.replay id w'
          ((r.notice ns).trace ++ [.recorded rule.target (some d')])
        rw [Surroundings.replay_append, ← hn.world', ← h.buildId, ← h.cache]
        rfl
      · intro t ht
        change t ∈ (Freshen.saved
          ((r.notice ns).trace ++ [.recorded rule.target (some d')])).map (·.1) at ht
        rw [saved_append, saved_recorded, List.map_append, List.mem_append] at ht
        rcases ht with ht | ht
        · exact (Cache.mem_noteMade ..).mpr (.inr (hn.made t ht))
        · exact (Cache.mem_noteMade ..).mpr (.inl (List.mem_singleton.mp ht))

end

variable (a : p.Alike p' id goal w w') (h : p.Mirrors p' id w w' r r')
include a h

lemma sight (ht : p.rules.SourceOf goal t) :
    (p'.surroundings.sources p'.root r'.world).sight t =
      (p.surroundings.sources p.root r.world).sight t := by
  rw [h.world', h.world, a.sight r.trace t ht]

lemma digest (hf : p.rules.find? t = some rule) (ht : p.rules.Reaches goal t) :
    Outlook.digestOf (p'.surroundings.sources p'.root r'.world) rule =
      Outlook.digestOf (p.surroundings.sources p.root r.world) rule := by
  refine Outlook.digestOf_congr a.root fun hk => ?_
  rw [RuleStore.target_of_find? hf]
  exact h.sight a ⟨ht, by rwa [RuleStore.ruleFor_of_find? hf]⟩

lemma agreeFrom (ht : p.rules.Reaches goal t) : (p.view r).AgreeFrom (p'.view r') t where
  rules := a.rules.of_reaches ht
  made := congrArg Cache.made h.cache
  differs u q hu hm hq := by
    refine Outlook.differs_congr (h.digest a hq (ht.trans hu)) ?_
    change p'.surroundings.load r'.world r'.cache.buildId u =
      p.surroundings.load r.world r.cache.buildId u
    rw [h.cache, h.buildId, h.world', h.world]
    -- Whatever has been saved counts as made and is not looked up.
    exact a.loads r.trace u (ht.trans hu) fun hs => hm (h.made u hs)

lemma ask (ht : p.rules.Reaches goal t) :
    (p'.ask r' t).1 = (p.ask r t).1 ∧ p.Mirrors p' id w w' (p.ask r t).2 (p'.ask r' t).2 := by
  have hs : p'.surroundings.isStale p'.root p'.rules r'.cache r'.world t =
      p.surroundings.isStale p.root p.rules r.cache r.world t := by
    have hask := (h.agreeFrom a ht).ask [] { fresh := r.cache.fresh }
    change ((Survey.ask (p'.view r') [] { fresh := r'.cache.fresh } t).1,
      { r'.cache with fresh := (Survey.ask (p'.view r') [] { fresh := r'.cache.fresh } t).2.fresh },
      (Survey.ask (p'.view r') [] { fresh := r'.cache.fresh } t).2.notices) = _
    rw [h.cache, hask]
    rfl
  have hn := h.notice (p.surroundings.isStale p.root p.rules r.cache r.world t).2.2
    (p.surroundings.isStale p.root p.rules r.cache r.world t).2.2
  unfold Plan.ask
  rw [hs]
  exact ⟨rfl, h.buildId, rfl, h.settled, h.report, h.failure, hn.deeds, hn.world, hn.world',
    hn.made⟩

lemma isDue (ht : p.rules.Reaches goal t) :
    (p'.isDue r' t).1 = (p.isDue r t).1 ∧
      p.Mirrors p' id w w' (p.isDue r t).2 (p'.isDue r' t).2 := by
  unfold Plan.isDue
  rw [a.options]
  split
  · exact ⟨rfl, h⟩
  · exact h.ask a ht

omit h in
lemma outdatedFrom (ts found : List String) (r : Run W) (r' : Run W')
    (h : p.Mirrors p' id w w' r r') (hts : ∀ u ∈ ts, p.rules.Reaches goal u) :
    (p'.outdatedFrom found r' ts).1 = (p.outdatedFrom found r ts).1 ∧
      p.Mirrors p' id w w' (p.outdatedFrom found r ts).2 (p'.outdatedFrom found r' ts).2 := by
  induction ts generalizing found r r' with
  | nil => exact ⟨rfl, h⟩
  | cons t ts ih =>
    have hrest : ∀ u ∈ ts, p.rules.Reaches goal u := fun u hu => hts u (List.mem_cons_of_mem _ hu)
    obtain ⟨hstale, hask⟩ := h.ask a (hts t (by simp))
    rw [Plan.outdatedFrom, Plan.outdatedFrom, a.options, h.cache]
    split
    · exact ih found r r' h hrest
    split
    · exact ih (found ++ [t]) r r' h hrest
    · dsimp only
      rw [hstale]
      exact ih _ _ _ hask hrest

lemma outcome (j : Job) : p'.outcome r' j = p.outcome r j := by
  rw [Plan.outcome, Plan.outcome, h.world', h.world]
  exact a.outcome r.trace j

lemma record (listed : String → Report → Report) (hf : p.rules.find? rule.target = some rule)
    (hg : p.rules.Reaches goal rule.target) :
    p.Mirrors p' id w w' (p.record listed r rule.target) (p'.record listed r' rule.target) :=
  h.records (h.digest a hf hg) (record_records listed hf)
    (record_records listed ((a.rules _ hg).trans hf))

lemma runRecipe (hf : p.rules.find? rule.target = some rule)
    (hg : p.rules.Reaches goal rule.target) (recipe : String) (outdated : List String) :
    p.Mirrors p' id w w' (p.runRecipe r rule recipe outdated)
      (p'.runRecipe r' rule recipe outdated) := by
  have hj : p'.jobFor rule recipe outdated = p.jobFor rule recipe outdated := by
    rw [jobFor, a.root, jobFor]
  have hgiven := h.handOut (p.jobFor rule recipe outdated)
  rw [runRecipe_eq, runRecipe_eq, hj, h.outcome a]
  split
  · exact hgiven.fail _
  · exact (hgiven.notice _ _).fail _
  · exact hgiven.record a _ hf hg

lemma make (hf : p.rules.find? rule.target = some rule) (hg : p.rules.Reaches goal rule.target)
    (outdated : List String) :
    p.Mirrors p' id w w' (p.make r rule outdated) (p'.make r' rule outdated) := by
  unfold Plan.make
  split
  · exact h.runRecipe a hf hg _ outdated
  · exact h.record a _ hf hg

lemma refresh (hf : p.rules.find? rule.target = some rule)
    (hg : p.rules.Reaches goal rule.target) (hk : rule.kind = .filename) :
    p.Mirrors p' id w w' (p.refresh r rule.target) (p'.refresh r' rule.target) := by
  have hs := h.sight a ⟨hg, by rwa [RuleStore.ruleFor_of_find? hf]⟩
  have hexists : p'.fileExists r'.world rule.target = p.fileExists r.world rule.target :=
    Sources.fileExists_congr hs
  obtain ⟨hdue, hr⟩ := h.isDue a hg
  unfold Plan.refresh
  rw [hexists]
  split
  · exact (h.notice _ _).fail _
  · dsimp only
    rw [hdue]
    split
    · exact hr.record a _ hf hg
    · exact hr.skip _

lemma deal (hf : p.rules.find? rule.target = some rule) (hg : p.rules.Reaches goal rule.target) :
    p.Mirrors p' id w w' (p.deal r rule) (p'.deal r' rule) := by
  have hdeps : ∀ u ∈ rule.deps, p.rules.Reaches goal u := by
    intro u hu
    refine hg.snoc ?_
    rwa [RuleStore.Step, RuleStore.ruleFor_of_find? hf]
  unfold Plan.deal
  cases hk : rule.kind with
  | filename => exact h.refresh a hf hg hk
  | explicit =>
    obtain ⟨hdue, hr⟩ := h.isDue a hg
    obtain ⟨hout, hr'⟩ := outdatedFrom a rule.deps [] _ _ hr hdeps
    dsimp only
    rw [hdue, hout]
    split
    · exact hr'.make a hf hg _
    · exact hr.skip _

omit h in
lemma dealAll {rules : List Rule} (r : Run W) (r' : Run W') (h : p.Mirrors p' id w w' r r')
    (hrules : ∀ rule ∈ rules, p.rules.find? rule.target = some rule ∧
      p.rules.Reaches goal rule.target) :
    p.Mirrors p' id w w' (p.dealAll r rules) (p'.dealAll r' rules) := by
  induction rules generalizing r r' with
  | nil => exact h
  | cons rule rules ih =>
    obtain ⟨hf, hg⟩ := hrules rule (by simp)
    rw [Plan.dealAll, Plan.dealAll, h.failure]
    split
    · exact h
    · exact ih _ _ (h.deal a hf hg) fun q hq => hrules q (List.mem_cons_of_mem _ hq)

end Mirrors

lemma Mirrors.jobs (h : p.Mirrors p' id w w' r r') : r'.jobs = r.jobs := by
  rw [Run.jobs, ← jobs_deeds, h.deeds, jobs_deeds, Run.jobs]

lemma Mirrors.saved (h : p.Mirrors p' id w w' r r') :
    Freshen.saved r'.trace = Freshen.saved r.trace := by
  rw [← saved_deeds, h.deeds, saved_deeds]

lemma Mirrors.result (h : p.Mirrors p' id w w' r r') : r'.result = r.result := by
  rw [Run.result, h.failure, h.report, Run.result]

lemma run_mirrors {order : List Rule} (a : p.Alike p' id goal w w')
    (hord : p.rules.Ordered goal order) (hord' : p'.rules.Ordered goal order) :
    p.Mirrors p' id w w' (p.run { buildId := id } w order)
      (p'.run { buildId := id } w' order) := by
  rw [run_eq_dealAll p id w hord, run_eq_dealAll p' id w' hord']
  refine Mirrors.dealAll a _ _ (.start p p' id w w') fun rule hr => ⟨hord.found rule hr, ?_⟩
  exact hord.reached _ (List.mem_map_of_mem hr)
end Plan
end Freshen
