import Freshen.Proofs.Conduct

/-! A run over a resolved order deals with one rule after the other until one fails. It never has to
look below a rule, as what lies there has been dealt with before. -/

namespace Freshen

variable {W : Type}

namespace Plan

variable (p : Plan W)

def deal (r : Run W) (rule : Rule) : Run W :=
  match rule.kind with
  | .filename => p.refresh r rule.target
  | .explicit =>
    if (p.isDue r rule.target).1 then
      let out := p.outdatedFrom [] (p.isDue r rule.target).2 rule.deps
      p.make out.2 rule out.1
    else (p.isDue r rule.target).2.skip rule.target

def jobFor (rule : Rule) (recipe : String) (outdated : List String) : Job :=
  ⟨rule.target, recipe, rule.deps, outdated, p.root⟩

def heading (j : Job) : List Event :=
  if p.options.silent then [] else [.printed (banner j.target)]

def handOut (r : Run W) (j : Job) : Run W :=
  let r := r.tell (p.heading j ++ [.handedOut j])
  { r with world := (p.surroundings.execute r.world j).2 }.tell
    ((p.surroundings.execute r.world j).1.lines.map .printed)

def outcome (r : Run W) (j : Job) : Except StartError Outcome :=
  (p.surroundings.execute r.world j).1.outcome

def dealAll (r : Run W) : List Rule → Run W
  | [] => r
  | rule :: rules => if r.failure.isSome then r else dealAll (p.deal r rule) rules

inductive Records (listed : String → Report → Report) (rule : Rule) (r : Run W) : Run W → Prop
  | digested {d : Digest} {ns : List Notice} :
      Outlook.digestOf (p.surroundings.sources p.root r.world) rule = .ok d →
      Records listed rule r { r with
        world := (p.surroundings.save r.world r.cache.buildId rule.target d.hex).2
        cache := r.cache.noteMade rule.target
        settled := rule.target :: r.settled
        report := listed rule.target r.report
        trace := r.trace ++ ns.map .noticed ++ [.recorded rule.target (some d)] }
  | undigestible {e : DigestError} :
      Outlook.digestOf (p.surroundings.sources p.root r.world) rule = .error e →
      Records listed rule r
        { r with cache := r.cache.noteMade rule.target, failure := some (.undigestible e) }

inductive Makes (rule : Rule) (r : Run W) : Run W → Prop
  | refreshed {r' : Run W} : rule.kind = .filename →
      p.Records (fun t rep => { rep with refreshed := rep.refreshed ++ [t] }) rule r r' →
      Makes rule r r'
  | grouped {r' : Run W} : rule.kind = .explicit → rule.recipe = none →
      p.Records (fun t rep => { rep with grouped := rep.grouped ++ [t] }) rule r r' →
      Makes rule r r'
  | executed {j : Job} {r' : Run W} : rule.kind = .explicit → p.Fits rule j →
      p.outcome r j = .ok .success →
      p.Records (fun t rep => { rep with executed := rep.executed ++ [t] }) rule
        (p.handOut r j) r' → Makes rule r r'
  | failed {j : Job} {code : Int} : rule.kind = .explicit → p.Fits rule j →
      p.outcome r j = .ok (.failed code) → Makes rule r
        (((p.handOut r j).notice [.recipeFailed rule.target code]).fail
          (.recipeFailed rule.target code))
  | notStarted {j : Job} {e : StartError} : rule.kind = .explicit → p.Fits rule j →
      p.outcome r j = .error e → Makes rule r ((p.handOut r j).fail (.notStarted e))

inductive Deals (rule : Rule) (r : Run W) : Run W → Prop
  | missing : rule.kind = .filename → p.fileExists r.world rule.target = false →
      Deals rule r ((r.notice [.sourceMissing rule.target]).fail (.missingSource rule.target))
  | skipped : (p.isDue r rule.target).1 = false →
      Deals rule r ((p.isDue r rule.target).2.skip rule.target)
  | made {r' r'' : Run W} : (p.isDue r rule.target).1 = true → Consults r r' →
      p.Makes rule r' r'' → Deals rule r r''

variable {p} {goal : String} {order : List Rule} {done : List (Rule × Standing)} {rule : Rule}
  {r r' : Run W} {id : String} {w : W}

lemma handOut_eq (p : Plan W) (r : Run W) (j : Job) : p.handOut r j =
    { (r.tell (p.heading j)).tell [.handedOut j] with
      world := (p.surroundings.execute r.world j).2 }.tell
        ((p.surroundings.execute r.world j).1.lines.map .printed) := by
  simp only [handOut, Run.tell, List.append_assoc]

lemma jobs_handOut (p : Plan W) (r : Run W) (j : Job) : (p.handOut r j).jobs = r.jobs ++ [j] := by
  have hprinted : ∀ ls : List OutputLine, (ls.map Event.printed).filterMap Event.job? = [] := by
    intro ls
    simp [List.filterMap_map, Event.job?, Function.comp_def]
  have hheading : (p.heading j).filterMap Event.job? = [] := by
    unfold heading
    split
    · rfl
    · rfl
  rw [handOut_eq, Run.jobs_tell, hprinted, List.append_nil]
  refine (Run.jobs_tell _ _).trans ?_
  rw [Run.jobs_tell, hheading, List.append_nil]
  rfl

lemma Records.jobs {listed : String → Report → Report} (h : p.Records listed rule r r') :
    r'.jobs = r.jobs := by
  cases h with
  | undigestible _ => rfl
  | @digested d ns _ =>
    refine (Run.jobs_tell (r.notice ns) [.recorded rule.target (some d)]).trans ?_
    exact (List.append_nil _).trans (Run.jobs_notice r ns)

lemma record_records (listed : String → Report → Report)
    (hf : p.rules.find? rule.target = some rule) :
    p.Records listed rule r (p.record listed r rule.target) := by
  cases hd : Outlook.digestOf (p.surroundings.sources p.root r.world) rule with
  | error e =>
    have hrec := Surroundings.record_of_error (c := r.cache) hf hd
    have hr : p.record listed r rule.target = { r with
        cache := r.cache.noteMade rule.target, failure := some (.undigestible e) } := by
      simp [record, hrec, Run.notice, Run.tell, Run.fail]
    rw [hr]
    exact .undigestible hd
  | ok d =>
    obtain ⟨hres, hc, hw⟩ := Surroundings.record_of_digest (c := r.cache) hf hd
    have hr : p.record listed r rule.target = { r with
        world := (p.surroundings.save r.world r.cache.buildId rule.target d.hex).2
        cache := r.cache.noteMade rule.target
        settled := rule.target :: r.settled
        report := listed rule.target r.report
        trace := r.trace ++ (p.surroundings.record p.root p.rules r.cache r.world
          rule.target).notices.map .noticed ++ [.recorded rule.target (some d)] } := by
      simp [record, hres, hc, hw, Run.notice, Run.tell, Run.settle]
    rw [hr]
    exact .digested hd

lemma runRecipe_eq (p : Plan W) (r : Run W) (rule : Rule) (recipe : String)
    (outdated : List String) : p.runRecipe r rule recipe outdated =
      match p.outcome r (p.jobFor rule recipe outdated) with
      | .error e => (p.handOut r (p.jobFor rule recipe outdated)).fail (.notStarted e)
      | .ok (.failed code) => ((p.handOut r (p.jobFor rule recipe outdated)).notice
          [.recipeFailed rule.target code]).fail (.recipeFailed rule.target code)
      | .ok .success => p.record (fun t rep => { rep with executed := rep.executed ++ [t] })
          (p.handOut r (p.jobFor rule recipe outdated)) rule.target := rfl

lemma runRecipe_makes (hf : p.rules.find? rule.target = some rule) (hk : rule.kind = .explicit)
    {recipe : String} (hrec : rule.recipe = some recipe) (outdated : List String) :
    p.Makes rule r (p.runRecipe r rule recipe outdated) := by
  have hfits : p.Fits rule (p.jobFor rule recipe outdated) := ⟨rfl, hrec, rfl, rfl⟩
  rw [runRecipe_eq]
  split
  · next e he => exact .notStarted hk hfits he
  · next code hcode => exact .failed hk hfits hcode
  · next hout => exact .executed hk hfits hout (record_records _ hf)

lemma make_makes (hf : p.rules.find? rule.target = some rule) (hk : rule.kind = .explicit)
    (outdated : List String) : p.Makes rule r (p.make r rule outdated) := by
  unfold make
  split
  · next recipe hrec => exact runRecipe_makes hf hk hrec outdated
  · next hrec => exact .grouped hk hrec (record_records _ hf)

lemma deal_deals (hf : p.rules.find? rule.target = some rule) :
    p.Deals rule r (p.deal r rule) := by
  have hdue := isDue_consults p r rule.target
  unfold deal
  cases hk : rule.kind with
  | filename =>
    dsimp only
    unfold refresh
    split
    · next hgone => exact .missing hk (by simpa using hgone)
    · dsimp only
      split
      · next hd => exact .made hd hdue (.refreshed hk (record_records _ hf))
      · next hd => exact .skipped (Bool.not_eq_true _ ▸ hd)
  | explicit =>
    dsimp only
    split
    · next hd =>
      have hout := (outdatedFrom_consults p rule.deps [] (p.isDue r rule.target).2).2
      exact .made hd (hdue.trans hout) (make_makes hf hk _)
    · next hd => exact .skipped (Bool.not_eq_true _ ▸ hd)

lemma dealAll_of_failure (h : r.failure.isSome) (rules : List Rule) : p.dealAll r rules = r := by
  cases rules with
  | nil => rfl
  | cons rule rules => rw [dealAll, if_pos h]

lemma bring_eq_deal (hgo : r.failure = none) (hset : rule.target ∉ r.settled)
    (hmade : rule.target ∉ r.cache.made) (hf : p.rules.find? rule.target = some rule)
    (hdeps : ∀ u ∈ rule.deps, u ∈ r.settled) : p.bring [] r rule.target = p.deal r rule := by
  unfold deal
  cases hk : rule.kind with
  | filename => rw [bring_of_filename hgo hset (by simp) hmade hf hk]
  | explicit =>
    have hdue := isDue_consults p r rule.target
    have hout := hdue.trans (outdatedFrom_consults p rule.deps [] (p.isDue r rule.target).2).2
    have hall := outdatedFrom_settled p fun u hu => hdue.settled ▸ hdeps u hu
    rw [bring_of_explicit hgo hset (by simp) hmade hf hk]
    dsimp only
    split
    · rw [bringAll_of_settled p _ _ _ fun u hu => .inr (hall u hu),
        if_neg (by simp [hout.failure, hgo])]
    · rfl

lemma run_eq_dealAll (p : Plan W) (id : String) (w : W) (hord : p.rules.Ordered goal order) :
    p.run { buildId := id } w order =
      p.dealAll { world := w, cache := { buildId := id } } order := by
  suffices hh : ∀ (rest : List Rule) (done : List (Rule × Standing)) (r : Run W),
      order = done.map (·.1) ++ rest → p.Conduct order done [] r →
      rest.foldl (fun r rule => p.bring [] r rule.target) r = p.dealAll r rest from
    hh order [] _ rfl (.start p order id w)
  intro rest
  induction rest with
  | nil =>
    intro done r _ _
    rfl
  | cons rule rest ih =>
    intro done r he h
    have hx := next_of_ordered hord he
    have hbring : p.bring [] r rule.target = p.deal r rule :=
      bring_eq_deal h.going ((h.settled _).not.mpr hx.new) (fun hm => hx.new (h.made _ hm))
        hx.found fun u hu => (h.settled u).mpr (hx.deps u hu)
    rw [List.foldl_cons, dealAll, if_neg (by simp [h.going]), ← hbring]
    rcases h.bring hx he with ⟨st, h'⟩ | ⟨extra, err, hend⟩
    · exact ih (done ++ [(rule, st)]) _ (by simp [he]) h'
    · have hfail : (p.bring [] r rule.target).failure.isSome := by simp [hend.failure]
      rw [foldl_bring_of_failure _ hfail, dealAll_of_failure hfail]

lemma run_induct {P : Run W → Prop} (hord : p.rules.Ordered goal order)
    (hstart : P { world := w, cache := { buildId := id } })
    (hstep : ∀ rule ∈ order, ∀ r r' : Run W, r.failure = none → P r → p.Deals rule r r' → P r') :
    P (p.run { buildId := id } w order) := by
  rw [run_eq_dealAll p id w hord]
  suffices hh : ∀ (rest : List Rule) (r : Run W), (∀ rule ∈ rest, rule ∈ order) → P r →
      P (p.dealAll r rest) from hh order _ (fun _ hr => hr) hstart
  intro rest
  induction rest with
  | nil =>
    intro r _ h
    exact h
  | cons rule rest ih =>
    intro r hrest h
    rw [dealAll]
    split
    · exact h
    · next hgo =>
      have hr := hrest rule (by simp)
      have hdeal := hstep rule hr r _ (by simpa using hgo) h (deal_deals (hord.found rule hr))
      exact ih _ (fun q hq => hrest q (List.mem_cons_of_mem _ hq)) hdeal

lemma run_induct_progress {P : Run W → Prop} {L : List (Rule × Standing)}
    (hord : p.rules.Ordered goal order) (hL : L.map (·.1) = order)
    (hstands : ∀ e ∈ L, p.Stands id w e.1 e.2) (hsep : p.surroundings.Separate)
    (hspare : p.Spares goal) (hstart : P { world := w, cache := { buildId := id } })
    (hstep : ∀ done rule r, p.Progress id w goal done r → p.Next goal done rule → P r →
      P (p.deal r rule)) :
    P (p.run { buildId := id } w order) := by
  rw [run_eq_dealAll p id w hord, ← hL]
  suffices hh : ∀ (rest done : List (Rule × Standing)) (r : Run W), L = done ++ rest →
      p.Progress id w goal done r → P r → P (p.dealAll r (rest.map (·.1))) from
    hh L [] _ rfl (progress_start p id w goal) hstart
  intro rest
  induction rest with
  | nil =>
    intro done r _ _ h
    exact h
  | cons e rest ih =>
    intro done r he hp h
    have he' : order = done.map (·.1) ++ e.1 :: rest.map (·.1) := by
      rw [← hL, he, List.map_append, List.map_cons]
    have hx := next_of_ordered hord he'
    have hdeal := hstep done e.1 r hp hx h
    have hbring : p.bring [] r e.1.target = p.deal r e.1 :=
      bring_eq_deal hp.going ((hp.settled _).not.mpr hx.new) (hp.notMem_made hx.new) hx.found
        fun u hu => (hp.settled u).mpr (hx.deps u hu)
    rw [List.map_cons, dealAll, if_neg (by simp [hp.going])]
    rcases hp.bring_proceeds hx hsep hspare (hstands e (by simp [he])) with ⟨_, hp'⟩ | ⟨err, hh⟩
    · exact ih (done ++ [e]) _ (by simp [he]) (hbring ▸ hp') hdeal
    · rw [hbring] at hh
      rwa [dealAll_of_failure (by simp [hh.failure])]

end Plan
end Freshen
