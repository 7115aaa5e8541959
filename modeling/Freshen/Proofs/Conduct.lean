import Freshen.Proofs.Bench
import Freshen.Proofs.Journal

/-! How a run goes about its order, whatever recipes do to files and to the digest store: rule by
rule, with no recipe before all that its target reaches has been dealt with. -/

namespace Freshen

open Bench

variable {W : Type}

namespace Plan

variable (p : Plan W)

structure Consults (r r' : Run W) : Prop where
  world : r'.world = r.world
  buildId : r'.cache.buildId = r.cache.buildId
  made : r'.cache.made = r.cache.made
  settled : r'.settled = r.settled
  report : r'.report = r.report
  failure : r'.failure = r.failure
  told : ∃ ns : List Notice, r'.trace = r.trace ++ ns.map .noticed

structure Conduct (order : List Rule) (done : List (Rule × Standing)) (extra : List Job)
    (r : Run W) : Prop where
  journal : p.Journal order done extra r.trace r.report
  going : r.failure = none
  settled : ∀ t, t ∈ r.settled ↔ t ∈ handled done
  made : ∀ t ∈ r.cache.made, t ∈ handled done

inductive Breaks (rule : Rule) (r : Run W) : List Job → BuildError → Prop
  | missing : rule.kind = .filename → p.fileExists r.world rule.target = false →
      Breaks rule r [] (.missingSource rule.target)
  | undigestible {e : DigestError} : rule.kind = .filename →
      Outlook.digestOf (p.surroundings.sources p.root r.world) rule = .error e →
      Breaks rule r [] (.undigestible e)
  | failed {j : Job} {w : W} {a : Response} {code : Int} : rule.kind = .explicit →
      p.Fits rule j → p.surroundings.execute w j = (a, r.world) →
      a.outcome = .ok (.failed code) → Breaks rule r [j] (.recipeFailed rule.target code)
  | notStarted {j : Job} {w : W} {a : Response} {e : StartError} : rule.kind = .explicit →
      p.Fits rule j → p.surroundings.execute w j = (a, r.world) → a.outcome = .error e →
      Breaks rule r [j] (.notStarted e)

structure Ends (order : List Rule) (done : List (Rule × Standing)) (rule : Rule)
    (extra : List Job) (err : BuildError) (r : Run W) : Prop where
  journal : p.Journal order done extra r.trace r.report
  failure : r.failure = some err
  cause : p.Breaks rule r extra err

def Advances (order : List Rule) (done : List (Rule × Standing)) (rule : Rule) (r : Run W) : Prop :=
  (∃ st, p.Conduct order (done ++ [(rule, st)]) [] r) ∨
    ∃ extra err, p.Ends order done rule extra err r

variable {p} {goal : String} {order rest : List Rule} {done : List (Rule × Standing)}
  {extra : List Job} {rule : Rule} {r r' r'' : Run W} {t : String} {j : Job}

namespace Consults

lemma refl (r : Run W) : Consults r r := ⟨rfl, rfl, rfl, rfl, rfl, rfl, [], by simp⟩

lemma trans (h : Consults r r') (h' : Consults r' r'') : Consults r r'' := by
  obtain ⟨ns, hns⟩ := h.told
  obtain ⟨ns', hns'⟩ := h'.told
  refine ⟨h'.world.trans h.world, h'.buildId.trans h.buildId, h'.made.trans h.made,
    h'.settled.trans h.settled, h'.report.trans h.report, h'.failure.trans h.failure,
    ns ++ ns', ?_⟩
  rw [hns', hns, List.map_append, List.append_assoc]

lemma jobs (h : Consults r r') : r'.jobs = r.jobs := by
  obtain ⟨ns, hns⟩ := h.told
  rw [Run.jobs, hns]
  exact Run.jobs_notice r ns

end Consults

lemma ask_consults (p : Plan W) (r : Run W) (t : String) : Consults r (p.ask r t).2 :=
  ⟨rfl, rfl, rfl, rfl, rfl, rfl, _, rfl⟩

lemma isDue_consults (p : Plan W) (r : Run W) (t : String) : Consults r (p.isDue r t).2 := by
  unfold isDue
  split
  · exact .refl r
  · exact ask_consults p r t

lemma outdatedFrom_consults (p : Plan W) (ts found : List String) (r : Run W) :
    (∀ u ∈ (p.outdatedFrom found r ts).1, u ∈ found ∨ u ∈ ts) ∧
      Consults r (p.outdatedFrom found r ts).2 := by
  induction ts generalizing found r with
  | nil => exact ⟨fun u hu => .inl hu, .refl r⟩
  | cons t ts ih =>
    have hgrow : ∀ found' r', (∀ u ∈ found', u ∈ found ∨ u = t) → Consults r r' →
        (∀ u ∈ (p.outdatedFrom found' r' ts).1, u ∈ found ∨ u ∈ t :: ts) ∧
          Consults r (p.outdatedFrom found' r' ts).2 := by
      intro found' r' hfound hr
      obtain ⟨hmem, hr'⟩ := ih found' r'
      refine ⟨fun u hu => ?_, hr.trans hr'⟩
      rcases hmem u hu with hu | hu
      · exact (hfound u hu).imp id fun he => by simp [he]
      · exact .inr (List.mem_cons_of_mem _ hu)
    have hadd : ∀ u ∈ found ++ [t], u ∈ found ∨ u = t := by simp
    rw [outdatedFrom]
    split
    · exact hgrow found r (fun u hu => .inl hu) (.refl r)
    split
    · exact hgrow _ r hadd (.refl r)
    · dsimp only
      split
      · exact hgrow _ _ hadd (ask_consults p r t)
      · exact hgrow found _ (fun u hu => .inl hu) (ask_consults p r t)

lemma outdatedFrom_settled (p : Plan W) {ts : List String} (h : ∀ u ∈ ts, u ∈ r.settled) :
    ∀ u ∈ (p.outdatedFrom [] r ts).1, u ∈ (p.outdatedFrom [] r ts).2.settled := by
  obtain ⟨hmem, hr⟩ := outdatedFrom_consults p ts [] r
  intro u hu
  rw [hr.settled]
  exact h u ((hmem u hu).resolve_left List.not_mem_nil)

namespace Conduct

lemma start (p : Plan W) (order : List Rule) (id : String) (w : W) :
    p.Conduct order [] [] { world := w, cache := { buildId := id } } where
  journal := .start p order
  going := rfl
  settled := by simp
  made := by simp

lemma consult (h : p.Conduct order done extra r) (hr : Consults r r') :
    p.Conduct order done extra r' := by
  obtain ⟨ns, hns⟩ := hr.told
  refine ⟨?_, hr.failure.trans h.going, ?_, ?_⟩
  · rw [hns, hr.report]
    exact h.journal.idle fun a ha => Event.idle_noticed ha
  · rw [hr.settled]
    exact h.settled
  · rw [hr.made]
    exact h.made

lemma skip (h : p.Conduct order done [] r) :
    p.Conduct order (done ++ [(rule, .upToDate)]) [] (r.skip rule.target) := by
  refine ⟨h.journal.deal (by simp) rfl ?_ ?_, h.going, fun t => ?_, fun t ht => ?_⟩
  · change { r.report with skipped := r.report.skipped ++ [rule.target] } = _
    rw [h.journal.report, Report.foretold_skipped rfl]
  · exact (List.append_nil _).symm
  · change t ∈ rule.target :: r.settled ↔ _
    rw [List.mem_cons, h.settled, mem_handled_snoc]
  · exact mem_handled_snoc.mpr (.inr (h.made t ht))

lemma record (h : p.Conduct order done extra r) (hx : p.Next goal done rule)
    (hextra : rule.kind = .filename → extra = []) (listed : String → Report → Report)
    (hrep : listed rule.target r.report = Report.foretold (done ++ [(rule, .stale)]))
    (hexec : (listed rule.target r.report).executed =
      r.report.executed ++ extra.map (·.target)) :
    p.Advances order done rule (p.record listed r rule.target) := by
  have hcache := Surroundings.record_cache p.surroundings p.root p.rules r.cache r.world rule.target
  have hnotices : ∀ ns : List Notice,
      p.Journal order done extra (r.trace ++ ns.map .noticed) r.report :=
    fun ns => h.journal.idle fun a ha => Event.idle_noticed ha
  unfold Plan.record
  dsimp only
  split
  · next e he =>
    have hd := Surroundings.digestOf_of_record_error hx.found he
    have hk := Outlook.filename_of_error hd
    have hworld : (p.surroundings.record p.root p.rules r.cache r.world rule.target).world =
        r.world := by
      rw [Surroundings.record_of_error hx.found hd]
    rw [← hworld] at hd
    refine .inr ⟨extra, _, hnotices _, rfl, ?_⟩
    rw [hextra hk]
    exact .undigestible hk hd
  · next d _ =>
    refine .inl ⟨.stale, (hnotices _).deal (by simp) rfl hrep hexec, h.going, fun t => ?_,
      fun t ht => ?_⟩
    · change t ∈ rule.target :: r.settled ↔ _
      rw [List.mem_cons, h.settled, mem_handled_snoc]
    · change t ∈ (p.surroundings.record _ _ _ _ _).cache.made at ht
      rw [hcache, Cache.mem_noteMade] at ht
      exact mem_handled_snoc.mpr (ht.imp id (h.made t))

lemma refresh (h : p.Conduct order done [] r) (hx : p.Next goal done rule)
    (hk : rule.kind = .filename) : p.Advances order done rule (p.refresh r rule.target) := by
  unfold Plan.refresh
  split
  · next hgone =>
    have hgone' : p.fileExists r.world rule.target = false := by simpa using hgone
    refine .inr ⟨[], _, ?_, rfl, .missing hk hgone'⟩
    exact h.journal.idle fun a ha => Event.idle_noticed ha
  · have hdue := h.consult (isDue_consults p r rule.target)
    dsimp only
    split
    · refine hdue.record hx (fun _ => rfl) _ ?_ (List.append_nil _).symm
      rw [hdue.journal.report, Report.foretold_refreshed rfl hk]
    · exact .inl ⟨_, hdue.skip⟩

lemma runRecipe (h : p.Conduct order done [] r) (hx : p.Next goal done rule)
    (he : order = done.map (·.1) ++ rule :: rest) (hk : rule.kind = .explicit) {recipe : String}
    (hrec : rule.recipe = some recipe) (outdated : List String) :
    p.Advances order done rule (p.runRecipe r rule recipe outdated) := by
  let job : Job := ⟨rule.target, recipe, rule.deps, outdated, p.root⟩
  have hfits : p.Fits rule job := ⟨rfl, hrec, rfl, rfl⟩
  have hbanner : ∀ a ∈ (if p.options.silent then [] else [Event.printed (banner rule.target)]),
      a.Idle := by
    intro a ha
    split at ha
    · cases ha
    · obtain rfl := List.mem_singleton.mp ha
      exact ⟨rfl, rfl⟩
  have hissued := (h.journal.idle hbanner).handOut he hfits
  rw [List.append_assoc] at hissued
  have hprinted : ∀ ls : List OutputLine, p.Journal order done [job] (r.trace ++
      ((if p.options.silent then [] else [.printed (banner rule.target)]) ++ [.handedOut job]) ++
        ls.map .printed) r.report :=
    fun ls => hissued.idle fun a ha => Event.idle_printed ha
  unfold Plan.runRecipe
  dsimp only
  split
  · next err herr =>
    exact .inr ⟨[job], _, hprinted _, rfl, .notStarted hk hfits rfl herr⟩
  · next code hcode =>
    refine .inr ⟨[job], _, ?_, rfl, .failed hk hfits rfl hcode⟩
    exact (hprinted _).idle fun a ha => Event.idle_noticed ha
  · have hafter : p.Conduct order done [job] { (r.tell ((if p.options.silent then [] else
        [.printed (banner rule.target)]) ++ [.handedOut job])).tell
          ((p.surroundings.execute r.world job).1.lines.map .printed) with
        world := (p.surroundings.execute r.world job).2 } :=
      ⟨hprinted _, h.going, h.settled, h.made⟩
    refine hafter.record hx (fun hf => by simp [hk] at hf) _ ?_ rfl
    change { r.report with executed := r.report.executed ++ [rule.target] } = _
    rw [h.journal.report, Report.foretold_executed rfl hk (by rw [hrec]; rfl)]

lemma make (h : p.Conduct order done [] r) (hx : p.Next goal done rule)
    (he : order = done.map (·.1) ++ rule :: rest) (hk : rule.kind = .explicit)
    (outdated : List String) : p.Advances order done rule (p.make r rule outdated) := by
  unfold Plan.make
  split
  · next recipe hrec => exact h.runRecipe hx he hk hrec outdated
  · next hrec =>
    refine h.record hx (fun _ => rfl) _ ?_ (List.append_nil _).symm
    rw [h.journal.report, Report.foretold_grouped rfl hk hrec]

lemma bring (h : p.Conduct order done [] r) (hx : p.Next goal done rule)
    (he : order = done.map (·.1) ++ rule :: rest) :
    p.Advances order done rule (p.bring [] r rule.target) := by
  have hset : rule.target ∉ r.settled := (h.settled _).not.mpr hx.new
  have hmade : rule.target ∉ r.cache.made := fun hm => hx.new (h.made _ hm)
  cases hk : rule.kind with
  | filename =>
    rw [bring_of_filename h.going hset (by simp) hmade hx.found hk]
    exact h.refresh hx hk
  | explicit =>
    have hdue := h.consult (isDue_consults p r rule.target)
    rw [bring_of_explicit h.going hset (by simp) hmade hx.found hk]
    split
    · have hout := hdue.consult (outdatedFrom_consults p rule.deps [] (p.isDue r rule.target).2).2
      -- A dependency can have become stale after it was skipped; it is not looked at again.
      have hall := outdatedFrom_settled p fun u hu => (hdue.settled u).mpr (hx.deps u hu)
      dsimp only
      rw [bringAll_of_settled p _ _ _ fun u hu => .inr (hall u hu), if_neg (by simp [hout.going])]
      exact hout.make hx he hk _
    · exact .inl ⟨_, hdue.skip⟩

end Conduct

lemma advances_run (p : Plan W) (id : String) (w : W) (hord : p.rules.Ordered goal order) :
    (∃ done, done.map (·.1) = order ∧
      p.Conduct order done [] (p.run { buildId := id } w order)) ∨
    ∃ done rule rest extra err, order = done.map (·.1) ++ rule :: rest ∧
      p.Ends order done rule extra err (p.run { buildId := id } w order) := by
  suffices hh : ∀ (rest : List Rule) (done : List (Rule × Standing)) (r : Run W),
      order = done.map (·.1) ++ rest → p.Conduct order done [] r →
      let r' := rest.foldl (fun r rule => p.bring [] r rule.target) r
      (∃ done, done.map (·.1) = order ∧ p.Conduct order done [] r') ∨
        ∃ done rule rest extra err, order = done.map (·.1) ++ rule :: rest ∧
          p.Ends order done rule extra err r' from
    hh order [] _ rfl (.start p order id w)
  intro rest
  induction rest with
  | nil =>
    intro done r he h
    rw [List.append_nil] at he
    exact .inl ⟨done, he.symm, h⟩
  | cons rule rest ih =>
    intro done r he h
    rcases h.bring (next_of_ordered hord he) he with ⟨st, h'⟩ | ⟨extra, err, hend⟩
    · exact ih (done ++ [(rule, st)]) _ (by simp [he]) h'
    · refine .inr ⟨done, rule, rest, extra, err, he, ?_⟩
      rwa [List.foldl_cons, foldl_bring_of_failure _ (by simp [hend.failure])]

lemma Breaks.sublist {err : BuildError} (h : p.Breaks rule r extra err) :
    (extra.map (·.target)).Sublist [rule.target] := by
  cases h with
  | missing _ _ | undigestible _ _ => simp
  | failed _ hj _ _ | notStarted _ hj _ _ => simp [hj.target]

lemma Journal.jobs_nodup {trace : List Event} {rep : Report}
    (h : p.Journal order done extra trace rep) (he : order = done.map (·.1) ++ rest)
    (hextra : (extra.map (·.target)).Sublist (targets rest)) (hn : (targets order).Nodup) :
    ((trace.filterMap Event.job?).map (·.target)).Nodup := by
  have hexec : rep.executed.Sublist (handled done) := by
    rw [h.report]
    exact Report.entered_sublist done _
  rw [h.jobs]
  refine List.Nodup.sublist (hexec.append hextra) ?_
  rwa [he, targets, List.map_append] at hn

end Plan

namespace Workplace

variable {b : Workplace W} {i : Invocation W}

structure HandsOut (b : Workplace W) (i : Invocation W) (before : List Event) (j : Job) : Prop where
  recipe : (i.rules.ruleFor j.target).recipe = some j.recipe
  inputs : j.inputs = (i.rules.ruleFor j.target).deps
  workdir : j.workdir = b.root
  place : ∃ done rule rest, b.order i = done ++ rule :: rest ∧ rule.target = j.target ∧
    dealt before = targets done
  below : ∀ x, i.rules.Reaches j.target x → x ≠ j.target →
    .skipped x ∈ before ∨ ∃ d, .recorded x d ∈ before

lemma handsOut_of_issues {before : List Event} {j : Job} (h : b.Accepts i)
    (hj : (b.plan i).Issues (b.order i) before j) : b.HandsOut i before j := by
  obtain ⟨done, rule, rest, he, hfits, hdealt⟩ := hj
  have hord := ordered h
  have hmem : rule ∈ b.order i := by simp [he]
  have hrule : i.rules.ruleFor j.target = rule := by
    rw [← plan_ruleFor b, hfits.target, hord.ruleFor_eq hmem]
  refine ⟨hrule ▸ hfits.recipe, hrule ▸ hfits.inputs, hfits.workdir,
    ⟨done, rule, rest, he, hfits.target.symm, hdealt⟩, fun x hx hne => ?_⟩
  rw [← mem_dealt, hdealt]
  cases hx with
  | refl => exact (hne rfl).elim
  | @step _ u _ hs hr =>
    rw [RuleStore.Step, hrule] at hs
    have hu := (hord.topological done rule rest he).2 u hs
    exact (he ▸ hord).closed_left hu (plan_reaches.mpr hr)

/-- Whatever recipes do, a run deals with its order rule by rule. It hands out at most one job a
target, after all that the target reaches, and it accounts for every rule in one list. If it fails,
it fails at a rule up to which all this holds. -/
theorem run_in_order (h : b.Accepts i) :
    ((b.run i).jobs.map (·.target)).Nodup ∧
    (∀ before j later, (b.run i).trace = before ++ .handedOut j :: later →
      b.HandsOut i before j) ∧
    (∀ rep, (b.run i).result = .ok rep → rep.Accounts (b.order i) ∧
      dealt (b.run i).trace = targets (b.order i) ∧
      rep.executed = (b.run i).jobs.map (·.target)) ∧
    ∀ err, (b.run i).result = .error err → ∃ done rule rest extra,
      b.order i = done ++ rule :: rest ∧ (b.plan i).Breaks rule (b.run i) extra err ∧
      (b.run i).report.Accounts done ∧ dealt (b.run i).trace = targets done ∧
      (b.run i).jobs.map (·.target) = (b.run i).report.executed ++ extra.map (·.target) := by
  have hn := (ordered h).topological.nodup
  have hissued : ∀ {done extra rep}, (b.plan i).Journal (b.order i) done extra (b.run i).trace rep →
      ∀ before j later, (b.run i).trace = before ++ .handedOut j :: later →
        b.HandsOut i before j := by
    intro done extra rep hj before j later ht
    exact handsOut_of_issues h (hj.issued before j ⟨later, by simp [ht]⟩)
  rcases Plan.advances_run (b.plan i) b.buildId i.world (ordered h) with
    ⟨done, he, hc⟩ | ⟨done, rule, rest, extra, err, he, hend⟩
  · have hj := hc.journal
    have hjobs : (b.run i).jobs.map (·.target) = (b.run i).report.executed :=
      hj.jobs.trans (List.append_nil _)
    have hall : b.order i = done.map (·.1) ++ [] := by rw [he, List.append_nil]
    refine ⟨hj.jobs_nodup hall (by simp) hn, hissued hj, ?_, ?_⟩
    · intro rep hrep
      obtain ⟨_, rfl⟩ := Run.result_eq_ok.mp hrep
      refine ⟨he ▸ hj.accounts (by rwa [← he] at hn), ?_, hjobs.symm⟩
      rw [← he]
      exact hj.dealt
    · intro err herr
      have hfail := Run.result_eq_error.mp herr
      cases hc.going.symm.trans hfail
  · have hj := hend.journal
    have hextra : (extra.map (·.target)).Sublist (targets (rule :: rest)) :=
      hend.cause.sublist.trans (by simp)
    refine ⟨hj.jobs_nodup he hextra hn, hissued hj, ?_, ?_⟩
    · intro rep hrep
      obtain ⟨hgo, _⟩ := Run.result_eq_ok.mp hrep
      cases hend.failure.symm.trans hgo
    · intro err' herr
      have hfail := Run.result_eq_error.mp herr
      obtain rfl := Option.some.inj (hend.failure.symm.trans hfail)
      have hdone : (Plan.handled done).Nodup := by
        rw [he, targets, List.map_append] at hn
        exact (List.nodup_append.mp hn).1
      exact ⟨_, rule, rest, extra, he, hend.cause, hj.accounts hdone, hj.dealt, hj.jobs⟩

theorem run_in_order_failing :
    dealt (workplace.run (invoke "app" {} fail (source "int" []))).trace = ["main.c"] ∧
      (workplace.run (invoke "app" {} fail (source "int" []))).jobs.map (·.target) = ["app"] := by
  have ha : workplace.Accepts (invoke "app" {} fail (source "int" [])) := accepts (.inl rfl)
  have hfail : (workplace.run (invoke "app" {} fail (source "int" []))).result =
      .error (.recipeFailed "app" 1) := Run.result_eq_error.mpr (compile_fails rfl)
  obtain ⟨done, rule, rest, extra, he, hcause, hacc, hdealt, hjobs⟩ :=
    (run_in_order ha).2.2.2 _ hfail
  generalize herr : BuildError.recipeFailed "app" 1 = err at hcause
  cases hcause with
  | missing _ _ | undigestible _ _ | notStarted _ _ _ _ => cases herr
  | failed hk hfits _ _ =>
    obtain ⟨htarget, _⟩ := BuildError.recipeFailed.inj herr
    obtain rfl := before_explicit (.inl rfl) he hk
    have hexec := hacc.executed_eq_nil (by simp [Rule.file])
    rw [hjobs, hexec, hdealt]
    simp [hfits.target, ← htarget, Rule.file]

end Workplace
end Freshen
