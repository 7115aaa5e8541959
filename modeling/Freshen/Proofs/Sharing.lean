import Freshen.Proofs.Calls
import Freshen.Proofs.Deeds

/-! Runs that share one cache. What one of them has recorded no later one records or lists again,
whatever has become of files, rules and recipes meanwhile. -/

namespace Freshen

open Bench

variable {W : Type}

def Event.recorded? : Event → Option String
  | recorded t _ => some t
  | skipped _ | handedOut _ | printed _ | noticed _ => none

def recordings (es : List Event) : List String := es.filterMap Event.recorded?

def Report.Lists (rep : Report) (t : String) : Prop := rep.Made t ∨ t ∈ rep.skipped

def Run.undigested (r : Run W) : List DigestError :=
  match r.failure with
  | some (.undigestible e) => [e]
  | _ => []

lemma recordings_append (es es' : List Event) :
    recordings (es ++ es') = recordings es ++ recordings es' := List.filterMap_append

lemma recordings_of_not_deed {es : List Event} (h : ∀ e ∈ es, e.isDeed = false) :
    recordings es = [] := by
  refine List.filterMap_eq_nil_iff.mpr fun e he => ?_
  cases e with
  | recorded _ _ => cases h _ he
  | skipped _ | handedOut _ | printed _ | noticed _ => rfl

namespace Cache

variable {c c' c'' : Cache} {news news' : List String}

structure Grows (news : List String) (c c' : Cache) : Prop where
  made : c'.made = c.made ++ news
  once : news.Nodup
  new : ∀ t ∈ news, t ∉ c.made

lemma Grows.of_made_eq (h : c'.made = c.made) : Grows [] c c' :=
  ⟨h.trans (List.append_nil _).symm, List.nodup_nil, by simp⟩

lemma Grows.trans (h : Grows news c c') (h' : Grows news' c' c'') :
    Grows (news ++ news') c c'' := by
  have hnew : ∀ t ∈ news', t ∉ c.made ∧ t ∉ news := by
    intro t ht
    rw [← not_or, ← List.mem_append, ← h.made]
    exact h'.new t ht
  refine ⟨?_, ?_, fun t ht => ?_⟩
  · rw [h'.made, h.made, List.append_assoc]
  · exact h.once.append h'.once fun t ht ht' => (hnew t ht').2 ht
  · exact (List.mem_append.mp ht).elim (h.new t) fun ht => (hnew t ht).1

lemma grows_noteMade {t : String} (h : t ∉ c.made) : Grows [t] c (c.noteMade t) := by
  refine ⟨?_, List.nodup_singleton t, fun u hu => ?_⟩
  · rw [noteMade, if_neg h]
  · rwa [List.mem_singleton.mp hu]

end Cache

namespace Surroundings

variable (s : Surroundings W) (id : String)

def success? (w : W) : Event → Option String
  | .handedOut j => if (s.execute w j).1.outcome = .ok .success then some j.target else none
  | .recorded _ _ | .skipped _ | .printed _ | .noticed _ => none

def successes (w : W) : List Event → List String
  | [] => []
  | e :: es => (s.success? w e).toList ++ successes (s.undergo id w e) es

variable {s id} {w : W} {es : List Event} {j : Job}

lemma successes_append (w : W) (es es' : List Event) : s.successes id w (es ++ es') =
    s.successes id w es ++ s.successes id (s.replay id w es) es' := by
  induction es generalizing w with
  | nil => rfl
  | cons e es ih =>
    rw [List.cons_append, successes, successes, ih, List.append_assoc]
    rfl

lemma successes_of_not_deed (w : W) (h : ∀ e ∈ es, e.isDeed = false) :
    s.successes id w es = [] := by
  induction es generalizing w with
  | nil => rfl
  | cons e es ih =>
    rw [successes, ih _ fun a ha => h a (List.mem_cons_of_mem _ ha), List.append_nil]
    cases e with
    | handedOut _ => cases h _ List.mem_cons_self
    | recorded _ _ | skipped _ | printed _ | noticed _ => rfl

end Surroundings

namespace Plan

variable (p : Plan W) (id : String) (w : W)

structure Leads (t : String) (pending : List String) (r r' : Run W) : Prop where
  world : r'.world = p.surroundings.replay id w r'.trace
  made : r'.cache.made = r.cache.made
  listed : ∀ u, r'.report.Lists u → r.report.Lists u ∨ u = t
  recorded : recordings r'.trace = recordings r.trace
  succeeded : p.surroundings.successes id w r'.trace =
    p.surroundings.successes id w r.trace ++ pending

structure Adds (t : String) (done tried : List String) (r r' : Run W) : Prop where
  grows : r.cache.Grows (done ++ tried) r'.cache
  recorded : recordings r'.trace = recordings r.trace ++ done
  succeeded : ∃ l, l.Sublist done ∧ p.surroundings.successes id w r'.trace =
    p.surroundings.successes id w r.trace ++ l
  listed : ∀ u, r'.report.Lists u → r.report.Lists u ∨ u = t
  undigested : tried.length = r'.undigested.length

variable {p id w} {pending done tried : List String} {rule : Rule} {r r' r'' : Run W} {j : Job}
  {t : String}

namespace Leads

lemma still {es : List Event} (h : p.Leads id w t pending r r') (hw : r''.world = r'.world)
    (hm : r''.cache.made = r'.cache.made)
    (hl : ∀ u, r''.report.Lists u → r'.report.Lists u ∨ u = t)
    (ht : r''.trace = r'.trace ++ es) (hes : ∀ e ∈ es, e.isDeed = false) :
    p.Leads id w t pending r r'' where
  world := by rw [hw, h.world, ht, Surroundings.replay_append, Surroundings.replay_of_not_deed hes]
  made := hm.trans h.made
  listed u hu := (hl u hu).elim (h.listed u) .inr
  recorded := by rw [ht, recordings_append, recordings_of_not_deed hes, List.append_nil, h.recorded]
  succeeded := by
    rw [ht, Surroundings.successes_append, Surroundings.successes_of_not_deed _ hes,
      List.append_nil, h.succeeded]

lemma refl (h : p.Told id w [] r) (t : String) : p.Leads id w t [] r r :=
  ⟨h.world, rfl, fun _ => .inl, rfl, (List.append_nil _).symm⟩

lemma consult (h : p.Leads id w t pending r r') (hr : Consults r' r'') :
    p.Leads id w t pending r r'' := by
  obtain ⟨ns, hns⟩ := hr.told
  exact h.still hr.world hr.made (fun u => hr.report ▸ .inl) hns Event.not_deed_noticed

lemma notice (h : p.Leads id w t pending r r') (ns : List Notice) :
    p.Leads id w t pending r (r'.notice ns) :=
  h.still rfl rfl (fun _ => .inl) rfl Event.not_deed_noticed

lemma fail (h : p.Leads id w t pending r r') (e : BuildError) :
    p.Leads id w t pending r (r'.fail e) := ⟨h.world, h.made, h.listed, h.recorded, h.succeeded⟩

lemma skip (h : p.Leads id w t pending r r') : p.Leads id w t pending r (r'.skip t) := by
  refine h.still rfl rfl (fun u hu => ?_) rfl (by simp [Event.isDeed])
  rcases hu with hu | hu
  · exact .inl (.inl hu)
  · exact (List.mem_append.mp hu).imp .inr List.mem_singleton.mp

lemma give (h : p.Leads id w t [] r r')
    (hp : pending = if p.outcome r' j = .ok .success then [j.target] else []) :
    p.Leads id w t pending r
      { r'.tell [.handedOut j] with world := (p.surroundings.execute r'.world j).2 } where
  world := by
    change _ = p.surroundings.replay id w (r'.trace ++ [.handedOut j])
    rw [Surroundings.replay_append, ← h.world]
    rfl
  made := h.made
  listed := h.listed
  recorded := by
    change recordings (r'.trace ++ [.handedOut j]) = _
    rw [recordings_append, h.recorded]
    exact List.append_nil _
  succeeded := by
    change p.surroundings.successes id w (r'.trace ++ [.handedOut j]) = _
    rw [Surroundings.successes_append, h.succeeded, List.append_nil, ← h.world, hp]
    congr 1
    change (if p.outcome r' j = .ok .success then some j.target else none).toList ++ [] = _
    split <;> rfl

lemma handOut (h : p.Leads id w t [] r r')
    (hp : pending = if p.outcome r' j = .ok .success then [j.target] else []) :
    p.Leads id w t pending r (p.handOut r' j) := by
  have hb : p.Leads id w t [] r (r'.tell (p.heading j)) :=
    h.still rfl rfl (fun _ => .inl) rfl not_deed_heading
  rw [handOut_eq]
  exact (hb.give hp).still rfl rfl (fun _ => .inl) rfl Event.not_deed_printed

lemma adds (h : p.Leads id w t [] r r') (hu : r'.undigested = []) :
    p.Adds id w t [] [] r r' where
  grows := .of_made_eq h.made
  recorded := by rw [h.recorded, List.append_nil]
  succeeded := ⟨[], List.nil_sublist _, h.succeeded⟩
  listed := h.listed
  undigested := (congrArg List.length hu).symm

lemma record {listed : String → Report → Report} (h : p.Leads id w rule.target pending r r')
    (hgo : r'.failure = none) (hnew : rule.target ∉ r.cache.made)
    (hp : pending.Sublist [rule.target]) (hfile : rule.kind = .filename → pending = [])
    (hl : ∀ rep u, (listed rule.target rep).Lists u → rep.Lists u ∨ u = rule.target)
    (hr : p.Records listed rule r' r'') :
    ∃ done tried, p.Adds id w rule.target done tried r r'' := by
  have hgrows : r.cache.Grows [rule.target] (r'.cache.noteMade rule.target) :=
    (Cache.Grows.of_made_eq h.made).trans (Cache.grows_noteMade (h.made ▸ hnew))
  cases hr with
  | @digested d ns hd =>
    have hn := h.notice ns
    refine ⟨[rule.target], [], hgrows, ?_, ⟨pending, hp, ?_⟩, ?_, ?_⟩
    · change recordings ((r'.notice ns).trace ++ [.recorded rule.target (some d)]) = _
      rw [recordings_append, hn.recorded]
      rfl
    · change p.surroundings.successes id w
        ((r'.notice ns).trace ++ [.recorded rule.target (some d)]) = _
      rw [Surroundings.successes_append, hn.succeeded]
      exact List.append_nil _
    · exact fun u hu => (hl _ u hu).elim (h.listed u) .inr
    · simp [Run.undigested, hgo]
  | undigestible he =>
    -- Only a source file can be without a digest, so no recipe has gone well for it.
    obtain rfl := hfile (Outlook.filename_of_error he)
    exact ⟨[], [rule.target], hgrows, by rw [h.recorded, List.append_nil],
      ⟨[], List.Sublist.refl _, h.succeeded⟩, h.listed, rfl⟩

end Leads

lemma Makes.adds (hlead : p.Leads id w rule.target [] r r') (hgo : r'.failure = none)
    (hnew : rule.target ∉ r.cache.made) (h : p.Makes rule r' r'') :
    ∃ done tried, p.Adds id w rule.target done tried r r'' := by
  cases h with
  | refreshed _ hr =>
    refine hlead.record hgo hnew (List.nil_sublist _) (fun _ => rfl) (fun rep u hu => ?_) hr
    simp only [Report.Lists, Report.Made, List.mem_append, List.mem_singleton] at hu ⊢
    tauto
  | grouped _ _ hr =>
    refine hlead.record hgo hnew (List.nil_sublist _) (fun _ => rfl) (fun rep u hu => ?_) hr
    simp only [Report.Lists, Report.Made, List.mem_append, List.mem_singleton] at hu ⊢
    tauto
  | @executed j _ hk hj ho hr =>
    have hgiven : p.Leads id w rule.target [rule.target] r (p.handOut r' j) :=
      hlead.handOut (by rw [if_pos ho, hj.target])
    refine hgiven.record hgo hnew (List.Sublist.refl _) (fun hk' => by simp [hk] at hk')
      (fun rep u hu => ?_) hr
    simp only [Report.Lists, Report.Made, List.mem_append, List.mem_singleton] at hu ⊢
    tauto
  | @failed j code _ _ ho =>
    have hgiven : p.Leads id w rule.target [] r (p.handOut r' j) :=
      hlead.handOut (by rw [if_neg (by simp [ho])])
    exact ⟨[], [], ((hgiven.notice _).fail _).adds rfl⟩
  | @notStarted j e _ _ ho =>
    have hgiven : p.Leads id w rule.target [] r (p.handOut r' j) :=
      hlead.handOut (by rw [if_neg (by simp [ho])])
    exact ⟨[], [], (hgiven.fail _).adds rfl⟩

lemma Deals.adds (ht : p.Told id w [] r) (hgo : r.failure = none)
    (hnew : rule.target ∉ r.cache.made) (h : p.Deals rule r r') :
    ∃ done tried, p.Adds id w rule.target done tried r r' := by
  have hrefl := Leads.refl ht rule.target
  cases h with
  | missing _ _ => exact ⟨[], [], ((hrefl.notice _).fail _).adds rfl⟩
  | skipped _ =>
    have hdue := isDue_consults p r rule.target
    have hgo' : ((p.isDue r rule.target).2.skip rule.target).failure = none :=
      hdue.failure.trans hgo
    exact ⟨[], [], (hrefl.consult hdue).skip.adds (by rw [Run.undigested, hgo'])⟩
  | made _ hr hm => exact hm.adds (hrefl.consult hr) (hr.failure.trans hgo) hnew

lemma runFrom_induct {P : Run W → Prop} {goal : String} {order : List Rule} {c : Cache}
    (hord : p.rules.Ordered goal order) (hstart : P { world := w, cache := c })
    (hstep : ∀ rule ∈ order, ∀ r r' : Run W, P r → p.Treats rule r r' → P r') :
    P (p.run c w order) := by
  rw [run_eq_runAlone hord (List.append_nil order).symm]
  exact List.foldlRecOn order _ hstart fun r h rule hr =>
    hstep rule hr r _ h (bringAlone_treats (hord.found rule hr))

variable (p) in
structure Carries (c : Cache) (w : W) (tried : List String) (r : Run W) : Prop where
  told : p.Told c.buildId w [] r
  grows : c.Grows (recordings r.trace ++ tried) r.cache
  succeeded : (p.surroundings.successes c.buildId w r.trace).Sublist (recordings r.trace)
  listed : ∀ t, r.report.Lists t → t ∉ c.made
  undigested : tried.length = r.undigested.length

namespace Carries

variable {c : Cache}

lemma start (p : Plan W) (c : Cache) (w : W) : p.Carries c w [] { world := w, cache := c } where
  told := .start p c w
  grows := .of_made_eq rfl
  succeeded := List.Sublist.refl _
  listed := by simp [Report.Lists, Report.Made]
  undigested := rfl

lemma dealt (h : p.Carries c w [] r) (hf : p.rules.find? rule.target = some rule)
    (hgo : r.failure = none) (hnew : rule.target ∉ r.cache.made) (hd : p.Deals rule r r') :
    ∃ tried, p.Carries c w tried r' := by
  obtain ⟨done, tried, ha⟩ := hd.adds h.told hgo hnew
  obtain ⟨l, hl, hsucc⟩ := ha.succeeded
  refine ⟨tried, h.told.dealt_with hf hd, ?_, ?_, fun t ht => ?_, ha.undigested⟩
  · have hgrows := h.grows.trans ha.grows
    rwa [List.append_nil, ← List.append_assoc, ← ha.recorded] at hgrows
  · rw [hsucc, ha.recorded]
    exact h.succeeded.append hl
  · rcases ha.listed t ht with ht | rfl
    · exact h.listed t ht
    · rw [h.grows.made, List.mem_append, not_or] at hnew
      exact hnew.1

lemma treated {tried : List String} (h : p.Carries c w tried r)
    (hf : p.rules.find? rule.target = some rule) (ht : p.Treats rule r r') :
    ∃ tried, p.Carries c w tried r' := by
  cases ht with
  | idle _ => exact ⟨tried, h⟩
  | known _ _ =>
    have htold : p.Told c.buildId w [] (r.settle rule.target) :=
      h.told.still rfl rfl ⟨rfl, rfl, rfl⟩ (List.append_nil _).symm (by simp)
    exact ⟨tried, htold, h.grows, h.succeeded, h.listed, h.undigested⟩
  | dealt hgo hnew hd =>
    have hnone : tried = [] := by
      rw [← List.length_eq_zero_iff, h.undigested, Run.undigested, hgo]
      rfl
    exact (hnone ▸ h).dealt hf hgo hnew hd

end Carries

end Plan

namespace Workplace

variable (b : Workplace W) (c : Cache)

def cacheAfter (is : List (Invocation W)) : Cache := is.foldl (fun c i => (b.runFrom c i).cache) c

def collect {α : Type} (f : Cache → Invocation W → List α) (c : Cache) :
    List (Invocation W) → List α
  | [] => []
  | i :: is => f c i ++ collect f (b.runFrom c i).cache is

def recorded (i : Invocation W) : List String := recordings (b.runFrom c i).trace

def succeeded (i : Invocation W) : List String :=
  (b.plan i).surroundings.successes c.buildId i.world (b.runFrom c i).trace

def undigested (i : Invocation W) : List DigestError := (b.runFrom c i).undigested

variable {b c} {is : List (Invocation W)} {i : Invocation W} {t : String}

lemma order_of_refused (h : ¬ b.Accepts i) : b.order i = [] := by
  rw [Workplace.order]
  cases ho : (b.resolution i).outcome with
  | ok order => exact (h ⟨order, ho⟩).elim
  | error e => rfl

lemma carries (b : Workplace W) (c : Cache) (i : Invocation W) :
    ∃ tried, (b.plan i).Carries c i.world tried (b.runFrom c i) := by
  by_cases h : b.Accepts i
  · refine Plan.runFrom_induct (P := fun r => ∃ tried, (b.plan i).Carries c i.world tried r)
      (ordered h) ⟨[], .start _ c _⟩ fun rule hr r r' hr' ht => ?_
    obtain ⟨tried, hc⟩ := hr'
    exact hc.treated ((ordered h).found rule hr) ht
  · -- Without an order nothing happens.
    rw [runFrom, order_of_refused h]
    exact ⟨[], .start _ c _⟩

variable (b c is) in
structure Marks (news : List String) : Prop where
  grows : c.Grows news (b.cacheAfter c is)
  recorded : (b.collect b.recorded c is).Sublist news
  succeeded : (b.collect b.succeeded c is).Sublist (b.collect b.recorded c is)
  all : news.length = (b.collect b.recorded c is).length + (b.collect b.undigested c is).length

lemma marks (b : Workplace W) (c : Cache) (is : List (Invocation W)) :
    ∃ news, b.Marks c is news := by
  induction is generalizing c with
  | nil =>
    exact ⟨[], .of_made_eq rfl, List.Sublist.refl _, List.Sublist.refl _, rfl⟩
  | cons i is ih =>
    obtain ⟨tried, hi⟩ := carries b c i
    obtain ⟨news, his⟩ := ih (b.runFrom c i).cache
    refine ⟨recordings (b.runFrom c i).trace ++ tried ++ news, hi.grows.trans his.grows, ?_, ?_, ?_⟩
    · exact (List.sublist_append_left _ _).append his.recorded
    · exact hi.succeeded.append his.succeeded
    · simp only [collect, List.length_append, his.all, hi.undigested, recorded, undigested]
      omega

/-- In runs that share a cache no target is recorded twice and no recipe goes well twice, be it
forced, be it after failures, with other rules or other files. Whatever is marked as made by then is
in no list of a later report. -/
theorem made_once (b : Workplace W) (c : Cache) (is : List (Invocation W)) :
    (b.collect b.recorded c is).Nodup ∧ (b.collect b.succeeded c is).Nodup ∧
    (∃ news, b.Marks c is news) ∧
    (∀ i, (b.runFrom c i).world =
      (b.plan i).surroundings.replay c.buildId i.world (b.runFrom c i).trace) ∧
    ∀ later i, ∀ t ∈ (b.cacheAfter c is).made,
      ¬ (b.runFrom (b.cacheAfter c (is ++ later)) i).report.Lists t := by
  obtain ⟨news, hmarks⟩ := marks b c is
  have hrec := hmarks.grows.once.sublist hmarks.recorded
  refine ⟨hrec, hrec.sublist hmarks.succeeded, ⟨news, hmarks⟩, fun i => ?_,
    fun later i t ht hl => ?_⟩
  · obtain ⟨_, hi⟩ := carries b c i
    exact hi.told.world
  · obtain ⟨_, hlater⟩ := marks b (b.cacheAfter c is) later
    obtain ⟨_, hi⟩ := carries b (b.cacheAfter c (is ++ later)) i
    refine hi.listed t hl ?_
    rw [cacheAfter, List.foldl_append]
    change t ∈ (b.cacheAfter (b.cacheAfter c is) later).made
    rw [hlater.grows.made]
    exact List.mem_append_left _ ht

theorem made_once_forced :
    let i := invoke "app" { force := true } succeed (source "int" [])
    "app" ∈ (workplace.run i).cache.made ∧
      ¬ (workplace.runFrom (workplace.run i).cache i).report.Lists "app" := by
  intro i
  have h : workplace.Accepts i := Bench.accepts (.inl rfl)
  have hmade : "app" ∈ (workplace.run i).cache.made :=
    ((Bench.completed (.inl rfl)).made "app").mpr ⟨(handled_forecast h).mpr (.refl _), .inl rfl⟩
  obtain ⟨-, -, -, -, hlists⟩ := made_once workplace { buildId := workplace.buildId } [i]
  exact ⟨hmade, hlists [] i "app" hmade⟩

end Workplace
end Freshen
