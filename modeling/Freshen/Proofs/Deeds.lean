import Freshen.Proofs.Dealing

/-! What a run leaves behind: recipes carried out and digests saved are all that it does to the
world, and its trace has every one of them, in order and with what was there at the time. -/

namespace Freshen

open Bench

variable {W : Type}

namespace Event

def saved? : Event → Option (String × Digest)
  | recorded t (some d) => some (t, d)
  | recorded _ none | skipped _ | handedOut _ | printed _ | noticed _ => none

def isDeed : Event → Bool
  | handedOut _ | recorded _ _ => true
  | skipped _ | printed _ | noticed _ => false

lemma not_deed_noticed {ns : List Notice} : ∀ e ∈ ns.map noticed, e.isDeed = false := by
  intro e he
  obtain ⟨n, _, rfl⟩ := List.mem_map.mp he
  rfl

lemma not_deed_printed {ls : List OutputLine} : ∀ e ∈ ls.map printed, e.isDeed = false := by
  intro e he
  obtain ⟨l, _, rfl⟩ := List.mem_map.mp he
  rfl

end Event

def saved (es : List Event) : List (String × Digest) := es.filterMap Event.saved?

section

variable {es es' before : List Event} {a e : Event} {t : String}

lemma mem_saved : t ∈ (saved es).map (·.1) ↔ ∃ d, .recorded t (some d) ∈ es := by
  rw [saved, List.mem_map]
  constructor
  · rintro ⟨⟨_, d⟩, hd, rfl⟩
    obtain ⟨e, he, hs⟩ := List.mem_filterMap.mp hd
    cases e with
    | recorded t d' =>
      cases d' with
      | none => cases hs
      | some d' =>
        cases hs
        exact ⟨_, he⟩
    | skipped _ | handedOut _ | printed _ | noticed _ => cases hs
  · rintro ⟨d, hd⟩
    exact ⟨(t, d), List.mem_filterMap.mpr ⟨_, hd, rfl⟩, rfl⟩

lemma saved_append_of_not_deed (hes : ∀ e ∈ es', e.isDeed = false) :
    saved (es ++ es') = saved es := by
  have hnone : saved es' = [] := by
    refine List.filterMap_eq_nil_iff.mpr fun e he => ?_
    cases e with
    | recorded _ _ => cases hes _ he
    | skipped _ | handedOut _ | printed _ | noticed _ => rfl
  rw [saved, List.filterMap_append, ← saved, ← saved, hnone, List.append_nil]

lemma saved_sublist_dealt (es : List Event) : ((saved es).map (·.1)).Sublist (dealt es) := by
  induction es with
  | nil => exact .slnil
  | cons e es ih =>
    cases e with
    | recorded t d =>
      cases d with
      | none => exact ih.cons t
      | some d => exact ih.cons_cons t
    | skipped t => exact ih.cons t
    | handedOut _ | printed _ | noticed _ => exact ih

lemma prefix_append_of_notMem (ha : a ∉ es') :
    before ++ [a] <+: es ++ es' ↔ before ++ [a] <+: es := by
  induction es' generalizing es with
  | nil => rw [List.append_nil]
  | cons e es' ih =>
    obtain ⟨hne, hnot⟩ := List.ne_and_not_mem_of_not_mem_cons ha
    rw [List.append_cons es e es', ih hnot, List.prefix_concat_iff]
    exact or_iff_right fun he => hne (List.append_singleton_inj.mp he).2

lemma deed_prefix_append (ha : a.isDeed = true) (hes : ∀ e ∈ es', e.isDeed = false) :
    before ++ [a] <+: es ++ es' ↔ before ++ [a] <+: es := by
  refine prefix_append_of_notMem fun hm => ?_
  rw [hes a hm] at ha
  cases ha

lemma deed_prefix_concat :
    before ++ [a] <+: es ++ [e] ↔ before = es ∧ a = e ∨ before ++ [a] <+: es := by
  rw [List.prefix_concat_iff, List.append_singleton_inj]

end

namespace Surroundings

variable (s : Surroundings W) (id : String)

def undergo (w : W) : Event → W
  | .handedOut j => (s.execute w j).2
  | .recorded t (some d) => (s.save w id t d.hex).2
  | .recorded _ none | .skipped _ | .printed _ | .noticed _ => w

def replay (w : W) (es : List Event) : W := es.foldl (s.undergo id) w

def entered (answers : String → String → Except StoreError (Option String)) (e : String × Digest) :
    String → String → Except StoreError (Option String) :=
  fun id' t => if id' = id ∧ t = e.1 then .ok (some e.2.hex) else answers id' t

variable {s id} {w : W} {es es' : List Event}

lemma replay_append (w : W) (es es' : List Event) :
    s.replay id w (es ++ es') = s.replay id (s.replay id w es) es' := List.foldl_append

lemma replay_keeps {α : Type*} {f : W → α} (h : ∀ w, ∀ e ∈ es, f (s.undergo id w e) = f w)
    (w : W) : f (s.replay id w es) = f w := by
  induction es generalizing w with
  | nil => rfl
  | cons e es ih =>
    exact (ih (fun w b hb => h w b (List.mem_cons_of_mem _ hb)) _).trans (h w e (by simp))

lemma replay_of_not_deed (hes : ∀ e ∈ es, e.isDeed = false) : s.replay id w es = w := by
  refine replay_keeps (f := fun w => w) (fun w e he => ?_) w
  cases e with
  | handedOut _ | recorded _ _ => cases hes _ he
  | skipped _ | printed _ | noticed _ => rfl

lemma Lawful.load_save_eq (h : s.Lawful) (w : W) (t : String) (d : Digest) :
    s.load (s.save w id t d.hex).2 = entered id (s.load w) (t, d) := by
  funext id' t'
  by_cases he : id' = id ∧ t' = t
  · obtain ⟨rfl, rfl⟩ := he
    rw [entered, if_pos ⟨rfl, rfl⟩, h.load_saved]
  · rw [entered, if_neg he, h.load_save]
    simpa using he

lemma load_replay (h : s.Lawful) (hkeep : ∀ w j, s.load (s.execute w j).2 = s.load w) (w : W)
    (es : List Event) :
    s.load (s.replay id w es) = (saved es).foldl (entered id) (s.load w) := by
  induction es generalizing w with
  | nil => rfl
  | cons e es ih =>
    cases e with
    | handedOut j =>
      rw [← hkeep w j]
      exact ih _
    | recorded t d =>
      cases d with
      | none => exact ih w
      | some d =>
        change _ = (saved es).foldl (entered id) (entered id (s.load w) (t, d))
        rw [← h.load_save_eq]
        exact ih _
    | skipped _ | printed _ | noticed _ => exact ih w

lemma foldl_entered_of_notMem {answers : String → String → Except StoreError (Option String)}
    {ds : List (String × Digest)} {id' t : String} (h : id' ≠ id ∨ t ∉ ds.map (·.1)) :
    ds.foldl (entered id) answers id' t = answers id' t := by
  induction ds generalizing answers with
  | nil => rfl
  | cons d ds ih =>
    have hd : ¬ (id' = id ∧ t = d.1) := by
      rintro ⟨rfl, rfl⟩
      simp at h
    rw [List.foldl_cons, ih (h.imp_right fun hn hm => hn (List.mem_cons_of_mem _ hm)), entered,
      if_neg hd]

end Surroundings

def Report.Made (rep : Report) (t : String) : Prop :=
  t ∈ rep.executed ∨ t ∈ rep.refreshed ∨ t ∈ rep.grouped

namespace Plan

variable (p : Plan W) (id : String) (w : W)

/-- A job for the target was handed out and went well. -/
def Succeeds (trace : List Event) (t : String) : Prop :=
  ∃ before j, before ++ [.handedOut j] <+: trace ∧ j.target = t ∧
    (p.surroundings.execute (p.surroundings.replay id w before) j).1.outcome = .ok .success

/-- What has become of the world since the start is what the trace tells. A target whose recipe has
gone well is `pending` until it is recorded. -/
structure Told (pending : List String) (r : Run W) : Prop where
  buildId : r.cache.buildId = id
  world : r.world = p.surroundings.replay id w r.trace
  digested : ∀ before t d, before ++ [.recorded t d] <+: r.trace → ∃ d', d = some d' ∧
    Outlook.digestOf (p.surroundings.sources p.root (p.surroundings.replay id w before))
      (p.rules.ruleFor t) = .ok d'
  made : ∀ t, (∃ d, .recorded t d ∈ r.trace) ↔ r.report.Made t
  executed : ∀ t, p.Succeeds id w r.trace t ↔ t ∈ r.report.executed ∨ t ∈ pending

variable {p id w} {pending : List String} {r r' : Run W} {es : List Event} {t : String}
  {rule : Rule} {j : Job}

lemma not_deed_heading : ∀ e ∈ p.heading j, e.isDeed = false := by
  intro e he
  unfold heading at he
  split at he
  · cases he
  · rw [List.mem_singleton.mp he]
    rfl

namespace Told

lemma start (p : Plan W) (c : Cache) (w : W) :
    p.Told c.buildId w [] { world := w, cache := c } where
  buildId := rfl
  world := rfl
  digested before t d h := by simp at h
  made := by simp [Report.Made]
  executed := by simp [Succeeds]

lemma still (h : p.Told id w pending r) (hid : r'.cache.buildId = r.cache.buildId)
    (hw : r'.world = r.world) (hrep : r'.report.executed = r.report.executed ∧
      r'.report.refreshed = r.report.refreshed ∧ r'.report.grouped = r.report.grouped)
    (ht : r'.trace = r.trace ++ es) (hes : ∀ e ∈ es, e.isDeed = false) :
    p.Told id w pending r' := by
  obtain ⟨hex, href, hgr⟩ := hrep
  refine ⟨hid.trans h.buildId, ?_, ?_, fun t => ?_, fun t => ?_⟩
  · rw [hw, ht, Surroundings.replay_append, Surroundings.replay_of_not_deed hes, h.world]
  · intro before t d hb
    rw [ht, deed_prefix_append rfl hes] at hb
    exact h.digested before t d hb
  · rw [Report.Made, hex, href, hgr, ← Report.Made, ← h.made, ht]
    refine exists_congr fun d => ?_
    rw [List.mem_append]
    refine or_iff_left fun hd => ?_
    cases hes _ hd
  · rw [hex, ← h.executed, ht, Succeeds, Succeeds]
    refine exists_congr fun before => exists_congr fun j => and_congr_left fun _ => ?_
    exact deed_prefix_append rfl hes

lemma consult (h : p.Told id w pending r) (hr : Consults r r') : p.Told id w pending r' := by
  obtain ⟨ns, hns⟩ := hr.told
  exact h.still hr.buildId hr.world (by simp [hr.report]) hns Event.not_deed_noticed

lemma fail (h : p.Told id w pending r) (e : BuildError) : p.Told id w pending (r.fail e) :=
  h.still rfl rfl ⟨rfl, rfl, rfl⟩ (List.append_nil _).symm (by simp)

lemma notice (h : p.Told id w pending r) (ns : List Notice) : p.Told id w pending (r.notice ns) :=
  h.still rfl rfl ⟨rfl, rfl, rfl⟩ rfl Event.not_deed_noticed

lemma skip (h : p.Told id w pending r) (t : String) : p.Told id w pending (r.skip t) :=
  h.still rfl rfl ⟨rfl, rfl, rfl⟩ rfl (by simp [Event.isDeed])

lemma give (h : p.Told id w [] r)
    (hp : ∀ t, t ∈ pending ↔ t = j.target ∧ p.outcome r j = .ok .success) :
    p.Told id w pending
      { r.tell [.handedOut j] with world := (p.surroundings.execute r.world j).2 } := by
  refine ⟨h.buildId, ?_, ?_, fun t => ?_, fun t => ?_⟩
  · change _ = p.surroundings.replay id w (r.trace ++ [.handedOut j])
    rw [Surroundings.replay_append, ← h.world]
    rfl
  · intro before t d hpre
    rcases deed_prefix_concat.mp hpre with ⟨_, he⟩ | hpre
    · cases he
    · exact h.digested before t d hpre
  · change (∃ d, _ ∈ r.trace ++ [.handedOut j]) ↔ _
    simp only [List.mem_append, List.mem_singleton, reduceCtorEq, or_false]
    exact h.made t
  · have hold : p.Succeeds id w r.trace t ↔ t ∈ r.report.executed := by
      rw [h.executed, or_iff_left List.not_mem_nil]
    change p.Succeeds id w (r.trace ++ [.handedOut j]) t ↔ t ∈ r.report.executed ∨ _
    rw [← hold, hp]
    constructor
    · rintro ⟨before, k, hpre, hk, ho⟩
      rcases deed_prefix_concat.mp hpre with ⟨rfl, he⟩ | hpre
      · obtain rfl := Event.handedOut.inj he
        rw [← h.world] at ho
        exact .inr ⟨hk.symm, ho⟩
      · exact .inl ⟨before, k, hpre, hk, ho⟩
    · rintro (⟨before, k, hpre, hk, ho⟩ | ⟨rfl, ho⟩)
      · exact ⟨before, k, deed_prefix_concat.mpr (.inr hpre), hk, ho⟩
      · refine ⟨_, j, List.prefix_rfl, rfl, ?_⟩
        rw [← h.world]
        exact ho

lemma handOut (h : p.Told id w [] r)
    (hp : ∀ t, t ∈ pending ↔ t = j.target ∧ p.outcome r j = .ok .success) :
    p.Told id w pending (p.handOut r j) := by
  have hb : p.Told id w [] (r.tell (p.heading j)) :=
    h.still rfl rfl ⟨rfl, rfl, rfl⟩ rfl not_deed_heading
  rw [handOut_eq]
  exact (hb.give hp).still rfl rfl ⟨rfl, rfl, rfl⟩ rfl Event.not_deed_printed

lemma records {listed : String → Report → Report} (h : p.Told id w pending r)
    (hf : p.rules.find? rule.target = some rule) (hp : rule.kind = .filename → pending = [])
    (hmade : ∀ t, (listed rule.target r.report).Made t ↔ r.report.Made t ∨ t = rule.target)
    (hexec : ∀ t, t ∈ (listed rule.target r.report).executed ↔
      t ∈ r.report.executed ∨ t ∈ pending)
    (hr : p.Records listed rule r r') : p.Told id w [] r' := by
  cases hr with
  | undigestible he =>
    obtain rfl := hp (Outlook.filename_of_error he)
    exact h.still rfl rfl ⟨rfl, rfl, rfl⟩ (List.append_nil _).symm (by simp)
  | @digested d ns hd =>
    have hn : p.Told id w pending (r.notice ns) := h.notice ns
    refine ⟨hn.buildId, ?_, ?_, fun t => ?_, fun t => ?_⟩
    · change _ = p.surroundings.replay id w
        ((r.notice ns).trace ++ [.recorded rule.target (some d)])
      rw [Surroundings.replay_append, ← hn.world]
      change (p.surroundings.save r.world r.cache.buildId rule.target d.hex).2 = _
      rw [h.buildId]
      rfl
    · intro before t d' hpre
      rcases deed_prefix_concat.mp hpre with ⟨rfl, he⟩ | hpre
      · obtain ⟨rfl, rfl⟩ := Event.recorded.inj he
        refine ⟨d, rfl, ?_⟩
        change Outlook.digestOf (p.surroundings.sources p.root
          (p.surroundings.replay id w (r.notice ns).trace)) _ = _
        rw [← hn.world, RuleStore.ruleFor_of_find? hf]
        exact hd
      · exact hn.digested before t d' hpre
    · have hold : (∃ d, .recorded t d ∈ (r.notice ns).trace) ↔ r.report.Made t := hn.made t
      change (∃ d', _ ∈ (r.notice ns).trace ++ [.recorded rule.target (some d)]) ↔ _
      rw [hmade, ← hold]
      simp only [List.mem_append, List.mem_singleton, Event.recorded.injEq, exists_or]
      exact or_congr_right ⟨fun ⟨_, ht, _⟩ => ht, fun ht => ⟨_, ht, rfl⟩⟩
    · have hold : p.Succeeds id w (r.notice ns).trace t ↔ t ∈ r.report.executed ∨ t ∈ pending :=
        hn.executed t
      change p.Succeeds id w ((r.notice ns).trace ++ [.recorded rule.target (some d)]) t ↔
        t ∈ (listed rule.target r.report).executed ∨ t ∈ []
      rw [or_iff_left List.not_mem_nil, hexec, ← hold]
      refine exists_congr fun before => exists_congr fun j => and_congr_left fun _ => ?_
      rw [deed_prefix_concat, or_iff_right (by simp)]

lemma made_by (h : p.Told id w [] r) (hf : p.rules.find? rule.target = some rule)
    (hr : p.Makes rule r r') : p.Told id w [] r' := by
  cases hr with
  | refreshed hk hrec =>
    refine h.records hf (fun _ => rfl) (fun t => ?_) (fun t => ?_) hrec
    · simp only [Report.Made, List.mem_append, List.mem_singleton]
      tauto
    · rw [or_iff_left List.not_mem_nil]
  | grouped hk _ hrec =>
    refine h.records hf (fun _ => rfl) (fun t => ?_) (fun t => ?_) hrec
    · simp only [Report.Made, List.mem_append, List.mem_singleton]
      tauto
    · rw [or_iff_left List.not_mem_nil]
  | @executed j _ hk hj ho hrec =>
    have hgiven : p.Told id w [rule.target] (p.handOut r j) :=
      h.handOut fun t => by rw [List.mem_singleton, hj.target, and_iff_left ho]
    refine hgiven.records hf (fun hk' => by simp [hk] at hk') (fun t => ?_) (fun t => ?_) hrec
    · simp only [Report.Made, List.mem_append, List.mem_singleton]
      tauto
    · rw [List.mem_append]
  | @failed j code _ _ ho =>
    have hgiven : p.Told id w [] (p.handOut r j) := h.handOut fun t => by simp [ho]
    exact (hgiven.notice _).fail _
  | @notStarted j e _ _ ho =>
    have hgiven : p.Told id w [] (p.handOut r j) := h.handOut fun t => by simp [ho]
    exact hgiven.fail _

lemma dealt_with (h : p.Told id w [] r) (hf : p.rules.find? rule.target = some rule)
    (hr : p.Deals rule r r') : p.Told id w [] r' := by
  cases hr with
  | missing _ _ => exact (h.notice _).fail _
  | skipped _ => exact (h.consult (isDue_consults p r rule.target)).skip _
  | made _ hr hm => exact (h.consult hr).made_by hf hm

lemma mem_saved (h : p.Told id w pending r) :
    t ∈ (saved r.trace).map (·.1) ↔ ∃ d, .recorded t d ∈ r.trace := by
  rw [Freshen.mem_saved]
  constructor
  · rintro ⟨d, hd⟩
    exact ⟨_, hd⟩
  · rintro ⟨d, hd⟩
    obtain ⟨before, later, he⟩ := List.append_of_mem hd
    obtain ⟨d', rfl, _⟩ := h.digested before t d ⟨later, by simp [he]⟩
    exact ⟨d', hd⟩

end Told

end Plan

namespace Workplace

variable {b : Workplace W} {i : Invocation W}

def KeepsDigests (b : Workplace W) (i : Invocation W) : Prop :=
  ∀ w j, b.surroundings.load (i.execute w j).2 = b.surroundings.load w

def replay (b : Workplace W) (i : Invocation W) (es : List Event) : W :=
  (b.plan i).surroundings.replay b.buildId i.world es

lemma told (h : b.Accepts i) : (b.plan i).Told b.buildId i.world [] (b.run i) :=
  Plan.run_induct (ordered h) (.start _ { buildId := b.buildId } _) fun rule hr _ _ _ ht hd =>
    ht.dealt_with ((ordered h).found rule hr) hd

lemma run_reached (h : b.Accepts i) : ∃ done rest, b.order i = done ++ rest ∧
    dealt (b.run i).trace = targets done ∧ ∀ err, (b.run i).result = .error err →
      ∃ rule rest', rest = rule :: rest' ∧ ∀ t, err.target? = some t → rule.target = t := by
  rcases Plan.advances_run (b.plan i) b.buildId i.world (ordered h) with
    ⟨done, he, hc⟩ | ⟨done, rule, rest, extra, err, he, hend⟩
  · refine ⟨b.order i, [], (List.append_nil _).symm, he ▸ hc.journal.dealt, fun err herr => ?_⟩
    cases hc.going.symm.trans (Run.result_eq_error.mp herr)
  · refine ⟨_, rule :: rest, he, hend.journal.dealt, fun err' herr => ⟨rule, rest, rfl, ?_⟩⟩
    obtain rfl := Option.some.inj (hend.failure.symm.trans (Run.result_eq_error.mp herr))
    intro t ht
    cases hend.cause with
    | missing _ _ | failed _ _ _ _ => exact Option.some.inj ht
    | undigestible _ _ | notStarted _ _ _ _ => cases ht

lemma load_run (h : b.Accepts i) (hl : b.surroundings.Lawful) (hkeep : b.KeepsDigests i) :
    b.surroundings.load (b.run i).world = (saved (b.run i).trace).foldl
      (Surroundings.entered b.buildId) (b.surroundings.load i.world) := by
  rw [(told h).world]
  exact Surroundings.load_replay (lawful hl i) hkeep i.world (b.run i).trace

lemma mem_saved_run (h : b.Accepts i) {t : String} :
    t ∈ (saved (b.run i).trace).map (·.1) ↔ ∃ d, .recorded t d ∈ (b.run i).trace :=
  (told h).mem_saved

/-- Whatever recipes do to files, a run leaves the digest store with just the entries set anew that
it has recorded, each to the digest at the time. From where it fails on nothing has changed. -/
theorem stored_after_run (h : b.Accepts i) (hl : b.surroundings.Lawful)
    (hkeep : b.KeepsDigests i) :
    (b.run i).world = b.replay i (b.run i).trace ∧
    b.surroundings.load (b.run i).world = (saved (b.run i).trace).foldl
      (Surroundings.entered b.buildId) (b.surroundings.load i.world) ∧
    (∀ before t d later, (b.run i).trace = before ++ .recorded t d :: later →
      ∃ d', d = some d' ∧ b.digest i.rules (b.replay i before) t = .ok d') ∧
    ((saved (b.run i).trace).map (·.1)).Sublist (targets (b.order i)) ∧
    (∀ t, t ∈ (saved (b.run i).trace).map (·.1) ↔ (b.run i).report.Made t) ∧
    (∀ t, t ∈ (b.run i).report.executed ↔
      (b.plan i).Succeeds b.buildId i.world (b.run i).trace t) ∧
    (∀ err, (b.run i).result = .error err → ∃ done rule rest, b.order i = done ++ rule :: rest ∧
      (∀ t, err.target? = some t → rule.target = t) ∧
      ∀ t ∈ targets (rule :: rest), b.stored (b.run i).world t = b.stored i.world t) ∧
    ∀ id t, id ≠ b.buildId ∨ t ∉ targets (b.order i) →
      b.surroundings.load (b.run i).world id t = b.surroundings.load i.world id t := by
  have htold := told h
  have hload := load_run h hl hkeep
  obtain ⟨done, rest, he, hdealt, hfail⟩ := run_reached h
  have hsub : ((saved (b.run i).trace).map (·.1)).Sublist (targets done) :=
    hdealt ▸ saved_sublist_dealt _
  have horder : targets (b.order i) = targets done ++ targets rest := by
    rw [he, targets, List.map_append]
  refine ⟨htold.world, hload, ?_, ?_, fun t => ?_, fun t => ?_, ?_, ?_⟩
  · intro before t d later ht
    obtain ⟨d', hd, hdig⟩ := htold.digested before t d ⟨later, by simp [ht]⟩
    rw [plan_ruleFor] at hdig
    exact ⟨d', hd, hdig⟩
  · exact hsub.trans (horder ▸ List.sublist_append_left _ _)
  · rw [mem_saved_run h, htold.made]
  · rw [htold.executed, or_iff_left List.not_mem_nil]
  · intro err herr
    obtain ⟨rule, rest', rfl, htarget⟩ := hfail err herr
    refine ⟨done, rule, rest', he, htarget, fun t ht => ?_⟩
    have hnew : t ∉ targets done := by
      have hn := (ordered h).topological.nodup
      rw [horder] at hn
      exact fun hd => (List.nodup_append.mp hn).2.2 t hd t ht rfl
    rw [stored, hload, Surroundings.foldl_entered_of_notMem (.inr fun hm => hnew (hsub.subset hm))]
    rfl
  · intro id t hout
    rw [hload, Surroundings.foldl_entered_of_notMem]
    refine hout.imp_right fun hn hm => hn ?_
    rw [horder]
    exact List.mem_append_left _ (hsub.subset hm)

theorem stored_after_run_failing :
    (workplace.run (invoke "app" {} fail (source "int" []))).result =
      .error (.recipeFailed "app" 1) ∧
    workplace.stored (workplace.run (invoke "app" {} fail (source "int" []))).world "app" =
      .ok none := by
  have hfail : (workplace.run (invoke "app" {} fail (source "int" []))).result =
      .error (.recipeFailed "app" 1) := Run.result_eq_error.mpr (compile_fails rfl)
  have ha : workplace.Accepts (invoke "app" {} fail (source "int" [])) := accepts (.inl rfl)
  obtain ⟨_, _, _, _, _, _, hend, _⟩ := stored_after_run ha Bench.lawful fun _ _ => rfl
  obtain ⟨_, rule, rest, _, htarget, hkept⟩ := hend _ hfail
  refine ⟨hfail, hkept "app" ?_⟩
  rw [← htarget "app" rfl]
  exact List.mem_cons_self ..

end Workplace
end Freshen
