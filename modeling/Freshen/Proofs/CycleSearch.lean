import Freshen.Description.CycleLint
import Mathlib.Logic.Relation
import Mathlib.Tactic

/-! Where the search for a described cycle ends. A name that is finished leads on only to names
finished before it and to names that lead back to it. So the second pass, which begins with the last
finished, gets from one name to another just if there is a cycle, and then the other is on one. -/

namespace Freshen.Description.Graph

open Relation

variable {g : Graph} {left finished stack rest names : List String} {a b c m n t : String}
  {rules : List RuleEntry} {r : RuleEntry}

def Edge (g : Graph) (a b : String) : Prop := (a, b) ∈ g.edges

def OnCycle (g : Graph) (n : String) : Prop := TransGen g.Edge n n

lemma mem_successors : b ∈ g.successors a ↔ g.Edge a b := by
  simp [successors, Edge]

lemma mem_predecessors : a ∈ g.predecessors b ↔ g.Edge a b := by
  simp [predecessors, Edge]

structure Proper (g : Graph) : Prop where
  nodup : g.nodes.Nodup
  ends : ∀ a b, g.Edge a b → a ∈ g.nodes ∧ b ∈ g.nodes

lemma mem_addNode : a ∈ (g.addNode n).nodes ↔ a ∈ g.nodes ∨ a = n := by
  unfold addNode
  split
  · next hn =>
    constructor
    · exact .inl
    · rintro (ha | rfl)
      · exact ha
      · exact hn
  · simp

lemma edge_addNode : (g.addNode n).Edge a b ↔ g.Edge a b := by
  unfold addNode
  split <;> rfl

lemma Proper.addNode (h : g.Proper) (n : String) : (g.addNode n).Proper where
  nodup := by
    unfold Graph.addNode
    split
    · exact h.nodup
    · next hn => simpa [List.nodup_append, h.nodup] using fun a ha (he : a = n) => hn (he ▸ ha)
  ends a b hab := by
    obtain ⟨ha, hb⟩ := h.ends a b (edge_addNode.mp hab)
    exact ⟨mem_addNode.mpr (.inl ha), mem_addNode.mpr (.inl hb)⟩

lemma edge_addEdge : (g.addEdge m n).Edge a b ↔ g.Edge a b ∨ a = m ∧ b = n := by
  have hold : ((g.addNode m).addNode n).Edge a b ↔ g.Edge a b := by
    rw [edge_addNode, edge_addNode]
  unfold addEdge
  dsimp only
  split
  · next hmn =>
    rw [hold]
    constructor
    · exact .inl
    · rintro (hab | ⟨rfl, rfl⟩)
      · exact hab
      · exact hold.mp hmn
  · rw [← hold]
    simp [Edge]

lemma Proper.addEdge (h : g.Proper) (m n : String) : (g.addEdge m n).Proper := by
  have hnodes : ∀ a, a ∈ (g.addEdge m n).nodes ↔ a ∈ ((g.addNode m).addNode n).nodes := by
    intro a
    unfold Graph.addEdge
    dsimp only
    split <;> rfl
  refine ⟨?_, ?_⟩
  · have hn := ((h.addNode m).addNode n).nodup
    unfold Graph.addEdge
    dsimp only
    split <;> exact hn
  · intro a b hab
    simp only [hnodes, mem_addNode]
    rcases edge_addEdge.mp hab with hab | ⟨rfl, rfl⟩
    · obtain ⟨ha, hb⟩ := h.ends a b hab
      exact ⟨.inl (.inl ha), .inl (.inl hb)⟩
    · exact ⟨.inl (.inr rfl), .inr rfl⟩

lemma foldl_addEdge (h : g.Proper) (t : String) (ds : List String) :
    (ds.foldl (fun g d => g.addEdge d t) g).Proper ∧ ∀ a b,
      (ds.foldl (fun g d => g.addEdge d t) g).Edge a b ↔ g.Edge a b ∨ b = t ∧ a ∈ ds := by
  induction ds generalizing g with
  | nil => simp [h]
  | cons d ds ih =>
    obtain ⟨hp, he⟩ := ih (h.addEdge d t)
    refine ⟨hp, fun a b => ?_⟩
    rw [List.foldl_cons, he, edge_addEdge, List.mem_cons]
    tauto

lemma foldl_addRule (h : g.Proper) (rules : List RuleEntry) :
    (rules.foldl addRule g).Proper ∧ ∀ a b,
      (rules.foldl addRule g).Edge a b ↔ g.Edge a b ∨ ∃ r ∈ rules, r.target = b ∧ a ∈ r.deps := by
  induction rules generalizing g with
  | nil => simp [h]
  | cons r rules ih =>
    obtain ⟨hr, he⟩ := foldl_addEdge (h.addNode r.target) r.target r.deps
    obtain ⟨hp, hes⟩ := ih hr
    refine ⟨hp, fun a b => ?_⟩
    rw [List.foldl_cons]
    refine (hes a b).trans ?_
    rw [he, edge_addNode, List.exists_mem_cons_iff, or_assoc, eq_comm]

lemma proper_ofRules (rules : List RuleEntry) : (ofRules rules).Proper :=
  (foldl_addRule ⟨List.nodup_nil, fun _ _ h => (List.not_mem_nil h).elim⟩ rules).1

lemma edge_ofRules : (ofRules rules).Edge a b ↔ ∃ r ∈ rules, r.target = b ∧ a ∈ r.deps := by
  rw [ofRules, (foldl_addRule ⟨List.nodup_nil, fun _ _ h => (List.not_mem_nil h).elim⟩ rules).2]
  simp [Edge]

def Settled (g : Graph) (finished : List String) : Prop :=
  ∀ later n before, finished = later ++ n :: before →
    ∀ m, g.Edge n m → m ∈ before ∨ TransGen g.Edge m n

/-- What holds all through the first pass. A name that has been discovered and is not finished
leads to everything above it on the stack. -/
structure Searching (g : Graph) (left finished stack : List String) : Prop where
  left_nodup : left.Nodup
  nodup : finished.Nodup
  notMem_left : ∀ n ∈ finished, n ∉ left
  waiting : ∀ n ∈ g.nodes, n ∉ left → n ∉ finished → n ∈ stack
  above : ∀ top n below, stack = top ++ n :: below → n ∉ top → n ∉ left → n ∉ finished →
    (∀ m ∈ top, TransGen g.Edge n m) ∧ ∀ m ∈ left, g.Edge n m → m ∈ top
  settled : g.Settled finished
  loopless : ∀ n ∈ g.nodes, n ∉ left → ¬ g.Edge n n

namespace Searching

lemma start (g : Graph) (h : g.Proper) : g.Searching g.nodes [] [] where
  left_nodup := h.nodup
  nodup := List.nodup_nil
  notMem_left := by simp
  waiting n hn hl := (hl hn).elim
  above := by simp
  settled := by simp [Settled]
  loopless n hn hl := (hl hn).elim

lemma push (h : g.Searching left finished []) (hn : n ∈ left) : g.Searching left finished [n] where
  left_nodup := h.left_nodup
  nodup := h.nodup
  notMem_left := h.notMem_left
  waiting m hm hl hf := (List.not_mem_nil (h.waiting m hm hl hf)).elim
  above top m below he _ hl _ := by
    obtain ⟨rfl, rfl, rfl⟩ : top = [] ∧ n = m ∧ [] = below := by
      cases top <;> simp_all
    exact (hl hn).elim
  settled := h.settled
  loopless := h.loopless

lemma discover (h : g.Searching left finished (n :: rest)) (hloop : ¬ g.Edge n n) :
    g.Searching (left.erase n) finished
      (((g.successors n).filter (· ∈ left.erase n)).reverse ++ n :: rest) := by
  set new := ((g.successors n).filter (· ∈ left.erase n)).reverse with hnew
  have hmem : ∀ m, m ∈ new ↔ g.Edge n m ∧ m ∈ left.erase n := by
    simp [hnew, mem_successors]
  have hleft : ∀ m, m ∈ left.erase n ↔ m ≠ n ∧ m ∈ left := fun m => h.left_nodup.mem_erase_iff
  refine ⟨h.left_nodup.erase n, h.nodup, ?_, ?_, ?_, h.settled, ?_⟩
  · intro m hm hl
    exact h.notMem_left m hm ((hleft m).mp hl).2
  · intro m hm hl hf
    by_cases he : m = n
    · simp [he]
    · have hl' : m ∉ left := fun hm' => hl ((hleft m).mpr ⟨he, hm'⟩)
      exact List.mem_append_right _ (h.waiting m hm hl' hf)
  · intro top m below he hover hl hf
    have hold : m ∉ new := fun hm => hl ((hmem m).mp hm).2
    obtain ⟨top, rfl, he⟩ : ∃ o, top = new ++ o ∧ n :: rest = o ++ m :: below := by
      rcases List.append_eq_append_iff.mp he with ⟨o, ho, he⟩ | ⟨o, ho, he⟩
      · exact ⟨o, ho, he⟩
      · cases o with
        | nil => exact ⟨[], by simpa using ho.symm, by simpa using he.symm⟩
        | cons x o =>
          obtain rfl : m = x := by simpa using congrArg List.head? he
          exact (hold (by simp [ho])).elim
    cases top with
    | nil =>
      obtain ⟨rfl, rfl⟩ : n = m ∧ rest = below := by simpa using he
      refine ⟨fun m hm => .single ((hmem m).mp (by simpa using hm)).1, fun m hm hnm => ?_⟩
      simpa using (hmem m).mpr ⟨hnm, hm⟩
    | cons x top =>
      obtain ⟨rfl, rfl⟩ : n = x ∧ rest = top ++ m :: below := by simpa using he
      have hm : m ∉ n :: top := fun hm => hover (List.mem_append_right _ hm)
      have hmn : m ≠ n := fun he => hm (he ▸ List.mem_cons_self)
      have hl' : m ∉ left := fun hm' => hl ((hleft m).mpr ⟨hmn, hm'⟩)
      obtain ⟨hreach, hnext⟩ := h.above (n :: top) m below rfl hm hl' hf
      refine ⟨fun k hk => ?_, fun k hk hmk => ?_⟩
      · rcases List.mem_append.mp hk with hk | hk
        · exact (hreach n List.mem_cons_self).tail ((hmem k).mp hk).1
        · exact hreach k hk
      · exact List.mem_append_right _ (hnext k ((hleft k).mp hk).2 hmk)
  · intro m hm hl
    by_cases he : m = n
    · exact he ▸ hloop
    · exact h.loopless m hm fun hm' => hl ((hleft m).mpr ⟨he, hm'⟩)

lemma settle (hg : g.Proper) (h : g.Searching left finished (n :: rest)) (hl : n ∉ left)
    (hf : n ∉ finished) : g.Settled (n :: finished) := by
  intro later k before he m hkm
  cases later with
  | cons x later =>
    obtain ⟨-, rfl⟩ : n = x ∧ finished = later ++ k :: before := by simpa using he
    exact h.settled later k before rfl m hkm
  | nil =>
    obtain ⟨rfl, rfl⟩ : n = k ∧ finished = before := by simpa using he
    have hnext := (h.above [] n rest rfl List.not_mem_nil hl hf).2
    have hml : m ∉ left := fun hm => List.not_mem_nil (hnext m hm hkm)
    by_cases hmf : m ∈ finished
    · exact .inl hmf
    -- A name that is neither left nor finished stands below `n` on the stack.
    obtain ⟨top, below, hs, hnew⟩ :=
      List.eq_append_cons_of_mem (h.waiting m (hg.ends n m hkm).2 hml hmf)
    cases top with
    | nil =>
      obtain ⟨rfl, -⟩ : n = m ∧ rest = below := by simpa using hs
      exact .inr (.single hkm)
    | cons x top =>
      obtain ⟨rfl, -⟩ : n = x ∧ rest = top ++ m :: below := by simpa using hs
      exact .inr ((h.above _ m below hs hnew hml hmf).1 n List.mem_cons_self)

lemma pop (hg : g.Proper) (h : g.Searching left finished (n :: rest)) (hl : n ∉ left) :
    g.Searching left (if n ∈ finished then finished else n :: finished) rest := by
  have hmem : ∀ m, m ∈ (if n ∈ finished then finished else n :: finished) ↔
      m = n ∨ m ∈ finished := by
    intro m
    split
    · next hn => exact ⟨.inr, fun hm => hm.elim (fun he => he ▸ hn) id⟩
    · exact List.mem_cons
  refine ⟨h.left_nodup, ?_, ?_, ?_, ?_, ?_, h.loopless⟩
  · split
    · exact h.nodup
    · next hn => exact List.nodup_cons.mpr ⟨hn, h.nodup⟩
  · intro m hm
    rcases (hmem m).mp hm with rfl | hm
    · exact hl
    · exact h.notMem_left m hm
  · intro m hm hml hmf
    rw [hmem, not_or] at hmf
    exact (List.mem_cons.mp (h.waiting m hm hml hmf.2)).resolve_left hmf.1
  · intro top m below he hover hml hmf
    rw [hmem, not_or] at hmf
    have hm : m ∉ n :: top := List.not_mem_cons_of_ne_of_not_mem hmf.1 hover
    obtain ⟨hreach, hnext⟩ := h.above (n :: top) m below (by rw [he, List.cons_append]) hm hml hmf.2
    refine ⟨fun k hk => hreach k (List.mem_cons_of_mem n hk), fun k hk hmk => ?_⟩
    rcases List.mem_cons.mp (hnext k hk hmk) with rfl | hk'
    · exact (hl hk).elim
    · exact hk'
  · split
    · exact h.settled
    · next hn => exact h.settle hg hl hn

end Searching

lemma finish_searching (hg : g.Proper) (h : g.Searching left finished stack) :
    (∀ c, g.finish left finished stack = .error c → g.Edge c c) ∧
    ∀ left' finished', g.finish left finished stack = .ok (left', finished') →
      g.Searching left' finished' [] ∧ ∀ n ∈ left', n ∈ left ∧ n ∉ stack := by
  induction left, finished, stack using finish.induct g with
  | case1 left finished =>
    rw [finish]
    refine ⟨by simp, ?_⟩
    rintro left' finished' he
    cases he
    exact ⟨h, fun n hn => ⟨hn, List.not_mem_nil⟩⟩
  | case2 left finished n rest hn hloop =>
    rw [finish, dif_pos hn, if_pos hloop]
    refine ⟨?_, by simp⟩
    rintro c he
    cases he
    exact mem_successors.mp hloop
  | case3 left finished n rest hn hloop left₁ ih =>
    rw [finish, dif_pos hn, if_neg hloop]
    obtain ⟨herr, hok⟩ := ih (h.discover fun he => hloop (mem_successors.mpr he))
    refine ⟨herr, fun left' finished' he => ?_⟩
    obtain ⟨hs, hl⟩ := hok left' finished' he
    refine ⟨hs, fun m hm => ?_⟩
    obtain ⟨hm₁, hm₂⟩ := hl m hm
    exact ⟨List.mem_of_mem_erase hm₁, fun hms => hm₂ (List.mem_append_right _ hms)⟩
  | case4 left finished n rest hn ih =>
    rw [finish, dif_neg hn]
    obtain ⟨herr, hok⟩ := ih (h.pop hg hn)
    refine ⟨herr, fun left' finished' he => ?_⟩
    obtain ⟨hs, hl⟩ := hok left' finished' he
    refine ⟨hs, fun m hm => ⟨(hl m hm).1, fun hms => ?_⟩⟩
    rcases List.mem_cons.mp hms with rfl | hms
    · exact hn (hl m hm).1
    · exact (hl m hm).2 hms

lemma finishAll_searching (hg : g.Proper) (h : g.Searching left finished []) :
    (∀ c, g.finishAll left finished names = .error c → g.Edge c c) ∧
    ∀ finished', g.finishAll left finished names = .ok finished' →
      ∃ left', g.Searching left' finished' [] ∧ ∀ n ∈ left', n ∈ left ∧ n ∉ names := by
  induction names generalizing left finished with
  | nil =>
    refine ⟨by simp [finishAll], ?_⟩
    rintro finished' he
    cases he
    exact ⟨left, h, fun n hn => ⟨hn, List.not_mem_nil⟩⟩
  | cons n names ih =>
    by_cases hn : n ∈ left
    · rw [finishAll, if_pos hn]
      obtain ⟨herr, hok⟩ := finish_searching hg (h.push hn)
      cases hf : g.finish left finished [n] with
      | error c =>
        refine ⟨?_, by simp⟩
        rintro c' he
        cases he
        exact herr c hf
      | ok next =>
        obtain ⟨hs, hl⟩ := hok next.1 next.2 hf
        obtain ⟨herr', hok'⟩ := ih hs
        refine ⟨herr', fun finished' he => ?_⟩
        obtain ⟨left', hs', hl'⟩ := hok' finished' he
        refine ⟨left', hs', fun m hm => ?_⟩
        obtain ⟨hm₁, hm₂⟩ := hl' m hm
        obtain ⟨hm₃, hm₄⟩ := hl m hm₁
        exact ⟨hm₃, List.not_mem_cons_of_ne_of_not_mem (by simpa using hm₄) hm₂⟩
    · rw [finishAll, if_neg hn]
      obtain ⟨herr, hok⟩ := ih h
      refine ⟨herr, fun finished' he => ?_⟩
      obtain ⟨left', hs, hl⟩ := hok finished' he
      refine ⟨left', hs, fun m hm => ⟨(hl m hm).1, ?_⟩⟩
      exact List.not_mem_cons_of_ne_of_not_mem (fun he => hn (he ▸ (hl m hm).1)) (hl m hm).2

structure Finished (g : Graph) (finished : List String) : Prop where
  nodup : finished.Nodup
  mem : ∀ n ∈ g.nodes, n ∈ finished
  settled : g.Settled finished
  loopless : ∀ n, ¬ g.Edge n n

lemma finished_of_finishAll (hg : g.Proper) (h : g.finishAll g.nodes [] g.nodes = .ok finished) :
    g.Finished finished := by
  obtain ⟨left, hs, hl⟩ := (finishAll_searching hg (.start g hg)).2 finished h
  have hnone : ∀ n ∈ g.nodes, n ∉ left := fun n hn hn' => (hl n hn').2 hn
  refine ⟨hs.nodup, fun n hn => ?_, hs.settled, fun n hn => ?_⟩
  · by_contra hf
    exact List.not_mem_nil (hs.waiting n hn (hnone n hn) hf)
  · have hmem := (hg.ends n n hn).1
    exact hs.loopless n hmem (hnone n hmem) hn

lemma retrace_one (g : Graph) (left : List String) (n : String) :
    (∀ c, g.retrace left false [n] = .error c → g.Edge c n ∧ c ∈ left.erase n) ∧
    ∀ left', g.retrace left false [n] = .ok left' → left' = left.erase n ∧
      (n ∈ left → ∀ m, g.Edge m n → m ∉ left.erase n) := by
  rw [retrace]
  split
  · next hn =>
    rw [if_neg Bool.false_ne_true]
    dsimp only
    have hmem : ∀ m, m ∈ ((g.predecessors n).filter (· ∈ left.erase n)).reverse ↔
        g.Edge m n ∧ m ∈ left.erase n := by
      simp [mem_predecessors]
    cases hp : ((g.predecessors n).filter (· ∈ left.erase n)).reverse with
    | nil =>
      rw [List.nil_append, retrace]
      refine ⟨by simp, ?_⟩
      rintro left' he
      cases he
      refine ⟨rfl, fun _ m hm hml => ?_⟩
      have := (hmem m).mpr ⟨hm, hml⟩
      rw [hp] at this
      exact List.not_mem_nil this
    | cons p ps =>
      obtain ⟨hpn, hpl⟩ := (hmem p).mp (by simp [hp])
      rw [List.cons_append, retrace, dif_pos hpl, if_pos rfl]
      refine ⟨?_, by simp⟩
      rintro c he
      cases he
      exact ⟨hpn, hpl⟩
  · next hn =>
    rw [retrace]
    refine ⟨by simp, ?_⟩
    rintro left' he
    cases he
    exact ⟨(List.erase_of_not_mem hn).symm, fun hn' => (hn hn').elim⟩

lemma retraceAll_some (hl : left.Nodup) (h : g.retraceAll left names = some c) :
    ∃ before n later, names = before ++ n :: later ∧ g.Edge c n ∧ c ∈ left ∧
      c ∉ before ++ [n] := by
  induction names generalizing left with
  | nil => cases h
  | cons n names ih =>
    obtain ⟨herr, hok⟩ := g.retrace_one left n
    rw [retraceAll] at h
    cases hr : g.retrace left false [n] with
    | error c' =>
      obtain rfl : c' = c := by simpa [hr] using h
      obtain ⟨hcn, hcl⟩ := herr c' hr
      obtain ⟨hne, hcl⟩ := hl.mem_erase_iff.mp hcl
      exact ⟨[], n, names, rfl, hcn, hcl, by simpa using hne⟩
    | ok left' =>
      obtain ⟨rfl, -⟩ := hok left' hr
      rw [hr] at h
      obtain ⟨before, k, later, rfl, hck, hcl, hnew⟩ := ih (hl.erase n) h
      obtain ⟨hne, hcl⟩ := hl.mem_erase_iff.mp hcl
      exact ⟨n :: before, k, later, rfl, hck, hcl, List.not_mem_cons_of_ne_of_not_mem hne hnew⟩

lemma retraceAll_none (hl : left.Nodup) (hn : names.Nodup) (h : g.retraceAll left names = none)
    {before later : List String} (he : names = before ++ n :: later) (hnl : n ∈ left)
    (hm : g.Edge m n) (hml : m ∈ left) : m ∈ before ∨ m = n := by
  induction names generalizing left before with
  | nil => simp at he
  | cons k names ih =>
    obtain ⟨-, hok⟩ := g.retrace_one left k
    rw [retraceAll] at h
    cases hr : g.retrace left false [k] with
    | error c => simp [hr] at h
    | ok left' =>
      obtain ⟨rfl, hnone⟩ := hok left' hr
      rw [hr] at h
      obtain ⟨hk, hn⟩ := List.nodup_cons.mp hn
      by_cases hmk : m = k
      · cases before with
        | nil =>
          obtain ⟨rfl, -⟩ : k = n ∧ names = later := by simpa using he
          exact .inr hmk
        | cons x before =>
          obtain ⟨rfl, -⟩ : k = x ∧ names = before ++ n :: later := by simpa using he
          exact .inl (by simp [hmk])
      · have hml' : m ∈ left.erase k := hl.mem_erase_iff.mpr ⟨hmk, hml⟩
        cases before with
        | nil =>
          obtain ⟨rfl, -⟩ : k = n ∧ names = later := by simpa using he
          exact (hnone hnl m hm hml').elim
        | cons x before =>
          obtain ⟨rfl, rfl⟩ : k = x ∧ names = before ++ n :: later := by simpa using he
          have hnk : n ≠ k := fun hnk => hk (by simp [hnk])
          have hrest := ih (hl.erase k) hn h rfl (hl.mem_erase_iff.mpr ⟨hnk, hnl⟩) hml'
          exact hrest.imp_left (List.mem_cons_of_mem k)

lemma onCycle_of_retraceAll (hg : g.Proper) (hf : g.Finished finished)
    (h : g.retraceAll g.nodes finished = some c) : g.OnCycle c := by
  obtain ⟨before, n, later, rfl, hcn, hcl, hnew⟩ := retraceAll_some hg.nodup h
  have hc : c ∈ later := by
    have hmem := hf.mem c hcl
    simp only [List.mem_append, List.mem_cons, List.not_mem_nil, or_false, not_or] at hmem hnew
    tauto
  -- It was finished before `n` and yet leads there, so `n` leads back.
  obtain ⟨between, earlier, rfl⟩ := List.append_of_mem hc
  have hsplit : before ++ n :: (between ++ c :: earlier) =
      (before ++ n :: between) ++ c :: earlier := by simp
  rcases hf.settled _ c earlier hsplit n hcn with hn | hback
  · have hnodup := hf.nodup
    rw [List.nodup_append, List.nodup_cons] at hnodup
    exact (hnodup.2.1.1 (by simp [hn])).elim
  · exact .head hcn hback

lemma not_onCycle_of_retraceAll (hg : g.Proper) (hf : g.Finished finished)
    (h : g.retraceAll g.nodes finished = none) (n : String) : ¬ g.OnCycle n := by
  have hlt : ∀ a b, g.Edge a b → finished.idxOf a < finished.idxOf b := by
    intro a b hab
    obtain ⟨ha, hb⟩ := hg.ends a b hab
    obtain ⟨before, later, he, hnew⟩ := List.eq_append_cons_of_mem (hf.mem b hb)
    rcases retraceAll_none hg.nodup hf.nodup h he hb hab ha with hmem | rfl
    · rw [he, List.idxOf_append_of_mem hmem, List.idxOf_append_of_notMem hnew, List.idxOf_cons_self]
      exact (List.idxOf_lt_length_of_mem hmem).trans_le (Nat.le_add_right _ _)
    · exact (hf.loopless a hab).elim
  have hrank : ∀ a b, TransGen g.Edge a b → finished.idxOf a < finished.idxOf b := by
    intro a b hab
    induction hab with
    | single hab => exact hlt _ _ hab
    | tail _ hbc ih => exact ih.trans (hlt _ _ hbc)
  exact fun hn => (hrank n n hn).ne rfl

lemma onCycle_of_cycle? (hg : g.Proper) (h : g.cycle? = some c) : g.OnCycle c := by
  rw [cycle?] at h
  cases hf : g.finishAll g.nodes [] g.nodes with
  | error c' =>
    obtain rfl : c' = c := by simpa [hf] using h
    exact .single ((finishAll_searching hg (.start g hg)).1 c' hf)
  | ok finished =>
    rw [hf] at h
    exact onCycle_of_retraceAll hg (finished_of_finishAll hg hf) h

lemma not_onCycle_of_cycle? (hg : g.Proper) (h : g.cycle? = none) (n : String) :
    ¬ g.OnCycle n := by
  rw [cycle?] at h
  cases hf : g.finishAll g.nodes [] g.nodes with
  | error c => simp [hf] at h
  | ok finished =>
    rw [hf] at h
    exact not_onCycle_of_retraceAll hg (finished_of_finishAll hg hf) h n

end Freshen.Description.Graph
