import Freshen.Proofs.Including
import Freshen.Proofs.PathNames
import Mathlib.Data.List.Chain
import Mathlib.Logic.Relation

/-! Which files include which, by their canonical names, and what reading a description makes of
it. Reading ends; if all that is reached can be read, it fails just if some file leads back to
itself, and the way that it reports leads there. -/

namespace Freshen

open Relation

namespace FileSet

variable {s : FileSet} {p q : Path}

lemma get?_congr (h : p.plain = q.plain) : s.get? p = s.get? q := by
  rw [get?, get?, h]

lemma isFile_congr (h : p.plain = q.plain) : s.files.isFile p = s.files.isFile q :=
  congrArg Option.isSome (get?_congr h)

lemma readText_ok_iff {text : String} : s.files.readText p = .ok text ↔
    ∃ bytes, s.get? p = some bytes ∧ String.fromUTF8? bytes = some text := by
  change s.readText p = _ ↔ _
  rw [readText]
  cases hp : s.get? p with
  | none => simp
  | some bytes => cases hu : String.fromUTF8? bytes <;> simp [hu]

end FileSet

namespace Description

variable {s : FileSet} {searchPath : List String} {stack chain : List Path} {p q c c' last : Path}
  {own raw merged merged' : RawDescription} {name : String} {names : List String} {e : BuildError}

lemma loadOne_congr (h : p.plain = q.plain) (hown : loadOne s.files p = .ok own) :
    loadOne s.files q = .ok own := by
  obtain ⟨text, htext⟩ := readText_of_loadOne hown
  have hq : s.files.readText q = .ok text :=
    FileSet.readText_ok_iff.mpr (FileSet.get?_congr h ▸ FileSet.readText_ok_iff.mp htext)
  rw [loadOne, htext] at hown
  rw [loadOne, hq]
  exact hown

lemma plain_join_parent (h : p.plain = q.plain) (hname : (Path.mk name).isAbsolute = false) :
    ((p.parent?.getD ⟨""⟩).join name).plain = ((q.parent?.getD ⟨""⟩).join name).plain := by
  have hcomps : p.comps = q.comps := by rw [← p.comps_plain, h, q.comps_plain]
  apply Path.plain_eq_of_comps
  rw [Path.comps_join hname, Path.comps_join hname, Path.comps_parent, Path.comps_parent, hcomps]

lemma findInclude_congr (h : p.plain = q.plain)
    (hfind : findInclude s.files searchPath p name = .ok c) :
    ∃ c', findInclude s.files searchPath q name = .ok c' ∧ c'.plain = c.plain := by
  rw [findInclude] at hfind ⊢
  split at hfind
  · next habs =>
    rw [if_pos habs]
    split at hfind
    · next hfile => exact ⟨c, by simpa [hfile] using hfind, rfl⟩
    · cases hfind
  · next habs =>
    rw [if_neg habs]
    have hjoin := plain_join_parent h (by simpa using habs)
    simp only [List.map_cons, List.find?_cons, FileSet.isFile_congr hjoin] at hfind ⊢
    cases hfile : s.files.isFile ((q.parent?.getD ⟨""⟩).join name) with
    | true =>
      rw [hfile] at hfind
      exact ⟨_, rfl, hjoin.symm.trans (congrArg _ (Except.ok.inj hfind))⟩
    | false =>
      rw [hfile] at hfind
      dsimp only at hfind ⊢
      split at hfind
      · exact ⟨c, hfind, rfl⟩
      · cases hfind

def Includes (s : FileSet) (searchPath : List String) (c c' : Path) : Prop :=
  ∃ own, loadOne s.files c = .ok own ∧ ∃ name ∈ own.includes, ∃ q,
    findInclude s.files searchPath c name = .ok q ∧ q.plain = c'

def Complete (s : FileSet) (searchPath : List String) (c : Path) : Prop :=
  ∃ own, loadOne s.files c = .ok own ∧ ∀ name ∈ own.includes, ∃ q,
    findInclude s.files searchPath c name = .ok q

lemma includes_plain (hown : loadOne s.files p = .ok own) (hname : name ∈ own.includes)
    (hfind : findInclude s.files searchPath p name = .ok q) :
    Includes s searchPath p.plain q.plain := by
  have hplain := p.plain_plain.symm
  obtain ⟨q', hfind', hq⟩ := findInclude_congr hplain hfind
  exact ⟨own, loadOne_congr hplain hown, name, hname, q', hfind', hq⟩

lemma loadAll_ok_of_mem (h : loadAll s.files searchPath stack p merged names = .ok merged')
    (hname : name ∈ names) : ∃ q inner, findInclude s.files searchPath p name = .ok q ∧
      load s.files searchPath stack q = .ok inner := by
  induction names generalizing merged with
  | nil => cases hname
  | cons n names ih =>
    obtain ⟨q, inner, hfind, hinner, hrest⟩ := loadAll_ok h
    rcases List.mem_cons.mp hname with rfl | hname
    · exact ⟨q, inner, hfind, hinner⟩
    · exact ih hrest hname

lemma acc_of_load (h : load s.files searchPath stack p = .ok raw) :
    Acc (fun c' c => Includes s searchPath c c') p.plain := by
  induction stack, p using load_induction s.files searchPath generalizing raw with
  | _ stack p ih =>
    obtain ⟨hfresh, own, hown, hload⟩ := load_ok h
    refine .intro _ fun c' hincludes => ?_
    obtain ⟨own', hown', name, hname, q', hfind', rfl⟩ := hincludes
    obtain rfl := Except.ok.inj (hown.symm.trans (loadOne_congr p.plain_plain hown'))
    obtain ⟨hnone, -⟩ | ⟨merged, hall, -⟩ := hload
    · rw [hnone] at hname
      cases hname
    · obtain ⟨q, inner, hfind, hinner⟩ := loadAll_ok_of_mem hall hname
      obtain ⟨q'', hfind'', hq⟩ := findInclude_congr p.plain_plain.symm hfind
      obtain rfl := Except.ok.inj (hfind'.symm.trans hfind'')
      rw [hq]
      exact ih own name q hfresh hown hname hfind hinner

lemma loadAll_error (h : loadAll s.files searchPath stack p merged names = .error e) :
    ∃ name ∈ names, (∃ cause, findInclude s.files searchPath p name = .error cause) ∨
      ∃ q, findInclude s.files searchPath p name = .ok q ∧
        load s.files searchPath stack q = .error e := by
  induction names generalizing merged with
  | nil =>
    rw [loadAll_nil] at h
    cases h
  | cons name names ih =>
    cases hfind : findInclude s.files searchPath p name with
    | error cause => exact ⟨name, List.mem_cons_self, .inl ⟨cause, hfind⟩⟩
    | ok q =>
      rw [loadAll_cons hfind] at h
      cases hq : load s.files searchPath stack q with
      | error e' =>
        rw [hq] at h
        obtain rfl := Except.error.inj h
        exact ⟨name, List.mem_cons_self, .inr ⟨q, hfind, hq⟩⟩
      | ok inner =>
        rw [hq] at h
        obtain ⟨n, hn, hcase⟩ := ih h
        exact ⟨n, List.mem_cons_of_mem name hn, hcase⟩

/-- A way through the include graph that comes back to a file it has passed. -/
structure Loop (s : FileSet) (searchPath : List String) (chain : List Path) (last : Path) :
    Prop where
  linked : (chain ++ [last]).IsChain (Includes s searchPath)
  nodup : chain.Nodup
  closed : last ∈ chain

lemma loop_of_load_error
    (hcomplete : ∀ c, ReflTransGen (Includes s searchPath) p.plain c → Complete s searchPath c)
    (hlinked : (stack.reverse ++ [p.plain]).IsChain (Includes s searchPath)) (hnodup : stack.Nodup)
    (h : load s.files searchPath stack p = .error e) :
    ∃ chain last, e = .description (.includeCycle (chain ++ [last])) ∧
      stack.reverse ++ [p.plain] <+: chain ++ [last] ∧ Loop s searchPath chain last := by
  induction stack, p using load_induction s.files searchPath with
  | _ stack p ih =>
    obtain ⟨own, hplain, hfound⟩ := hcomplete _ .refl
    have hown := loadOne_congr p.plain_plain hplain
    obtain ⟨hmem, he⟩ | ⟨hmem, herror | ⟨own', hown', hall⟩⟩ := load_error h
    · exact ⟨stack.reverse, p.plain, he, List.prefix_refl _, hlinked,
        List.nodup_reverse.mpr hnodup, List.mem_reverse.mpr hmem⟩
    · rw [hown] at herror
      cases herror
    obtain rfl := Except.ok.inj (hown.symm.trans hown')
    obtain ⟨name, hname, ⟨cause, hcause⟩ | ⟨q, hfind, hq⟩⟩ := loadAll_error hall
    · obtain ⟨q, hq⟩ := hfound name hname
      obtain ⟨q', hq', -⟩ := findInclude_congr p.plain_plain hq
      rw [hcause] at hq'
      cases hq'
    -- The stack with this file on it is a way to the included one, on which the error is met.
    have hstep := includes_plain hown hname hfind
    have hlonger : ((p.plain :: stack).reverse ++ [q.plain]).IsChain (Includes s searchPath) := by
      rw [List.reverse_cons]
      exact hlinked.append (.singleton _) (by simpa using hstep)
    obtain ⟨chain, last, he, hprefix, hloop⟩ := ih own name q hmem hown hname hfind
      (fun c hc => hcomplete c (.head hstep hc)) hlonger (List.nodup_cons.mpr ⟨hmem, hnodup⟩) hq
    have hway : stack.reverse ++ [p.plain] <+: (p.plain :: stack).reverse ++ [q.plain] := by
      rw [List.reverse_cons]
      exact List.prefix_append _ _
    exact ⟨chain, last, he, hway.trans hprefix, hloop⟩

lemma Loop.cyclic (h : Loop s searchPath chain last) :
    TransGen (Includes s searchPath) last last := by
  obtain ⟨before, behind, rfl⟩ := List.append_of_mem h.closed
  have hlinked := h.linked
  rw [List.append_assoc] at hlinked
  have hround := hlinked.right_of_append.imp fun _ _ => TransGen.single
  exact hround.rel_cons (by simp)

lemma Loop.reached (h : Loop s searchPath chain last) (hc : chain.head? = some c) :
    ReflTransGen (Includes s searchPath) c last := by
  obtain ⟨rest, rfl⟩ := List.head?_eq_some_iff.mp hc
  have hway := h.linked.imp fun _ _ => ReflTransGen.single
  rcases List.mem_cons.mp h.closed with rfl | hrest
  · exact .refl
  · exact hway.rel_cons (List.mem_append_left _ hrest)

lemma not_cyclic_of_acc (h : Acc (fun c' c => Includes s searchPath c c') c)
    (hreached : ReflTransGen (Includes s searchPath) c c') :
    ¬ TransGen (Includes s searchPath) c' c' := by
  induction h with
  | intro c _ ih =>
    intro hcyclic
    rcases hreached.cases_head with rfl | ⟨d, hd, hrest⟩
    · obtain ⟨d, hd, hback⟩ := TransGen.head'_iff.mp hcyclic
      exact ih d hd hback hcyclic
    · exact ih d hd hrest hcyclic

theorem load_ends_or_finds_cycle (s : FileSet) (searchPath : List String) (p : Path) :
    WellFounded (Calls s.files searchPath) ∧
    ((∀ c, ReflTransGen (Includes s searchPath) p.plain c → Complete s searchPath c) →
      ((∃ raw, load s.files searchPath [] p = .ok raw) ↔
        ∀ c, ReflTransGen (Includes s searchPath) p.plain c →
          ¬ TransGen (Includes s searchPath) c c) ∧
      ∀ e, load s.files searchPath [] p = .error e →
        ∃ chain last, e = .description (.includeCycle (chain ++ [last])) ∧
          e.message = "Configuration error: include cycle: " ++
            " -> ".intercalate ((chain ++ [last]).map (·.text)) ∧
          chain.head? = some p.plain ∧ (chain ++ [last]).IsChain (Includes s searchPath) ∧
          chain.Nodup ∧ last ∈ chain) := by
  refine ⟨calls_wellFounded s.files searchPath, fun hcomplete => ?_⟩
  have herror : ∀ e, load s.files searchPath [] p = .error e →
      ∃ chain last, e = .description (.includeCycle (chain ++ [last])) ∧
        chain.head? = some p.plain ∧ Loop s searchPath chain last := by
    intro e he
    obtain ⟨chain, last, hcause, hprefix, hloop⟩ :=
      loop_of_load_error hcomplete (.singleton _) List.nodup_nil he
    obtain ⟨c, rest, rfl⟩ := List.exists_cons_of_ne_nil (List.ne_nil_of_mem hloop.closed)
    refine ⟨c :: rest, last, hcause, ?_, hloop⟩
    rw [List.head?_cons, (List.cons_prefix_cons.mp hprefix).1]
  refine ⟨⟨?_, fun hacyclic => ?_⟩, fun e he => ?_⟩
  · rintro ⟨raw, hraw⟩ c hc
    exact not_cyclic_of_acc (acc_of_load hraw) hc
  · cases hload : load s.files searchPath [] p with
    | ok raw => exact ⟨raw, rfl⟩
    | error e =>
      obtain ⟨chain, last, -, hhead, hloop⟩ := herror e hload
      exact (hacyclic last (hloop.reached hhead) hloop.cyclic).elim
  · obtain ⟨chain, last, rfl, hhead, hloop⟩ := herror e he
    exact ⟨chain, last, rfl, rfl, hhead, hloop.linked, hloop.nodup, hloop.closed⟩

def tangle : FileSet where
  entries := [(⟨"a.toml"⟩, "include = [\"./lib/b.toml\"]\n".toUTF8),
    (⟨"lib/b.toml"⟩, "include = [\"a.toml\"]\n".toUTF8)]

lemma tangle_first : loadOne tangle.files ⟨"a.toml"⟩ = .ok { includes := ["./lib/b.toml"] } := by
  decide +kernel

lemma tangle_second : loadOne tangle.files ⟨"lib/b.toml"⟩ = .ok { includes := ["a.toml"] } := by
  decide +kernel

lemma find_first : findInclude tangle.files ["."] ⟨"a.toml"⟩ "./lib/b.toml" =
    .ok ⟨"./lib/b.toml"⟩ := by
  decide +kernel

lemma find_second : findInclude tangle.files ["."] ⟨"lib/b.toml"⟩ "a.toml" = .ok ⟨"./a.toml"⟩ := by
  decide +kernel

lemma tangle_reached (h : ReflTransGen (Includes tangle ["."]) ⟨"a.toml"⟩ c) :
    c = ⟨"a.toml"⟩ ∨ c = ⟨"lib/b.toml"⟩ := by
  induction h with
  | refl => exact .inl rfl
  | tail _ hstep ih =>
    obtain ⟨own, hown, name, hname, q, hfind, rfl⟩ := hstep
    rcases ih with rfl | rfl
    · obtain rfl := Except.ok.inj (tangle_first.symm.trans hown)
      obtain rfl := List.mem_singleton.mp hname
      obtain rfl := Except.ok.inj (find_first.symm.trans hfind)
      exact .inr (by decide +kernel)
    · obtain rfl := Except.ok.inj (tangle_second.symm.trans hown)
      obtain rfl := List.mem_singleton.mp hname
      obtain rfl := Except.ok.inj (find_second.symm.trans hfind)
      exact .inl (by decide +kernel)

lemma tangle_complete (h : ReflTransGen (Includes tangle ["."]) ⟨"a.toml"⟩ c) :
    Complete tangle ["."] c := by
  rcases tangle_reached h with rfl | rfl
  · refine ⟨_, tangle_first, fun name hname => ⟨⟨"./lib/b.toml"⟩, ?_⟩⟩
    exact List.mem_singleton.mp hname ▸ find_first
  · refine ⟨_, tangle_second, fun name hname => ⟨⟨"./a.toml"⟩, ?_⟩⟩
    exact List.mem_singleton.mp hname ▸ find_second

lemma tangle_cyclic : TransGen (Includes tangle ["."]) ⟨"a.toml"⟩ ⟨"a.toml"⟩ :=
  .head ⟨_, tangle_first, _, List.mem_singleton_self _, _, find_first, by decide +kernel⟩
    (.single ⟨_, tangle_second, _, List.mem_singleton_self _, _, find_second, by decide +kernel⟩)

theorem load_ends_or_finds_cycle_tangle :
    ∃ e chain last, load tangle.files ["."] [] ⟨"./a.toml"⟩ = .error e ∧
      e.message = "Configuration error: include cycle: " ++
        " -> ".intercalate ((chain ++ [last]).map Path.text) ∧
      chain.head? = some ⟨"a.toml"⟩ ∧ last ∈ chain := by
  have hplain : (Path.mk "./a.toml").plain = ⟨"a.toml"⟩ := by decide +kernel
  obtain ⟨-, hends⟩ := load_ends_or_finds_cycle tangle ["."] ⟨"./a.toml"⟩
  rw [hplain] at hends
  obtain ⟨hiff, herror⟩ := hends fun c => tangle_complete
  cases hload : load tangle.files ["."] [] ⟨"./a.toml"⟩ with
  | ok raw => exact (hiff.mp ⟨raw, hload⟩ _ .refl tangle_cyclic).elim
  | error e =>
    obtain ⟨chain, last, -, hmessage, hhead, -, -, hlast⟩ := herror e hload
    exact ⟨e, chain, last, rfl, hmessage, hhead, hlast⟩

end Description
end Freshen
