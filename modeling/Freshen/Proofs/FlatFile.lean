import Freshen.FlatFile
import Freshen.Proofs.Keys
import Freshen.Proofs.Lines
import Mathlib.Data.List.DropRight

/-! What a flat file of digests says to its reader. It is written entry by entry, and each entry
says by itself what its lines say; one whose names hold neither a tab nor a line break, and whose
digest has no blanks around it, says itself and nothing else. -/

namespace Freshen

namespace Text

variable {s : String} {cs : List Char} {c : Char}

lemma trim_toList (s : String) :
    (trim s).toList = (s.toList.dropWhile isBlank).rdropWhile isBlank := by
  rw [trim, String.toList_ofList]
  rfl

lemma trim_trim (s : String) : trim (trim s) = trim s := by
  have hhead : (trim s).toList.dropWhile isBlank = (trim s).toList := by
    obtain ⟨rest, hrest⟩ := List.rdropWhile_prefix isBlank (s.toList.dropWhile isBlank)
    rw [← trim_toList] at hrest
    cases ht : (trim s).toList with
    | nil => rfl
    | cons c cs =>
      have hc : isBlank c = false := by
        have hnot := List.head?_dropWhile_not isBlank s.toList
        rw [← hrest, ht] at hnot
        simpa using hnot
      simp [hc]
  apply String.toList_inj.mp
  rw [trim_toList (trim s), hhead, trim_toList s, List.rdropWhile_idempotent]

lemma trim_of_visible (h : ∀ c ∈ s.toList, isBlank c = false) : trim s = s := by
  apply String.toList_inj.mp
  have hdrop : s.toList.dropWhile isBlank = s.toList := by
    rw [List.dropWhile_eq_self_iff]
    intro hl
    simp [h _ (List.getElem_mem hl)]
  rw [trim_toList, hdrop, List.rdropWhile_eq_self_iff]
  intro hl
  simp [h _ (List.getLast_mem hl)]

lemma not_isBlank_of_getLast? (h : trim s = s) (hc : s.toList.getLast? = some c) :
    isBlank c = false := by
  rw [← h, trim_toList] at hc
  have hne : (s.toList.dropWhile isBlank).rdropWhile isBlank ≠ [] := by
    intro hnil
    simp [hnil] at hc
  have hlast := List.rdropWhile_last_not isBlank _ hne
  rw [List.getLast?_eq_some_getLast hne, Option.some.injEq] at hc
  simpa [hc] using hlast

lemma subset_of_trim (s : String) : (trim s).toList ⊆ s.toList := by
  rw [trim_toList]
  exact ((List.rdropWhile_prefix ..).sublist.trans (List.dropWhile_sublist _)).subset

lemma mem_trim (hc : c ∈ s.toList) (hv : isBlank c = false) : c ∈ (trim s).toList := by
  have hd : c ∈ s.toList.dropWhile isBlank := by
    rw [← List.takeWhile_append_dropWhile (p := isBlank) (l := s.toList), List.mem_append] at hc
    refine hc.resolve_left fun hm => ?_
    rw [List.mem_takeWhile_imp hm] at hv
    cases hv
  rw [trim_toList]
  rw [← List.rdropWhile_append_rtakeWhile (p := isBlank) (l := s.toList.dropWhile isBlank),
    List.mem_append] at hd
  refine hd.resolve_right fun hm => ?_
  rw [List.mem_rtakeWhile_imp hm] at hv
  cases hv

end Text

namespace FlatFile

open Text

def told (line : String) : Option ((String × String) × String) :=
  if allBlank line then none else entry? line

def linesIn (text : String) : List String :=
  (linesOf '\n' '\r' text.toList).map String.ofList

def saidBy (text : String) : Entries := (linesIn text).filterMap told

variable {r : Reading} {line text : String} {e : (String × String) × String} {bytes : ByteArray}

lemma entries_line (r : Reading) (line : String) :
    (r.line line).entries = Keyed.merge r.entries (told line).toList := by
  rw [Reading.line, told]
  split
  · rfl
  · cases entry? line <;> rfl

lemma entries_lines (r : Reading) (lines : List String) :
    (lines.foldl Reading.line r).entries = Keyed.merge r.entries (lines.filterMap told) := by
  induction lines generalizing r with
  | nil => rfl
  | cons line lines ih =>
    rw [List.foldl_cons, ih, entries_line]
    cases ht : told line with
    | none => simp [ht, Keyed.merge]
    | some e => simp [ht, Keyed.merge]

lemma parseLines_encoded (r : Reading) (lines : List (List Char)) :
    parseLines r (lines.map encoded) =
      (.ok (), (lines.map String.ofList).foldl Reading.line r) := by
  induction lines generalizing r with
  | nil => rfl
  | cons l lines ih =>
    rw [List.map_cons, parseLines]
    simp only [ofBytes?_encoded, ih, List.map_cons, List.foldl_cons]

lemma parse_text (text : String) :
    parse text.toUTF8 = (.ok (), (linesIn text).foldl Reading.line {}) := by
  rw [parse, toUTF8_toList, rawLines_encoded, parseLines_encoded, linesIn]

lemma entries_parse_text (text : String) :
    (parse text.toUTF8).2.entries = Keyed.merge [] (saidBy text) := by
  rw [parse_text, entries_lines, saidBy]

lemma parseLines_ok {r' : Reading} {ls : List (List UInt8)}
    (h : parseLines r ls = (.ok (), r')) : ∃ lines : List (List Char), lines.map encoded = ls ∧
      (lines.map String.ofList).foldl Reading.line r = r' := by
  induction ls generalizing r with
  | nil => exact ⟨[], rfl, congrArg Prod.snd h⟩
  | cons l ls ih =>
    rw [parseLines] at h
    cases hl : ofBytes? l with
    | none => simp [hl] at h
    | some line =>
      rw [hl] at h
      obtain ⟨lines, hlines, hr⟩ := ih h
      exact ⟨line.toList :: lines, by simp [hlines, encoded_toList_of_ofBytes? hl],
        by simpa using hr⟩

lemma entries_of_parse (h : parse bytes = (.ok (), r)) :
    ∃ lines : List (List Char), (∀ l ∈ lines, '\n' ∉ l) ∧
      r.entries = Keyed.merge [] ((lines.map String.ofList).filterMap told) := by
  obtain ⟨lines, hlines, rfl⟩ := parseLines_ok h
  refine ⟨lines, fun l hl hn => ?_, entries_lines {} _⟩
  have hraw : encoded l ∈ rawLines bytes.data.toList := hlines ▸ List.mem_map_of_mem hl
  rw [rawLines_eq] at hraw
  refine notMem_of_mem_linesOf hraw (List.mem_flatMap.mpr ⟨'\n', hn, ?_⟩)
  rw [oneByte_feed.encode]
  exact List.mem_singleton_self _

structure Plain (e : (String × String) × String) : Prop where
  build : '\t' ∉ e.1.1.toList ∧ '\n' ∉ e.1.1.toList
  target : '\t' ∉ e.1.2.toList ∧ '\n' ∉ e.1.2.toList
  digest : '\n' ∉ e.2.toList
  trimmed : trim e.2 = e.2
  visible : ∃ c ∈ e.1.1.toList ++ (e.1.2.toList ++ e.2.toList), isBlank c = false

def lineChars (e : (String × String) × String) : List Char :=
  e.1.1.toList ++ '\t' :: (e.1.2.toList ++ '\t' :: e.2.toList)

lemma entryLine_toList (e : (String × String) × String) :
    (entryLine e).toList = lineChars e ++ ['\n'] := by
  simp [entryLine, lineChars]

lemma entry?_lineChars (hb : '\t' ∉ e.1.1.toList) (ht : '\t' ∉ e.1.2.toList) :
    entry? (String.ofList (lineChars e)) = some (e.1, trim e.2) := by
  obtain ⟨p, ps, hp⟩ := List.exists_cons_of_ne_nil (pieces_ne_nil '\t' e.2.toList)
  have hpieces : pieces '\t' (lineChars e) = e.1.1.toList :: e.1.2.toList :: p :: ps := by
    rw [lineChars, pieces_append, pieces_append, pieces_of_notMem hb, pieces_of_notMem ht, hp]
    rfl
  have hjoined : joined '\t' (p :: ps) = e.2.toList := hp ▸ joined_pieces '\t' e.2.toList
  simp [hpieces, entry?, hjoined]

lemma mem_lineChars {c : Char} : c ∈ lineChars e ↔
    c = '\t' ∨ c ∈ e.1.1.toList ++ (e.1.2.toList ++ e.2.toList) := by
  simp only [lineChars, List.mem_append, List.mem_cons]
  tauto

lemma allBlank_lineChars : allBlank (String.ofList (lineChars e)) = true ↔
    ∀ c ∈ e.1.1.toList ++ (e.1.2.toList ++ e.2.toList), isBlank c = true := by
  have htab : isBlank '\t' = true := by decide
  rw [allBlank, String.toList_ofList, List.all_eq_true]
  constructor
  · exact fun h c hc => h c (mem_lineChars.mpr (.inr hc))
  · rintro h c hc
    rcases mem_lineChars.mp hc with rfl | hc
    · exact htab
    · exact h c hc

lemma Plain.told_eq (h : Plain e) : told (String.ofList (lineChars e)) = some e := by
  obtain ⟨c, hc, hv⟩ := h.visible
  have hblank : ¬ allBlank (String.ofList (lineChars e)) = true := by
    intro hall
    rw [allBlank_lineChars.mp hall c hc] at hv
    cases hv
  rw [told, if_neg hblank, entry?_lineChars h.build.1 h.target.1, h.trimmed]

lemma Plain.linesIn_eq (h : Plain e) : linesIn (entryLine e) = [String.ofList (lineChars e)] := by
  have hfeed : '\n' ∉ lineChars e := by
    intro hm
    rcases mem_lineChars.mp hm with hm | hm
    · cases hm
    · simp only [List.mem_append] at hm
      rcases hm with hm | hm | hm
      · exact h.build.2 hm
      · exact h.target.2 hm
      · exact h.digest hm
  have hlast : (lineChars e).getLast? ≠ some '\r' := by
    rw [lineChars, List.getLast?_append_cons, List.getLast?_cons, List.getLast?_append_cons,
      List.getLast?_cons]
    cases hd : e.2.toList.getLast? with
    | none => simp
    | some c =>
      have hc := not_isBlank_of_getLast? h.trimmed hd
      rintro hr
      simp at hr
      subst hr
      simp [show isBlank '\r' = true by decide] at hc
  rw [linesIn, entryLine_toList, linesOf_append, pieces_of_notMem hfeed]
  simp [unreturned_of_ne hlast, linesOf, pieces]

lemma Plain.saidBy_eq (h : Plain e) : saidBy (entryLine e) = [e] := by
  rw [saidBy, h.linesIn_eq]
  simp [h.told_eq]

lemma entry?_eq {cs : List Char} (h : entry? (String.ofList cs) = some e) :
    ∃ rest, cs = e.1.1.toList ++ '\t' :: (e.1.2.toList ++ '\t' :: rest) ∧
      '\t' ∉ e.1.1.toList ∧ '\t' ∉ e.1.2.toList ∧ e.2 = trim (String.ofList rest) := by
  unfold entry? at h
  rw [String.toList_ofList] at h
  split at h
  · next id target digest more hp =>
    obtain rfl := Option.some.inj h
    have hcs : joined '\t' (pieces '\t' cs) = cs := joined_pieces '\t' cs
    have hid : id ∈ pieces '\t' cs := by simp [hp]
    have htarget : target ∈ pieces '\t' cs := by simp [hp]
    rw [hp] at hcs
    refine ⟨joined '\t' (digest :: more), ?_, ?_, ?_, rfl⟩
    · simpa [joined] using hcs.symm
    · simpa using not_mem_of_mem_pieces hid
    · simpa using not_mem_of_mem_pieces htarget
  · cases h

lemma saidBy_plain {es : Entries} (h : ∀ e ∈ es, Plain e) :
    es.flatMap (fun e => saidBy (entryLine e)) = es := by
  induction es with
  | nil => rfl
  | cons e es ih =>
    rw [List.flatMap_cons, (h e List.mem_cons_self).saidBy_eq,
      ih fun d hd => h d (List.mem_cons_of_mem e hd)]
    rfl

lemma plain_of_told {cs : List Char} (hn : '\n' ∉ cs) (h : told (String.ofList cs) = some e) :
    Plain e := by
  rw [told] at h
  split at h
  · cases h
  next hblank =>
  obtain ⟨rest, rfl, hb, ht, hd⟩ := entry?_eq h
  simp only [List.mem_append, List.mem_cons, not_or] at hn
  obtain ⟨hnb, -, hnt, -, hnr⟩ := hn
  refine ⟨⟨hb, hnb⟩, ⟨ht, hnt⟩, fun hm => ?_, ?_, ?_⟩
  · rw [hd] at hm
    exact hnr (by simpa using subset_of_trim _ hm)
  · rw [hd, trim_trim]
  · rw [allBlank, String.toList_ofList, List.all_eq_true] at hblank
    push Not at hblank
    obtain ⟨c, hc, hv⟩ := hblank
    rw [ne_eq, Bool.not_eq_true] at hv
    refine ⟨c, ?_, hv⟩
    have htab : c ≠ '\t' := by
      rintro rfl
      cases hv
    simp only [List.mem_append, List.mem_cons, htab, false_or] at hc ⊢
    refine hc.imp_right (Or.imp_right fun hr => ?_)
    rw [hd]
    exact mem_trim (by simpa using hr) hv

lemma linesIn_append (cs : List Char) (s : String) :
    linesIn (String.ofList (cs ++ ['\n']) ++ s) =
      linesIn (String.ofList (cs ++ ['\n'])) ++ linesIn s := by
  have hend : linesOf '\n' '\r' [] = [] := rfl
  rw [linesIn, linesIn, linesIn, String.toList_append, String.toList_ofList, List.append_assoc,
    List.singleton_append, linesOf_append, linesOf_append, hend, List.append_nil, List.map_append]

lemma saidBy_entries (es : Entries) :
    saidBy (String.join (es.map entryLine)) = es.flatMap fun e => saidBy (entryLine e) := by
  induction es with
  | nil => rfl
  | cons e es ih =>
    have hline : entryLine e = String.ofList (lineChars e ++ ['\n']) := by
      rw [← entryLine_toList, String.ofList_toList]
    rw [List.map_cons, String.join_cons, List.flatMap_cons, ← ih, saidBy, saidBy, saidBy, hline,
      linesIn_append, List.filterMap_append]

def said (es : Entries) : Entries := (es.mergeSort precedes).flatMap fun e => saidBy (entryLine e)

lemma parse_render (es : Entries) :
    ∃ r, parse (render es).toUTF8 = (.ok (), r) ∧ r.entries = Keyed.merge [] (said es) := by
  refine ⟨_, parse_text _, ?_⟩
  rw [entries_lines, said, ← saidBy_entries]
  rfl

def Lasting (es : Entries) : Prop := Keyed.Distinct es ∧ ∀ e ∈ es, Plain e

lemma Lasting.said_eq {es : Entries} (h : Lasting es) : said es = es.mergeSort precedes :=
  saidBy_plain fun e he => h.2 e (List.mem_mergeSort.mp he)

lemma Lasting.parse_render {es : Entries} (h : Lasting es) :
    ∃ r, parse (render es).toUTF8 = (.ok (), r) ∧ r.entries = es.mergeSort precedes := by
  obtain ⟨r, hp, hr⟩ := FlatFile.parse_render es
  refine ⟨r, hp, ?_⟩
  have hd : Keyed.Distinct (es.mergeSort precedes) := h.1.perm (List.mergeSort_perm es _).symm
  rw [hr, h.said_eq, Keyed.merge_of_distinct (by simpa using hd), List.nil_append]

lemma Lasting.set {es : Entries} (h : Lasting es) (he : Plain e) :
    Lasting (Keyed.set e.1 e.2 es) := by
  refine ⟨h.1.set e.1 e.2, fun d hd => ?_⟩
  rcases Keyed.mem_of_mem_set hd with rfl | hd
  · exact he
  · exact h.2 d hd

lemma Lasting.merge {es fs : Entries} (h : Lasting es) (hf : ∀ e ∈ fs, Plain e) :
    Lasting (Keyed.merge es fs) := by
  induction fs generalizing es with
  | nil => exact h
  | cons e fs ih =>
    exact ih (h.set (hf e List.mem_cons_self)) fun d hd => hf d (List.mem_cons_of_mem e hd)

lemma lasting_of_parse (h : parse bytes = (.ok (), r)) : Lasting r.entries := by
  obtain ⟨lines, hlines, hr⟩ := entries_of_parse h
  rw [hr]
  refine Lasting.merge ⟨Keyed.distinct_nil, by simp⟩ fun e he => ?_
  obtain ⟨line, hline, ht⟩ := List.mem_filterMap.mp he
  obtain ⟨l, hl, rfl⟩ := List.mem_map.mp hline
  exact plain_of_told (hlines l hl) ht

end FlatFile
end Freshen
