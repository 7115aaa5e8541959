import Freshen.Disk.Change
/-! A disk as a build sees it: files that are read. -/

namespace Freshen.Disk

def readText (d : Disk) (p : Path) : Except FileError String :=
  match d.readAll p with
  | .error e => .error (.reading p e)
  | .ok b =>
    match String.fromUTF8? b with
    | some s => .ok s
    | none => .error (.reading p .notText)

theorem listed (d : Disk) (p : Path) (s : String) (h : d.readText p = .ok s) :
    ((d.canonical p).mapError (FileError.resolving p)).toOption.getD p ∈
      d.nodes.map (·.1.path) := by
  have hf : ∃ l n, d.find p = .ok (l, n) ∧ n ≠ .directory := by
    revert h
    simp only [readText, readAll, read]
    rcases hd : d.find p with e | ⟨l, _ | n | t | _⟩
    · simp
    · simp [image?]
    all_goals intro _; exact ⟨l, _, rfl, by simp⟩
  obtain ⟨l, n, hf, hn⟩ := hf
  have hc : d.canonical p = .ok l.path := by simp only [canonical, hf]
  rw [hc]
  show l.path ∈ d.nodes.map (·.1.path)
  have := node?_mem (find_ok hf) hn
  simp only [List.mem_map] at this ⊢
  obtain ⟨e, he, rfl⟩ := this
  exact ⟨e, he, rfl⟩

def files (d : Disk) : Files where
  isFile := d.isFile
  isPresent := d.exists_
  openRead p := (d.read p).mapError (FileError.opening p)
  readText := d.readText
  canonical p := (d.canonical p).mapError (FileError.resolving p)
  paths := d.nodes.map (·.1.path)
  listed := d.listed

end Freshen.Disk
