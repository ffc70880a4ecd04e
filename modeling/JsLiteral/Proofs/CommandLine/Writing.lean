import JsLiteral.CommandLine.Paths
import Mathlib.Data.List.Induction

/-!
# What writing a file changes

A path under which a file can be written leads to one entry, a file or a free name, and writing
changes this entry only. The directories on the way stay, so the path leads to the same entry
afterwards, which is a file with the bytes that were written.

    write fs path bytes = .ok (fs.put name (.file bytes))
                                    where path leads to the entry name      (write_eq_ok_iff)
    locate (fs.put name (.file bytes)) path = .file name bytes           (LeadsTo.locate_put)
-/

namespace JsLiteral

namespace Files

variable {fs : Files} {name n : Text}

theorem get?_put_of_ne (h : n ≠ name) (e : Entry) : (fs.put name e).get? n = fs.get? n := by
  induction fs with
  | nil => rw [put, get?_cons, if_neg h]
  | cons p fs ih =>
    obtain ⟨m, old⟩ := p
    unfold put
    split
    · rename_i hm
      rw [get?_cons, get?_cons, if_neg (hm ▸ h), if_neg (hm ▸ h)]
    · rw [get?_cons, get?_cons, ih]

theorem mem_map_fst_put {e : Entry} :
    n ∈ (fs.put name e).map Prod.fst ↔ n = name ∨ n ∈ fs.map Prod.fst := by
  induction fs with
  | nil => simp [put]
  | cons p fs ih =>
    obtain ⟨m, old⟩ := p
    unfold put
    split
    · rename_i hm
      simp [hm]
    · rw [List.map_cons, List.mem_cons, ih, List.map_cons, List.mem_cons]
      exact or_left_comm

/-- A name that no entry has can be removed. -/
theorem remove_of_get?_eq_none (h : fs.get? name = none) : fs.remove name = fs :=
  List.filter_eq_self.2 fun p hp => decide_eq_true (get?_eq_none_iff.1 h p hp)

end Files

namespace Path

variable {fs : Files} {name path c : Text} {cs ds : List Text} {p start : Place}

/-! ## Directories -/

theorem isDirectory_iff : isDirectory fs name = true ↔
    fs.get? name = some .directory ∨ ∃ n ∈ fs.map Prod.fst, name ++ [slash] <+: n := by
  unfold isDirectory
  rw [Bool.or_eq_true, beq_iff_eq, List.any_eq_true]
  refine or_congr_right ⟨?_, ?_⟩
  · rintro ⟨p, hp, hprefix⟩
    exact ⟨p.1, List.mem_map_of_mem hp, List.isPrefixOf_iff_prefix.1 hprefix⟩
  · rintro ⟨n, hn, hprefix⟩
    obtain ⟨p, hp, rfl⟩ := List.mem_map.1 hn
    exact ⟨p, hp, List.isPrefixOf_iff_prefix.2 hprefix⟩

/-- Directories stay directories when a file is written where none of them is. -/
theorem isDirectory_put {n : Text} (hname : isDirectory fs name = false) (bytes : List UInt8)
    (h : isDirectory fs n = true) : isDirectory (fs.put name (.file bytes)) n = true := by
  have hne : n ≠ name := by
    rintro rfl
    rw [hname] at h
    cases h
  rw [isDirectory_iff] at h ⊢
  rcases h with h | ⟨m, hm, hprefix⟩
  · exact Or.inl ((Files.get?_put_of_ne hne _).trans h)
  · exact Or.inr ⟨m, Files.mem_map_fst_put.2 (Or.inr hm), hprefix⟩

/-- A file that was written is no directory. -/
theorem isDirectory_put_self (hname : isDirectory fs name = false) (bytes : List UInt8) :
    isDirectory (fs.put name (.file bytes)) name = false := by
  rw [Bool.eq_false_iff] at hname ⊢
  rw [ne_eq, isDirectory_iff] at hname ⊢
  rintro (h | ⟨m, hm, hprefix⟩)
  · rw [Files.get?_put] at h
    cases h
  · rcases Files.mem_map_fst_put.1 hm with rfl | hm
    · have := hprefix.length_le
      rw [List.length_append] at this
      exact absurd this (by simp)
    · exact hname (Or.inr ⟨m, hm, hprefix⟩)

/-! ## One component -/

/-- A place that can be written: the file of a name, or the name if it is free. -/
inductive Place.IsEntry (name : Text) : Place → Prop where
  | file (bytes : List UInt8) : IsEntry name (.file name bytes)
  | vacant : IsEntry name (.vacant name)

/-- The component `c` names an entry of the directory `ds`. -/
structure Names (ds : List Text) (c name : Text) : Prop where
  not_above : c ≠ ".."
  size_le : size c ≤ 255
  eq : name = Text.join [slash] (ds ++ [c])

theorem Names.descend_eq {name : Text} (h : Names ds c name) (fs : Files) :
    descend fs (.directory ds) c =
      if isDirectory fs name then .directory (ds ++ [c])
      else match fs.get? name with
        | some (.file bytes) => .file name bytes
        | _ => .vacant name := by
  obtain ⟨hup, hsize, rfl⟩ := h
  exact (if_neg hup).trans (if_neg (Nat.not_lt.2 hsize))

/-- One component goes up, is too long or names something. -/
theorem descend_cases (fs : Files) (ds : List Text) (c : Text) :
    c = ".." ∧ descend fs (.directory ds) c = .directory (above ds) ∨
      descend fs (.directory ds) c = .tooLong ∨ ∃ name, Names ds c name := by
  by_cases hup : c = ".."
  · exact Or.inl ⟨hup, if_pos hup⟩
  · by_cases hsize : 255 < size c
    · exact Or.inr (Or.inl (by rw [descend, if_neg hup, if_pos hsize]))
    · exact Or.inr (Or.inr ⟨_, hup, Nat.not_lt.1 hsize, rfl⟩)

/-- Where one component leads to a directory it goes up or names it. -/
theorem descend_eq_directory (h : descend fs p c = .directory cs) :
    ∃ ds, p = .directory ds ∧ (c = ".." ∧ cs = above ds ∨
      ∃ name, Names ds c name ∧ isDirectory fs name = true ∧ cs = ds ++ [c]) := by
  cases p with
  | directory ds =>
    refine ⟨ds, rfl, ?_⟩
    rcases descend_cases fs ds c with ⟨hup, he⟩ | he | ⟨name, hnames⟩
    · rw [he] at h
      cases h
      exact Or.inl ⟨hup, rfl⟩
    · rw [he] at h
      cases h
    · rw [hnames.descend_eq] at h
      split at h
      · rename_i hdirectory
        cases h
        exact Or.inr ⟨name, hnames, hdirectory, rfl⟩
      · split at h <;> cases h
  | _ => cases h

/-- Where one component leads to an entry it names one that is no directory. -/
theorem descend_isEntry (h : (descend fs p c).IsEntry name) :
    ∃ ds, p = .directory ds ∧ Names ds c name ∧ isDirectory fs name = false := by
  cases p with
  | directory ds =>
    refine ⟨ds, rfl, ?_⟩
    rcases descend_cases fs ds c with ⟨-, he⟩ | he | ⟨named, hnames⟩
    · rw [he] at h
      cases h
    · rw [he] at h
      cases h
    · rw [hnames.descend_eq] at h
      split at h
      · cases h
      · rename_i hdirectory
        rw [Bool.not_eq_true] at hdirectory
        split at h
        · cases h
          exact ⟨hnames, hdirectory⟩
        · cases h
          exact ⟨hnames, hdirectory⟩
  | _ => cases h

/-! ## Paths -/

/-- Components that lead to a directory lead there in files with more directories too. -/
theorem foldl_descend_directory {fs' : Files}
    (hfs : ∀ n, isDirectory fs n = true → isDirectory fs' n = true) (cs : List Text) :
    ∀ {ds : List Text}, cs.foldl (descend fs) start = .directory ds →
      cs.foldl (descend fs') start = .directory ds := by
  -- from the last component, which is the one that leads there
  induction cs using List.reverseRecOn with
  | nil => exact fun h => h
  | append_singleton cs c ih =>
    intro ds h
    rw [List.foldl_append, List.foldl_cons, List.foldl_nil] at h ⊢
    obtain ⟨ds', hcs, ⟨rfl, rfl⟩ | ⟨name, hnames, hdirectory, rfl⟩⟩ := descend_eq_directory h
    · rw [ih hcs, descend, if_pos rfl]
    · rw [ih hcs, hnames.descend_eq, if_pos (hfs name hdirectory)]

/-- A path leads to a place where the entry of a name can be written. -/
def LeadsTo (fs : Files) (path name : Text) : Prop := (locate fs path).IsEntry name

/-- A path leads where it led after the entry there was written. -/
theorem LeadsTo.locate_put (h : LeadsTo fs path name) (bytes : List UInt8) :
    locate (fs.put name (.file bytes)) path = .file name bytes := by
  unfold LeadsTo locate at h
  unfold locate
  split at h
  · cases h
  · rename_i hsize
    rw [if_neg hsize]
    simp only at h ⊢
    -- the last component names the entry, those before it lead to its directory
    rcases List.eq_nil_or_concat (components path) with hcs | ⟨cs, c, hcs⟩
    · rw [hcs] at h
      cases h
    · rw [hcs, List.concat_eq_append, List.foldl_append, List.foldl_cons, List.foldl_nil] at h ⊢
      obtain ⟨ds, hds, hnames, hname⟩ := descend_isEntry h
      rw [foldl_descend_directory (fun n => isDirectory_put hname bytes) cs hds,
        hnames.descend_eq, isDirectory_put_self hname, Files.get?_put]
      rfl

/-- Writing succeeds where a path leads to an entry, and it changes this entry. -/
theorem write_eq_ok_iff {bytes : List UInt8} {files : Files} :
    write fs path bytes = .ok files ↔
      ∃ name, LeadsTo fs path name ∧ files = fs.put name (.file bytes) := by
  unfold write LeadsTo
  cases locate fs path with
  | file n old =>
    constructor
    · rintro ⟨⟩
      exact ⟨n, .file old, rfl⟩
    · rintro ⟨_, ⟨⟩, rfl⟩
      rfl
  | vacant n =>
    constructor
    · rintro ⟨⟩
      exact ⟨n, .vacant, rfl⟩
    · rintro ⟨_, ⟨⟩, rfl⟩
      rfl
  | _ => exact ⟨nofun, nofun⟩

end Path

end JsLiteral
