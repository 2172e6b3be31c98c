import BenchPlan.Machine
import Mathlib.Data.List.DropRight

/-!
# Where an executable lies

A path is a directory with slashes behind it, and it is so in one way only. `trimSlashes` gives the
directory: it does not end in a slash (`getLast?_trimSlashes`), the rest of the path is slashes
(`exists_slashes`), and the same directory is found whatever their number (`trimSlashes_append`).
The executable of a machine is the binary in this directory, behind one slash
(`executable_in_directory`). The root is the directory of no characters, and so is the one that an
empty path names. An empty path thus leads to the root (`executable_of_empty_path`).
-/

namespace BenchPlan.Machine

variable {d p : String}

/-- A row of slashes. -/
def slashes (n : Nat) : String := String.ofList (List.replicate n '/')

/-- A machine with another path. -/
def withPath (m : Machine) (p : String) : Machine := { m with path := some p }

/-- Whether a path begins at the root. -/
def IsAbsolute (p : String) : Prop := p.toList.head? = some '/'

instance (p : String) : Decidable (IsAbsolute p) := inferInstanceAs (Decidable (_ = _))

/-- The characters of a row of slashes. -/
lemma toList_slashes (n : Nat) : (slashes n).toList = List.replicate n '/' := String.toList_ofList

/-- A path without the slashes at its end, in characters. -/
lemma toList_trimSlashes (p : String) :
    (trimSlashes p).toList = p.toList.rdropWhile (· = '/') :=
  String.toList_ofList

/-- The executable of a machine with a path. -/
lemma executable_withPath (m : Machine) (p : String) :
    (m.withPath p).executable = trimSlashes p ++ "/" ++ m.binary := rfl

/-- A directory does not end in a slash. -/
lemma getLast?_trimSlashes (p : String) : (trimSlashes p).toList.getLast? ≠ some '/' := by
  rw [toList_trimSlashes]
  intro last
  obtain ⟨nonempty, slash⟩ := List.mem_getLast?_eq_getLast last
  exact List.rdropWhile_last_not _ _ nonempty (decide_eq_true slash.symm)

/-- What is behind the directory of a path is slashes. -/
lemma exists_slashes (p : String) : ∃ n, p = trimSlashes p ++ slashes n := by
  have slash : ∀ c ∈ p.toList.rtakeWhile (· = '/'), c = '/' := by
    intro c m
    simpa using List.mem_rtakeWhile_imp m
  refine ⟨(p.toList.rtakeWhile (· = '/')).length, String.toList_inj.1 ?_⟩
  rw [String.toList_append, toList_trimSlashes, toList_slashes, ← List.eq_replicate_of_mem slash,
    List.rdropWhile_append_rtakeWhile]

/-- Slashes behind a directory do not change it. -/
lemma trimSlashes_append (directory : d.toList.getLast? ≠ some '/') (n : Nat) :
    trimSlashes (d ++ slashes n) = d := by
  apply String.toList_inj.1
  rw [toList_trimSlashes, String.toList_append, toList_slashes]
  induction n with
  | zero =>
    rw [List.replicate_zero, List.append_nil, List.rdropWhile_eq_self_iff]
    intro nonempty slash
    apply directory
    rw [List.getLast?_eq_some_getLast nonempty, of_decide_eq_true slash]
  | succ n ih =>
    rw [List.replicate_succ', ← List.append_assoc, List.rdropWhile_concat_pos _ _ _ (by decide), ih]

/-- Two rows of slashes one after the other are a row. -/
lemma slashes_append (n k : Nat) : slashes n ++ slashes k = slashes (n + k) := by
  apply String.toList_inj.1
  rw [String.toList_append, toList_slashes, toList_slashes, toList_slashes,
    List.replicate_append_replicate]

/-- More slashes behind a path do not change its directory. -/
lemma trimSlashes_append_slashes (p : String) (n : Nat) :
    trimSlashes (p ++ slashes n) = trimSlashes p := by
  obtain ⟨k, e⟩ := exists_slashes p
  have longer : p ++ slashes n = trimSlashes p ++ slashes (k + n) := by
    conv_lhs => rw [e]
    rw [String.append_assoc, slashes_append]
  rw [longer, trimSlashes_append (getLast?_trimSlashes p)]

/-- With something in front a path begins like that. -/
lemma isAbsolute_append (nonempty : d ≠ "") (rest : String) :
    IsAbsolute (d ++ rest) ↔ IsAbsolute d := by
  have chars : d.toList ≠ [] := fun e => nonempty (String.toList_eq_nil_iff.1 e)
  rw [IsAbsolute, String.toList_append, List.head?_append_of_ne_nil _ chars, IsAbsolute]

/-- A row of slashes is absolute unless it is empty. -/
lemma isAbsolute_slashes (n : Nat) : IsAbsolute (slashes n) ∨ slashes n = "" := by
  cases n with
  | zero => exact .inr rfl
  | succ n => exact .inl (by rw [IsAbsolute, toList_slashes]; rfl)

/-- An executable begins at the root exactly if the path does, or if it is empty. -/
lemma isAbsolute_executable (m : Machine) (p : String) :
    IsAbsolute (m.withPath p).executable ↔ IsAbsolute p ∨ p = "" := by
  obtain ⟨n, e⟩ := exists_slashes p
  rw [executable_withPath, String.append_assoc]
  by_cases root : trimSlashes p = ""
  · -- no directory is left of the path, which is a row of slashes
    rw [root, String.empty_append] at e
    rw [root, String.empty_append, e]
    exact iff_of_true ((isAbsolute_append (by decide) _).2 rfl) (isAbsolute_slashes n)
  · have nonempty : p ≠ "" := by
      rintro rfl
      exact root rfl
    have same : IsAbsolute p ↔ IsAbsolute (trimSlashes p) := by
      conv_lhs => rw [e]
      exact isAbsolute_append root _
    rw [isAbsolute_append root, same, or_iff_left nonempty]

/-- The executable of a machine with a path is its binary in the directory of the path: the path is
this directory, which does not end in a slash, and slashes behind it, and the executable is the
directory, one slash, and the binary. It begins at the root exactly if the path does or is empty, it
ends in a slash and the binary, and no slashes put behind the path change it. -/
theorem executable_in_directory (m : Machine) (p : String) :
    (∃ d n, p = d ++ slashes n ∧ d.toList.getLast? ≠ some '/' ∧
      (m.withPath p).executable = d ++ "/" ++ m.binary) ∧
    (IsAbsolute (m.withPath p).executable ↔ IsAbsolute p ∨ p = "") ∧
    ("/" ++ m.binary).toList <:+ (m.withPath p).executable.toList ∧
    ∀ n, (m.withPath (p ++ slashes n)).executable = (m.withPath p).executable := by
  refine ⟨?_, isAbsolute_executable m p, ?_, ?_⟩
  · obtain ⟨n, e⟩ := exists_slashes p
    exact ⟨trimSlashes p, n, e, getLast?_trimSlashes p, rfl⟩
  · refine ⟨(trimSlashes p).toList, ?_⟩
    rw [← String.toList_append, executable_withPath, String.append_assoc]
  · intro n
    rw [executable_withPath, trimSlashes_append_slashes, executable_withPath]

/-- A path that is empty does not begin at the root, but the executable does. -/
theorem executable_of_empty_path :
    ¬ IsAbsolute "" ∧ (⟨"V", some "", "v", none, none⟩ : Machine).executable = "/v" ∧
      IsAbsolute "/v" := by
  decide

end BenchPlan.Machine
