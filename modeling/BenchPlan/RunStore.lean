import BenchPlan.Run

/-!
# The run store

Runs of all experiments are registered in one store. A run with a key that is registered already is
not registered again: the run that came first is handed out instead. A run that is handed out can
be told from others by its position in the store.
-/

namespace BenchPlan

/-- A registered run. Two of them are one object if their positions agree. -/
structure SharedRun where
  position : Nat
  run : Run
  deriving DecidableEq, Repr, Inhabited

/-- The registered runs in order. -/
structure RunStore where
  runs : List Run
  deriving DecidableEq, Repr, Inhabited

namespace RunStore

/-- The store before anything is registered. -/
def empty : RunStore := ⟨[]⟩

/-- The number of registered runs. -/
def size (s : RunStore) : Nat := s.runs.length

/-- Whether nothing is registered. -/
def isEmpty (s : RunStore) : Bool := s.runs.isEmpty

/-- The registered runs as they are handed out. -/
def objects (s : RunStore) : List SharedRun := s.runs.mapIdx fun i r => ⟨i, r⟩

/-- The registered run with a key. -/
def find? (s : RunStore) (k : RunKey) : Option SharedRun := s.objects.find? fun o => o.run.key == k

/-- The registered run that is the same as `r`, which is registered first if there is none. -/
def register (s : RunStore) (r : Run) : SharedRun × RunStore :=
  match s.find? r.key with
  | some o => (o, s)
  | none => (⟨s.runs.length, r⟩, ⟨s.runs ++ [r]⟩)

end RunStore

end BenchPlan
