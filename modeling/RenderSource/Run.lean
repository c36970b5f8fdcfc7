import RenderSource.Fault
/-!
Steps on a store. A step gives a result or fails, and keeps its changes to the store also when it
fails.
-/
namespace RenderSource

abbrev Run := ExceptT Fault (StateM Store)

namespace Run

def look (f : Store → Except Fault α) : Run α := fun st => (f st, st)

def change (f : Store → Except Fault α × Store) : Run α := f

def ofExcept (r : Except Fault α) : Run α := look fun _ => r

def allocate (c : Cell) : Run Value := change fun st => let (v, st) := st.add c; (.ok v, st)

def update (f : Store → Store) : Run Unit := change fun st => (.ok (), f st)

/-- Goes on with `handle` where a step fails with a fault that `handle` knows. -/
def recover (r : Run α) (handle : Fault → Option (Run α)) : Run α := fun st =>
  match r st with
  | (.error e, st') => match handle e with
    | some h => h st'
    | none => (.error e, st')
  | done => done

end Run

end RenderSource
