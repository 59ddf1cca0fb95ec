import SearchBox.Grid

/- The calls by which a grid is set up. A call works on the grid itself and may be refused on the way: what
   it did to the grid before that point is not taken back. -/
namespace SearchBox

inductive GridMethod where
  | quickSearch (args : List Definition) (position : Definition)
  | column (args : List Definition)
  | searchKey (given : Definition)

/-- Names, labels and keys are plain values; anything else counts for none of them. -/
def Definition.plainValue : Definition → Datum
  | .plain d => d
  | .list _ | .tuple _ | .callback _ | .spec _ => .null

abbrev GridWork := EStateM Fault Grid

namespace GridWork

def quickSearch (args : List Definition) (position : Definition) : GridWork Unit := do
  let (args, position) := Grid.splitPosition args position
  let spec ← ofExcept (Search.ofArguments args)
  modify fun g => { g with search := some spec }
  modify fun g => { g with position := position }

def column (args : List Definition) : GridWork Unit := do
  let c ← ofExcept (Grid.columnOfArguments (args.map Definition.plainValue))
  modify fun g => { g with columns := g.columns ++ [c] }

def searchKey (given : Definition) : GridWork Unit := do
  let key ← ofExcept (SearchKey.make given.plainValue)
  modify fun g => { g with key := key }

def perform : GridMethod → GridWork Unit
  | .quickSearch args position => quickSearch args position
  | .column args => column args
  | .searchKey given => searchKey given

end GridWork

namespace Grid

def step (g : Grid) (m : GridMethod) : Grid × Option Fault :=
  match (GridWork.perform m).run g with
  | .ok _ next => (next, none)
  | .error fault next => (next, some fault)

def run (g : Grid) (calls : List GridMethod) : Grid := calls.foldl (fun g m => (g.step m).1) g

end Grid
end SearchBox
