
namespace BatchScaler

structure Tally where
  entries : List (String × Int) := []
  deriving DecidableEq, Repr

namespace Tally

def count (t : Tally) (key : String) : Int :=
  (t.entries.lookup key).getD 0

def addTo (key : String) (amount : Int) : List (String × Int) → List (String × Int)
  | [] => [(key, amount)]
  | (k, n) :: rest =>
    if k = key then (k, n + amount) :: rest
    else if key < k then (key, amount) :: (k, n) :: rest
    else (k, n) :: addTo key amount rest

def add (t : Tally) (key : String) (amount : Int) : Tally :=
  ⟨addTo key amount t.entries⟩

end Tally

structure Metrics where
  counters : Tally := {}
  timings : Tally := {}
  deriving DecidableEq, Repr

namespace Metrics

def increment (m : Metrics) (key : String) (amount : Int) : Metrics :=
  { m with counters := m.counters.add key amount }

def time (m : Metrics) (key : String) : Metrics :=
  { m with timings := m.timings.add key 1 }

/-- Takes one duration under each of several nested keys, the outermost first in the list. A block
that fails takes as long as it took. -/
def timeNested (m : Metrics) (keys : List String) : Metrics :=
  keys.foldr (fun key m => m.time key) m

end Metrics

end BatchScaler
