import SeriesGateway.Archive.Place
import SeriesGateway.Archive.Tree
import SeriesGateway.Jobs
import SeriesGateway.Store.Link
import SeriesGateway.Store.Script

namespace SeriesGateway

/-- All that operations act on, as one value: the network with the store behind it, what is counted,
and the files. -/
structure Scene where
  network : Network := {}
  counters : Counters := {}
  /-- The requests that operations attempted, whether or not they arrived anywhere. -/
  attempts : List (Operation × Request) := []
  tree : Tree := {}
  /-- The directory from which paths start. -/
  home : Place := []
  /-- Which of the jobs in flight completes next, time after time. -/
  choices : List Nat := []

/-- An operation over a scene. -/
abbrev Act := StateM Scene

namespace Scene

/-- Sends what is asked, and counts it. No time passes in a scene. -/
def perform {α : Type} (s : Scene) (ask : Ask α) : α × Scene :=
  let (arrival, network) := s.network.exchange ask.request
  let reading := ask.read arrival
  (reading.answer, { s with
    network
    counters := s.counters.record ask.operation reading 0
    attempts := s.attempts ++ [(ask.operation, ask.request)] })

def create (s : Scene) (p : PathText) : Except Failure Unit × Scene :=
  match s.tree.create s.home p with
  | (true, tree) => (.ok (), { s with tree })
  | (false, tree) => (.error (.storage s!"{p.text} cannot be made"), { s with tree })

def fill (s : Scene) (p : PathText) (content : ByteArray) : Scene :=
  { s with tree := s.tree.put (p.place s.home) (.file content) }

def remove (s : Scene) (p : PathText) : Scene :=
  { s with tree := s.tree.erase (p.place s.home) }

end Scene

instance : StoreLink Act where
  perform ask s := s.perform ask
  counters := Scene.counters <$> get

instance : Shelf Act where
  create p := ExceptT.mk fun s => s.create p
  fill p content := ExceptT.mk fun s => (.ok (), s.fill p content)
  remove p := modify fun s => s.remove p

instance : SideBySide Act where
  completions width jobs := do
    let s ← get
    set { s with choices := s.choices.drop jobs.length }
    (Schedule.completions width s.choices jobs).mapM id

end SeriesGateway
