import RoadSketch.Network.Basic

/-!
# Building networks

A network is built from the empty one by calls that add junctions and edges and say which edges go
back. A call that adds something gives back the name of it, and later calls pass such names.
-/
namespace RoadSketch

variable {α : Type}

/-- A call that builds a network. -/
inductive BuildCall (α : Type) where
  | addJunction (shape : Polyline α)
  | addEdge (source target : JunctionId) (lanes : List (Lane α))
  | setTurnaround (id other : EdgeId)
  deriving Repr

/-- What a call gives back. -/
inductive BuildReply where
  | junction (id : JunctionId)
  | edge (id : EdgeId)
  | done
  deriving DecidableEq, Repr

structure BuildEvent (α : Type) where
  call : BuildCall α
  reply : BuildReply
  deriving Repr

/-- A network that is being built, with the calls made so far, in order. -/
structure Building (α : Type) where
  network : Network α
  history : List (BuildEvent α)
  deriving Repr

namespace Building

def empty : Building α := ⟨.empty, []⟩

def record (building : Building α) (call : BuildCall α) (reply : BuildReply)
    (network : Network α) : Building α :=
  ⟨network, building.history ++ [⟨call, reply⟩]⟩

/-- Makes a call. -/
def make (building : Building α) (call : BuildCall α) : Checked α (Building α) :=
  match call with
  | .addJunction shape =>
    let (id, network) := building.network.addJunction shape
    return building.record call (.junction id) network
  | .addEdge source target lanes =>
    let (id, network) := building.network.addEdge source target lanes
    return building.record call (.edge id) network
  | .setTurnaround id other =>
    return building.record call .done (← building.network.setTurnaround id other)

def makeAll (building : Building α) (calls : List (BuildCall α)) : Checked α (Building α) :=
  calls.foldlM make building

def gave (building : Building α) (reply : BuildReply) : Bool :=
  building.history.any (·.reply = reply)

/-- Was every name that a call passes given back by a call before it? -/
def knows (building : Building α) : BuildCall α → Bool
  | .addJunction _ => true
  | .addEdge source target _ => building.gave (.junction source) && building.gave (.junction target)
  | .setTurnaround id other => building.gave (.edge id) && building.gave (.edge other)

/-- Do all calls pass only names that calls before them gave back? -/
def knowsAll (building : Building α) : List (BuildCall α) → Bool
  | [] => true
  | call :: rest =>
    building.knows call &&
      match building.make call with
      | .ok next => next.knowsAll rest
      | .error _ => true

end Building

end RoadSketch
