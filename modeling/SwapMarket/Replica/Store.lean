import SwapMarket.Disk
import SwapMarket.Fault
import SwapMarket.Settings.Basic
import SwapMarket.Swap.Merge

/-!
# The replicas on the disk

The replicas of a network are the files with the extension `db` in the folder of the network
(**`replicaFiles`**). A query runs over the replicas of one network or of all that are configured,
in the order of the settings, and the swaps found are merged.

**`swapsBetween`** gives the swaps finished after one time and not after another. The second bound
is applied after merging: a swap counts at its latest copy, which may be past it.
-/

namespace SwapMarket

/-- Which networks are meant. -/
inductive Networks where
  /-- One network. -/
  | one (netid : Nat)
  /-- All that are configured. -/
  | all
  deriving DecidableEq, Repr

namespace Networks

/-- Reads which networks are meant: the word `all` in any case, or a number of 16 bits. -/
def ofText (s : String) : Result Networks :=
  if (s.toList.map Char.toLower) = ['a', 'l', 'l'] then .ok .all
  else ((Text.readUnsigned 16 s).mapError .integer).map .one

/-- The networks that are meant. -/
def netids (s : Settings) : Networks → List Nat
  | .one n => [n]
  | .all => s.netids

end Networks

/-- The extension of replicas. -/
def replicaExtension : String := "db"

/-- The replicas of a network, by path. -/
def netidReplicas (s : Settings) (d : Disk) (netid : Nat) : List String :=
  let folder := s.netidFolder netid
  let l := Path.components folder
  if !Path.isNameable folder || d.isBlocked l || !d.isFolder l then []
  else
    ((d.names l).filter fun n =>
      Path.hasExtension replicaExtension n && !d.isFolder (l ++ [n])).map (Path.join folder)

/-- The replicas of networks, by path. -/
def replicaFiles (s : Settings) (d : Disk) (n : Networks) : List String :=
  (n.netids s).flatMap (netidReplicas s d)

/-- What a query finds in a file. -/
def queryFile (d : Disk) (q : ReplicaQuery) (path : String) : Result (List Swap) :=
  match d.find? (Path.components path) with
  | some (.replica rows) =>
    match q.run rows with
    | some ss => .ok ss
    | none => .error .replica
  | _ => .error .replica

/-- What a query finds in files, one after the other. -/
def queryFiles (d : Disk) (q : ReplicaQuery) : List String → Result (List Swap)
  | [] => .ok []
  | p :: ps =>
    match queryFile d q p with
    | .error f => .error f
    | .ok ss => (queryFiles d q ps).map (ss ++ ·)

/-- What a query finds in the replicas of networks, merged. -/
def queryReplicas (s : Settings) (d : Disk) (n : Networks) (q : ReplicaQuery) :
    Result (List Swap) :=
  (queryFiles d q (replicaFiles s d n)).map Swap.merge

/-- The swaps finished after `since` and not after `upTo`. -/
def swapsBetween (s : Settings) (d : Disk) (n : Networks) (since upTo : Int) :
    Result (List Swap) :=
  (queryReplicas s d n (.finishedAfter since)).map fun ss => ss.filter fun x => x.finishedAt ≤ upTo

/-- The swaps that finished last in their direction. -/
def lastSwaps (s : Settings) (d : Disk) (n : Networks) : Result (List Swap) :=
  queryReplicas s d n .lastFinished

end SwapMarket
