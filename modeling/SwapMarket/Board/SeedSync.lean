import SwapMarket.Board.Basic

/-!
# Copying replicas

The replicas of all configured networks are copied from another host, one network after the
other. A network that fails does not keep the others from being copied; those that failed are
reported together. What copies a replica is given from outside. **`startCopying`** says whether
this is done again and again.
-/

namespace SwapMarket.Board

/-- What copies the replica of a network onto a disk; nothing if it fails. -/
abbrev Copier := Nat → Disk → Option Disk

/-- Where the copied replica of a network goes. -/
def copyTarget (s : Settings) (netid : Nat) : Location :=
  Path.components (Path.join (s.netidFolder netid) Settings.replicaFile)

/-- Copies the replica of one network into its folder: the disk, and whether it was copied. -/
def syncNetid (s : Settings) (copy : Copier) (d : Disk) (netid : Nat) : Disk × Bool :=
  let folder := s.netidFolder netid
  match if Path.isNameable folder then d.makeFolder (Path.components folder) else none with
  | none => (d, false)
  | some d =>
    match copy netid d with
    | some d => (d, true)
    | none => (d, false)

/-- Copies the replicas of networks: the disk, and the networks that failed. -/
def syncNetids (s : Settings) (copy : Copier) : Disk → List Nat → Disk × List Nat
  | d, [] => (d, [])
  | d, n :: ns =>
    let (d, ok) := syncNetid s copy d n
    let (d, failed) := syncNetids s copy d ns
    (d, if ok then failed else n :: failed)

/-- Copies the replicas of all networks. -/
def syncAll (b : Board) (copy : Copier) : Board × Result Unit :=
  let (d, failed) := syncNetids b.settings copy b.disk b.settings.netids
  ({ b with disk := d },
    if failed = [] then .ok () else .error (.transport (.sync failed)))

/-- The start of the rounds in which replicas are copied: whether there are any. -/
def startCopying (s : Settings) : Run Bool :=
  if s.hasSeed then (Schedule.rounds s.syncInterval).map fun _ => true else .ok false

end SwapMarket.Board
