import DnsBalancer.Metrics.Series

/-!
# What is counted

Every family of series that is kept, and one operation for each kind of event. The
values of a row stand in the order in which the family lists its labels.
-/
namespace DnsBalancer

/-- How many of each are configured. -/
structure Inventory where
  zones : Nat := 0
  records : Nat := 0
  backends : Nat := 0
  checks : Nat := 0
  deriving DecidableEq, Repr, Inhabited

structure Metrics where
  /-- By record, address: whether the latest cycle found the backend alive. -/
  healthy : Series Bool := ∅
  /-- By record, address. -/
  selected : Series Nat := ∅
  /-- By result. -/
  reloads : Series Nat := ∅
  /-- By record, kind of check, address, result. -/
  checkTimes : Series Histogram := ∅
  /-- By kind of check, address, class of fault. -/
  checkFailures : Series Nat := ∅
  /-- By record, outcome. -/
  resolutionTimes : Series Histogram := ∅
  /-- By record, outcome. -/
  resolutions : Series Nat := ∅
  inventory : Inventory := {}
  deriving Inhabited

namespace Metrics

/-- Nothing is counted yet, and the rows of all families are going to be known by this key. -/
def keyed (key : RowKey) : Metrics where
  healthy := .empty key
  selected := .empty key
  reloads := .empty key
  checkTimes := .empty key
  checkFailures := .empty key
  resolutionTimes := .empty key
  resolutions := .empty key

def resultLabel (ok : Bool) : String := if ok then "success" else "fail"

def checkFailed (m : Metrics) (check address reason : String) : Metrics :=
  { m with checkFailures := m.checkFailures.count [check, address, reason] }

def checkObserved (m : Metrics) (record check address : String) (ok : Bool) (d : Duration) :
    Metrics :=
  { m with
    checkTimes := m.checkTimes.update [record, check, address, resultLabel ok] .empty
      (·.observe d) }

def setHealthy (m : Metrics) (record address : String) (alive : Bool) : Metrics :=
  { m with healthy := m.healthy.insert [record, address] alive }

/-- Forgets a backend's health; what was counted stays. -/
def removeBackend (m : Metrics) (record address : String) : Metrics :=
  { m with healthy := m.healthy.erase [record, address] }

def backendSelected (m : Metrics) (record address : String) : Metrics :=
  { m with selected := m.selected.count [record, address] }

def resolved (m : Metrics) (record outcome : String) (d : Duration) : Metrics :=
  { m with
    resolutions := m.resolutions.count [record, outcome]
    resolutionTimes := m.resolutionTimes.update [record, outcome] .empty (·.observe d) }

def reloaded (m : Metrics) (ok : Bool) : Metrics :=
  { m with reloads := m.reloads.count [resultLabel ok] }

def setInventory (m : Metrics) (inventory : Inventory) : Metrics := { m with inventory }

end Metrics

end DnsBalancer
