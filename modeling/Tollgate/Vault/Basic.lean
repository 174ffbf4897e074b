import Tollgate.Vault.Tables

/-! The store as callers meet it, which may be out of order in several ways. -/

namespace Tollgate

/-- A store in memory. -/
structure Vault where
  /-- What it keeps. -/
  tables : Vault.Tables
  /-- No call succeeds. -/
  failing : Bool
  /-- No record of a key's use succeeds. -/
  failingTouch : Bool
  /-- No mapping is seen by those who ask for one. -/
  staleMappings : Bool
  deriving DecidableEq

namespace Vault

/-- A store in order that keeps nothing yet. -/
def empty : Vault := ⟨.empty, false, false, false⟩

/-- The failure of a store that does not respond. -/
def unresponsive : Outage := ⟨"pool timed out while waiting for an open connection"⟩

/-- What a store in order answers to a call, and what it keeps afterwards. -/
def respond (tables : Tables) (staleMappings : Bool) : (call : Call) → call.Answer × Tables
  | .ping => ((), tables)
  | .findKey digest => (tables.keyOf? digest, tables)
  | .touchKey key instant => ((), tables.touch key instant)
  | .findAccount account => (tables.account? account, tables)
  | .listBills account => (tables.billsOf account, tables)
  | .listCards account => (tables.cardsOf account, tables)
  | .sumUsage account since scope => (tables.usedSince account since scope, tables)
  -- A stale view shows no mapping, but a new one is still checked against those that are there.
  | .mappingExists provider model => (!staleMappings && tables.hasMapping provider model, tables)
  | .insertMapping mapping => tables.insertMapping mapping

/-- The call fails in the state the store is in. -/
def refuses (vault : Vault) (call : Call) : Bool :=
  vault.failing ||
    match call with
    | .touchKey _ _ => vault.failingTouch
    | _ => false

/-- Makes a call to the store. -/
def answer (call : Call) (vault : Vault) : call.Outcome × Vault :=
  if vault.refuses call then (.error unresponsive, vault)
  else
    let (answer, tables) := respond vault.tables vault.staleMappings call
    (.ok answer, { vault with tables })

/-- A store behind a switch that lets a limited number of calls through and notes all of them. -/
structure Watched where
  /-- The store. -/
  vault : Vault
  /-- Calls made so far, the latest first. -/
  noted : List Call
  /-- How many more calls are let through, if their number is limited. -/
  allowance : Option Nat
  deriving DecidableEq

/-- Makes a call to a watched store; one that is not let through meets no store at all. -/
def Watched.answer (call : Call) (watched : Watched) : call.Outcome × Watched :=
  -- A call is noted even if it is not let through.
  let watched := { watched with noted := call :: watched.noted }
  match watched.allowance with
  | some 0 => (.error unresponsive, watched)
  | allowance =>
    let (outcome, vault) := Vault.answer call watched.vault
    (outcome, { watched with vault, allowance := allowance.map (· - 1) })

end Vault

end Tollgate
