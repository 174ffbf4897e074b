import Tollgate.Digest.Sha256
import Tollgate.Vault.Dialogue

/-! The store kept in memory: its tables, and what is read from them and written to them. -/

namespace Tollgate.Vault

/-- A key as it is stored, by the digest of its token. -/
structure KeyRow where
  /-- Digest of the token. -/
  digest : String
  /-- When the key was used last, as far as that was recorded. -/
  lastUsed : Option Instant
  /-- The key itself. -/
  key : AccessKey
  deriving DecidableEq

/-- Everything the store keeps, each table in the order of insertion. -/
structure Tables where
  /-- Accounts. -/
  accounts : List Account
  /-- Keys. -/
  keys : List KeyRow
  /-- Bills with the accounts they are for. -/
  bills : List (AccountId × Bill)
  /-- Prepaid cards with the accounts that own them. -/
  cards : List (AccountId × Card)
  /-- Records of use. -/
  usage : List Use
  /-- Mappings of model names. -/
  mappings : List Mapping
  deriving DecidableEq

namespace Tables

/-- A store that keeps nothing yet. -/
def empty : Tables := ⟨[], [], [], [], [], []⟩

/-- Changes the first entry of a list that meets a condition. -/
def changeFirst {Entry : Type} (wanted : Entry → Bool) (change : Entry → Entry) :
    List Entry → List Entry
  | [] => []
  | entry :: rest =>
    if wanted entry then change entry :: rest else entry :: changeFirst wanted change rest

/-- Opens an account, unless its identity is taken. -/
def addAccount (tables : Tables) (account : Account) : Tables :=
  if tables.accounts.any (·.id == account.id) then tables
  else { tables with accounts := tables.accounts ++ [account] }

/-- Disables an account, or enables it again. -/
def setDisabled (tables : Tables) (account : AccountId) (disabled : Bool) : Tables :=
  -- Identities are never given twice, so the first account of an identity is the only one.
  { tables with
    accounts := changeFirst (·.id == account) (fun found => { found with disabled })
      tables.accounts }

/-- Stores a key under the digest of its token, unless its identity is taken. -/
def addKey (tables : Tables) (token : String) (key : AccessKey) : Tables :=
  if tables.keys.any (·.key.id == key.id) then tables
  else { tables with keys := tables.keys ++ [⟨Digest.ofToken token, none, key⟩] }

/-- Changes a key. -/
def changeKey (tables : Tables) (key : KeyId) (change : AccessKey → AccessKey) : Tables :=
  { tables with
    keys := changeFirst (·.key.id == key) (fun row => { row with key := change row.key })
      tables.keys }

/-- Withdraws a key for good. -/
def revoke (tables : Tables) (key : KeyId) : Tables :=
  tables.changeKey key fun found => { found with revoked := true }

/-- Switches a key off. -/
def deactivate (tables : Tables) (key : KeyId) : Tables :=
  tables.changeKey key fun found => { found with active := false }

/-- Records that a key has been used. -/
def touch (tables : Tables) (key : KeyId) (instant : Instant) : Tables :=
  { tables with
    keys := changeFirst (·.key.id == key) (fun row => { row with lastUsed := some instant })
      tables.keys }

/-- Adds a bill for an account. -/
def addBill (tables : Tables) (account : AccountId) (bill : Bill) : Tables :=
  { tables with bills := tables.bills ++ [(account, bill)] }

/-- Adds a prepaid card of an account. -/
def addCard (tables : Tables) (account : AccountId) (card : Card) : Tables :=
  { tables with cards := tables.cards ++ [(account, card)] }

/-- Adds a record of use. -/
def addUse (tables : Tables) (use : Use) : Tables :=
  { tables with usage := tables.usage ++ [use] }

/-- Adds a mapping, whatever mappings there are. -/
def addMapping (tables : Tables) (mapping : Mapping) : Tables :=
  { tables with mappings := tables.mappings ++ [mapping] }

/-- The first key stored under a digest. -/
def keyOf? (tables : Tables) (digest : String) : Option AccessKey :=
  -- Tokens may be repeated, and then the key that was issued first counts.
  (tables.keys.find? (·.digest == digest)).map (·.key)

/-- The account with an identity. -/
def account? (tables : Tables) (account : AccountId) : Option Account :=
  tables.accounts.find? (·.id == account)

/-- The bills for an account. -/
def billsOf (tables : Tables) (account : AccountId) : List Bill :=
  (tables.bills.filter (·.1 == account)).map (·.2)

/-- The prepaid cards of an account. -/
def cardsOf (tables : Tables) (account : AccountId) : List Card :=
  (tables.cards.filter (·.1 == account)).map (·.2)

/-- What an account has used since an instant, in a scope. -/
def usedSince (tables : Tables) (account : AccountId) (since : Instant) (scope : Scope) : Amount :=
  -- The amounts are added as they come, and go round at the ends of their range.
  ((tables.usage.filter (·.counts account since scope)).map (·.cost)).foldl (· + ·) 0

/-- A provider's model has a mapping, as a name for clients or as what such a name stands for. -/
def hasMapping (tables : Tables) (provider model : String) : Bool :=
  tables.mappings.any (·.mentions provider model)

/-- Adds a mapping unless its name has one, and tells whether it was added. -/
def insertMapping (tables : Tables) (mapping : Mapping) : Bool × Tables :=
  -- Only names that clients use are compared here; what they stand for is not.
  if tables.mappings.any (·.sameSource mapping) then (false, tables)
  else (true, tables.addMapping mapping)

/-- The key has a record of having been used. -/
def everUsed (tables : Tables) (key : KeyId) : Bool :=
  ((tables.keys.find? (·.key.id == key)).bind (·.lastUsed)).isSome

end Tables

end Tollgate.Vault
