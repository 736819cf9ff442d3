import Osds.Lib.Dict

namespace Osds.Tenants.Secrets

-- The cipher under the deployment's key. No two tokens need be the same.
structure Fernet where
  encrypt : Nat → String → String
  decrypt : String → Option String
  opens : ∀ nonce plaintext, decrypt (encrypt nonce plaintext) = some plaintext

structure Slot where
  tenant : Option Nat
  key : String
  deriving DecidableEq

abbrev Table := List (Slot × String)

def secretName (adapterId key : String) : String := adapterId ++ "_" ++ key

section table

variable (fernet : Fernet) (rows : Table) (key : String)

-- None is a `ConfigurationError`.
def getSecret (tenant : Option Nat) : Option String :=
  match tenant.bind fun tenant => rows.lookup ⟨some tenant,key⟩ with
  | some ciphertext => fernet.decrypt ciphertext
  | none => (rows.lookup ⟨none,key⟩).bind fernet.decrypt

def setSecret (nonce : Nat) (value : String) (tenant : Option Nat) : Table :=
  Dict.set rows (⟨tenant,key⟩,some (fernet.encrypt nonce value))

def hasSecret (tenant : Nat) : Bool := (rows.lookup ⟨some tenant,key⟩).isSome

def deleteSecret (tenant : Nat) : Table := Dict.set rows (⟨some tenant,key⟩,none)

end table

section laws

variable {fernet : Fernet} {rows : Table} {key other : String}

def own (fernet : Fernet) (rows : Table) (key : String) (tenant : Nat) : Option (Option String) :=
  (rows.lookup ⟨some tenant,key⟩).map fernet.decrypt

theorem has_own (fernet : Fernet) (rows : Table) (key : String) (tenant : Nat) :
    hasSecret rows key tenant = (own fernet rows key tenant).isSome := by
  simp [hasSecret,own]

-- The deployment's secret is not asked for where the tenant has its own.
theorem get_own {tenant : Nat} (listed : own fernet rows key tenant = some opened) : getSecret fernet rows key (some tenant) = opened := by
  obtain ⟨ciphertext,found,rfl⟩ := Option.map_eq_some_iff.mp listed
  simp [getSecret,found]

theorem own_set (nonce : Nat) (value : String) (tenant : Nat) :
    own fernet (setSecret fernet rows key nonce value (some tenant)) other tenant =
      if other = key then some (some value) else own fernet rows other tenant := by
  by_cases same : other = key
  · simp [own,setSecret,Dict.lookup_set,same,fernet.opens]
  · simp [own,setSecret,Dict.lookup_set,same]

theorem own_delete (tenant : Nat) :
    own fernet (deleteSecret rows key tenant) other tenant = if other = key then none else own fernet rows other tenant := by
  by_cases same : other = key
  · simp [own,deleteSecret,Dict.lookup_set,same]
  · simp [own,deleteSecret,Dict.lookup_set,same]

end laws

end Osds.Tenants.Secrets
