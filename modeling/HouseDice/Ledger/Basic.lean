import HouseDice.Ledger.Store

/-!
# The ledger

The accounts of the chain and its clock, which counts slots.
-/

namespace HouseDice

/-- The state of the chain between two transactions. -/
structure Ledger where
  slot : UInt64
  accounts : Store

namespace Ledger

/-- A chain on which only the system program exists. -/
def genesis (slot : UInt64) : Ledger where
  slot := slot
  accounts := Store.empty.set Key.system ⟨1, Key.nativeLoader, []⟩

def get (L : Ledger) (k : Key) : Account := L.accounts.get k

def set (L : Ledger) (k : Key) (a : Account) : Ledger :=
  { L with accounts := L.accounts.set k a }

def setLamports (L : Ledger) (k : Key) (lamports : UInt64) : Ledger :=
  L.set k { L.get k with lamports }

def atSlot (L : Ledger) (slot : UInt64) : Ledger := { L with slot }

/-- The least that an account with this many bytes of data may hold. -/
def rentMinimum (bytes : Nat) : UInt64 := UInt64.ofNat (128 + bytes) * 6960

theorem get_set (L : Ledger) (k j : Key) (a : Account) :
    (L.set k a).get j = if j = k then a.kept else L.get j :=
  L.accounts.get_set k j a

theorem ext_get {L M : Ledger} (hslot : L.slot = M.slot)
    (hget : ∀ k, L.get k = M.get k) :
    L = M := by
  obtain ⟨slot, accounts⟩ := L
  obtain ⟨slot', accounts'⟩ := M
  cases hslot
  exact congrArg (Ledger.mk slot) (Store.ext_get hget)

end Ledger

end HouseDice
