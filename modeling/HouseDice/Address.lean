import HouseDice.Curve
import HouseDice.Hash.Sha256
import HouseDice.Key
import HouseDice.Layout

/-!
# Derived addresses

The accounts of the game have no private key. Their addresses are digests of
what they are for, and a digest counts as an address only if it is no point of
the curve, so that nobody can hold a key for it. A bump byte is varied until
that is so; counting down from 255, the first bump that works gives the address
that the game uses.
-/

namespace HouseDice

/-- The number by which a player tells bets apart. -/
abbrev Seed := BitVec 128

/-- What a derived address is for. -/
inductive Purpose where
  /-- The state of a house's pool. -/
  | pool (house : Key)
  /-- The lamports of a house's pool. -/
  | vault (house : Key)
  /-- One bet against the house with this vault. -/
  | bet (vault : Key) (seed : Seed)
deriving DecidableEq

namespace Purpose

def poolLabel : Bytes := [0x70, 0x6f, 0x6f, 0x6c]

def vaultLabel : Bytes := [0x76, 0x61, 0x75, 0x6c, 0x74]

def betLabel : Bytes := [0x62, 0x65, 0x74]

def bytes : Purpose → Bytes
  | .pool house => poolLabel ++ house.bytes
  | .vault house => vaultLabel ++ house.bytes
  | .bet v seed => betLabel ++ v.bytes ++ Layout.u128.write seed

end Purpose

namespace Address

/-- The letters `ProgramDerivedAddress`, which set these digests apart from all
others. -/
def marker : Bytes :=
  [0x50, 0x72, 0x6f, 0x67, 0x72, 0x61, 0x6d, 0x44, 0x65, 0x72, 0x69, 0x76, 0x65,
   0x64, 0x41, 0x64, 0x64, 0x72, 0x65, 0x73, 0x73]

/-- The address for a purpose with this bump, unless somebody could hold its
key. -/
def create? (purpose : Purpose) (bump : UInt8) : Option Key :=
  let digest :=
    Sha256.digest (purpose.bytes ++ [bump] ++ Key.game.bytes ++ marker)
  if Curve.isPoint digest then none else some digest

/-- The bumps in the order in which they are tried. -/
def bumps : List UInt8 := (List.range 255).map fun i => UInt8.ofNat (255 - i)

/-- The address for a purpose, with its bump. -/
def find? (purpose : Purpose) : Option (Key × UInt8) :=
  bumps.findSome? fun bump => (create? purpose bump).map fun key => (key, bump)

/-- The address that is found is the one its bump creates. -/
theorem create?_of_find? {purpose : Purpose} {key : Key} {bump : UInt8}
    (h : find? purpose = some (key, bump)) :
    create? purpose bump = some key := by
  obtain ⟨b, _, hb⟩ := List.exists_of_findSome?_eq_some h
  obtain ⟨k, hk, heq⟩ := Option.map_eq_some_iff.1 hb
  cases heq
  exact hk

end Address

end HouseDice
