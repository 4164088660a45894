import HouseDice.Address
import Mathlib.Data.Set.Defs

/-!
# Addresses that nobody confuses

There are more purposes than keys, so some two purposes have the same address;
nobody knows two such. A statement about addresses that never collide would be
false of all purposes at once, and it is needed only for those that somebody
uses. So everything about the game as it is played is about a set `S` of
purposes, as large as one likes, that is `Apart`: no two purposes of `S` have
one address.

Of a purpose outside `S` nothing is assumed and nothing is said.
-/

namespace HouseDice.Address

variable {S : Set Purpose} {p q : Purpose} {j k : Key}

/-- `k` is the address of the purpose `p`, which is one of `S`. -/
def Of (S : Set Purpose) (p : Purpose) (k : Key) : Prop :=
  p ∈ S ∧ ∃ bump, find? p = some (k, bump)

/-- `k` is the address of one of the purposes of `S`. -/
def Derived (S : Set Purpose) (k : Key) : Prop := ∃ p, Of S p k

/-- No two purposes of `S` have one address. -/
def Apart (S : Set Purpose) : Prop := ∀ p q k, Of S p k → Of S q k → p = q

theorem Of.derived (h : Of S p k) : Derived S k := ⟨p, h⟩

theorem Of.unique (hj : Of S p j) (hk : Of S p k) : j = k := by
  obtain ⟨_, b, hb⟩ := hj
  obtain ⟨_, c, hc⟩ := hk
  exact congrArg Prod.fst (Option.some.inj (hb.symm.trans hc))

theorem Apart.ne (hS : Apart S) (hj : Of S p j) (hk : Of S q k) (hpq : p ≠ q) :
    j ≠ k := by
  rintro rfl
  exact hpq (hS p q j hj hk)

/-! The address of a pool or a vault tells whose it is, and the address of a bet
against which vault. -/

theorem Apart.pool_inj (hS : Apart S) {h h' : Key} (hk : Of S (.pool h) k)
    (hk' : Of S (.pool h') k) : h = h' := by
  have heq := hS _ _ k hk hk'
  injection heq

theorem Apart.vault_inj (hS : Apart S) {h h' : Key} (hk : Of S (.vault h) k)
    (hk' : Of S (.vault h') k) : h = h' := by
  have heq := hS _ _ k hk hk'
  injection heq

theorem Apart.bet_inj (hS : Apart S) {v v' : Key} {seed seed' : Seed}
    (hk : Of S (.bet v seed) k) (hk' : Of S (.bet v' seed') k) : v = v' := by
  have heq := hS _ _ k hk hk'
  injection heq

theorem Of.ne_of_not_derived (hk : Of S p k) (hj : ¬ Derived S j) : j ≠ k := by
  rintro rfl
  exact hj hk.derived

/-! ## Tables of addresses -/

/-- The purposes that a table lists. -/
def Known (table : List (Purpose × Key)) : Set Purpose :=
  fun p => p ∈ table.map Prod.fst

variable {table : List (Purpose × Key)}

theorem mem_of_known (hfind : ∀ e ∈ table, (find? e.1).map Prod.fst = some e.2)
    (h : Of (Known table) p k) : (p, k) ∈ table := by
  obtain ⟨hp, bump, hk⟩ := h
  obtain ⟨e, he, rfl⟩ := List.mem_map.1 hp
  have heq := hfind e he
  rw [hk, Option.map_some, Option.some.injEq] at heq
  have hpair : (e.1, k) = e := Prod.ext rfl heq
  rw [hpair]
  exact he

/-- A table without repeated addresses lists purposes that are apart. -/
theorem apart_known (hfind : ∀ e ∈ table, (find? e.1).map Prod.fst = some e.2)
    (hkeys : ∀ e ∈ table, ∀ e' ∈ table, e.2 = e'.2 → e.1 = e'.1) :
    Apart (Known table) := by
  intro p q k hp hq
  exact hkeys _ (mem_of_known hfind hp) _ (mem_of_known hfind hq) rfl

theorem mem_of_derived_known
    (hfind : ∀ e ∈ table, (find? e.1).map Prod.fst = some e.2)
    (h : Derived (Known table) k) : k ∈ table.map Prod.snd := by
  obtain ⟨p, hp⟩ := h
  exact List.mem_map.2 ⟨(p, k), mem_of_known hfind hp, rfl⟩

end HouseDice.Address
