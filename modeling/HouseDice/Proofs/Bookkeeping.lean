import HouseDice.Proofs.Reachable

/-!
# Bookkeeping

The program keeps no list of its bets. It trusts a pool's counters, and each
call about a bet trusts what one account says of the others. Both are right in
every reachable ledger: the accounts of the program are pools and bets at their
own addresses and nothing else, and a pool counts exactly the bets that name it.
-/

namespace HouseDice

open Address

variable {S : Set Purpose} {L : Ledger}

/-- The account under `k` is the pool `p`, at the address of its house's pool,
and it names the address of its house's vault. -/
structure Ledger.HoldsPool (L : Ledger) (k : Key) (p : Pool) : Prop where
  data : (L.get k).data = Pool.record.encode p
  find : find? (.pool p.house) = some (k, p.bump)
  vault : find? (.vault p.house) = some (p.vault, p.vaultBump)

/-- The account under `k` is the bet `b` against the pool `p`, at the address
for the bet's seed under the vault of the pool's house. -/
structure Ledger.HoldsBet (L : Ledger) (k : Key) (b : Bet)
    (p : Pool) : Prop where
  data : (L.get k).data = Bet.record.encode b
  pool : L.pool? b.pool = some p
  poolFind : find? (.pool p.house) = some (b.pool, p.bump)
  vaultFind : find? (.vault p.house) = some (p.vault, p.vaultBump)
  find : find? (.bet p.vault b.seed) = some (k, b.bump)
  player : b.player ≠ Key.system
  amount : 0 < b.amount
  roll : 1 ≤ b.roll ∧ b.roll ≤ 99
  slot : b.slot ≤ L.slot

/-- The counters of the pool `p` under `P` are what the bets that name `P` come
to. -/
structure Ledger.Counts (L : Ledger) (P : Key) (p : Pool) : Prop where
  openBets : p.openBets.toNat = (L.betsOn P).length
  lockedStakes : p.lockedStakes.toNat
    = ((L.betsOn P).map fun b => b.amount.toNat).sum
  totals : p.totalRefunded.toNat + p.lockedStakes.toNat ≤ p.totalWagered.toNat

theorem Ledger.tally_one (L : Ledger) (P : Key) :
    L.tally P (fun _ => 1) = (L.betsOn P).length := by
  rw [tally, List.map_const', List.sum_replicate_nat, Nat.mul_one]

namespace Sound

theorem holdsPool (hL : Sound S L) {k : Key} {p : Pool}
    (hdata : (L.get k).data = Pool.record.encode p) (hp : L.pool? k = some p) :
    L.HoldsPool k p :=
  ⟨hdata, (hL.pool k p hp).stands.find, (hL.pool k p hp).stands.vaultFind⟩

theorem holdsBet (hL : Sound S L) {k : Key} {b : Bet}
    (hdata : (L.get k).data = Bet.record.encode b) (hb : L.bet? k = some b) :
    ∃ p, L.HoldsBet k b p := by
  obtain ⟨⟨p, hp, hstands⟩, hslot⟩ := hL.bet k b hb
  obtain ⟨hamount, hroll⟩ := Game.validate_eq_ok_iff.1 hstands.valid
  have hpool := (hL.pool b.pool p hp).stands
  exact ⟨p, hdata, hp, hpool.find, hpool.vaultFind, hstands.find,
    hstands.player, hamount, hroll, hslot⟩

theorem counts (hL : Sound S L) {P : Key} {p : Pool} (hp : L.pool? P = some p) :
    L.Counts P p := by
  have hgood := hL.pool P p hp
  refine ⟨?_, hgood.lockedStakes, hgood.refunded⟩
  rw [hgood.openBets, L.tally_one]

end Sound

/-- In every reachable ledger the program's accounts are pools and bets that are
what they say, and every pool counts the bets that name it. -/
theorem Ledger.Reachable.books_agree (hS : Apart S) (hL : L.Reachable S) :
    (∀ k, (L.get k).owner = Key.game →
        (∃ p, L.HoldsPool k p) ∨ ∃ b p, L.HoldsBet k b p)
      ∧ ∀ P p, L.pool? P = some p → L.Counts P p := by
  have hsound := hL.sound hS
  refine ⟨fun k hk => ?_, fun P p hp => hsound.counts hp⟩
  rcases hsound.stored k hk with ⟨p, hdata⟩ | ⟨b, hdata⟩
  · have hp : L.pool? k = some p := Account.stored?_of_data hk hdata
    exact .inl ⟨p, hsound.holdsPool hdata hp⟩
  · have hb : L.bet? k = some b := Account.stored?_of_data hk hdata
    obtain ⟨p, hholds⟩ := hsound.holdsBet hdata hb
    exact .inr ⟨b, p, hholds⟩

/-- After the first run the pool counts one bet, and its stake is locked. -/
theorem books_agree_first_run :
    (Sample.ledger.betsOn Sample.pool).length = 1
      ∧ ((Sample.ledger.betsOn Sample.pool).map fun b => b.amount.toNat).sum
        = 1000000 := by
  obtain ⟨_, hcounts⟩ :=
    Ledger.Reachable.books_agree Sample.apart Sample.reachable
  have hpool := hcounts _ _ Sample.stored.1
  exact ⟨hpool.openBets.symm, hpool.lockedStakes.symm⟩

end HouseDice
