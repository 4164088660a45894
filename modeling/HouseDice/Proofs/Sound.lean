import HouseDice.Call.Table
import HouseDice.Proofs.Ledger.Stored
import HouseDice.Proofs.Run

/-!
# Sound ledgers

What the program believes of the accounts it is given, it believes because of
what stands in them: a pool says which vault is its own, a bet says which pool
it is against and under which seed it is filed. `Sound` says that what stands in
the accounts is true. Every account of the program is a pool or a bet, at the
address for which it was opened, and the counters of a pool are the number and
the sum of the bets that name it.

One clause is about money. A vault holds its rent floor and every locked stake,
because a win is covered from what is spendable plus the winner's own stake, and
that stake stops being locked in the same step.

The clauses are one invariant and not several. That a vault is not somebody's
bet follows from where bets stand; that a closed bet's stake is still there
follows from the counters; and both are needed to see that the next step keeps
all of it.
-/

namespace HouseDice

open Address

/-! ## Pools and bets -/

/-- A pool stored at the address of its house's pool, which names its house's
vault. -/
structure Pool.Stands (S : Set Purpose) (P : Key) (p : Pool) : Prop where
  mem : Purpose.pool p.house ∈ S
  find : find? (.pool p.house) = some (P, p.bump)
  vaultMem : Purpose.vault p.house ∈ S
  vaultFind : find? (.vault p.house) = some (p.vault, p.vaultBump)

/-- A bet stored at the address for its seed under the vault `V`, on terms that
were accepted. -/
structure Bet.Stands (S : Set Purpose) (V B : Key) (b : Bet) : Prop where
  mem : Purpose.bet V b.seed ∈ S
  find : find? (.bet V b.seed) = some (B, b.bump)
  player : b.player ≠ Key.system
  notDerived : ¬ Derived S b.player
  valid : Game.validate b.amount b.roll = .ok ()
  payable : ∃ most, Game.maxPayout b.amount b.roll = .ok most

theorem Pool.Stands.pool {S : Set Purpose} {P : Key} {p : Pool}
    (h : p.Stands S P) :
    Of S (.pool p.house) P := ⟨h.mem, p.bump, h.find⟩

theorem Pool.Stands.vault {S : Set Purpose} {P : Key} {p : Pool}
    (h : p.Stands S P) :
    Of S (.vault p.house) p.vault := ⟨h.vaultMem, p.vaultBump, h.vaultFind⟩

theorem Bet.Stands.bet {S : Set Purpose} {V B : Key} {b : Bet}
    (h : b.Stands S V B) :
    Of S (.bet V b.seed) B := ⟨h.mem, b.bump, h.find⟩

/-! ## The invariant -/

/-- What is true of a pool under the key `P`. -/
structure Ledger.GoodPool (S : Set Purpose) (L : Ledger) (P : Key)
    (p : Pool) : Prop where
  stands : p.Stands S P
  vaultOwner : (L.get p.vault).owner = Key.system
  vaultData : (L.get p.vault).data = []
  openBets : p.openBets.toNat = L.tally P fun _ => 1
  lockedStakes : p.lockedStakes.toNat = L.tally P fun b => b.amount.toNat
  refunded : p.totalRefunded.toNat + p.lockedStakes.toNat ≤ p.totalWagered.toNat
  backed : Call.rentFloor.toNat + p.lockedStakes.toNat
    ≤ (L.get p.vault).lamports.toNat

/-- What is true of a bet under the key `B`. -/
structure Ledger.GoodBet (S : Set Purpose) (L : Ledger) (B : Key)
    (b : Bet) : Prop where
  pool : ∃ p, L.pool? b.pool = some p ∧ b.Stands S p.vault B
  slot : b.slot ≤ L.slot

/-- Every account of the program is what it says, and every pool counts
right. -/
structure Sound (S : Set Purpose) (L : Ledger) : Prop where
  stored : ∀ k, (L.get k).owner = Key.game →
    (∃ p, (L.get k).data = Pool.record.encode p)
      ∨ ∃ b, (L.get k).data = Bet.record.encode b
  pool : ∀ P p, L.pool? P = some p → L.GoodPool S P p
  bet : ∀ B b, L.bet? B = some b → L.GoodBet S B b

variable {S : Set Purpose} {L M : Ledger}

theorem Account.pool?_or_bet? {a : Account} (howner : a.owner = Key.game)
    (h : (∃ p, a.data = Pool.record.encode p)
      ∨ ∃ b, a.data = Bet.record.encode b) :
    (∃ p, a.pool? = some p) ∨ ∃ b, a.bet? = some b := by
  rcases h with ⟨p, hp⟩ | ⟨b, hb⟩
  · exact .inl ⟨p, Account.stored?_of_data howner hp⟩
  · exact .inr ⟨b, Account.stored?_of_data howner hb⟩

theorem Sound.derived_of_owner (hL : Sound S L) {k : Key}
    (h : (L.get k).owner = Key.game) :
    Derived S k := by
  rcases Account.pool?_or_bet? h (hL.stored k h) with ⟨p, hp⟩ | ⟨b, hb⟩
  · exact (hL.pool k p hp).stands.pool.derived
  · obtain ⟨p, _, hb⟩ := (hL.bet k b hb).pool
    exact hb.bet.derived

theorem Sound.length_of_pool? (hL : Sound S L) {P : Key} {p : Pool}
    (h : L.pool? P = some p) :
    (L.get P).data.length = Pool.record.size := by
  rcases hL.stored P (Account.owner_of_stored? h) with ⟨q, hq⟩ | ⟨b, hb⟩
  · rw [hq, Record.length_encode]
  · obtain ⟨_, rest, hdata⟩ := Account.stored?_eq_some_iff.1 h
    rw [hb, ← List.append_nil (Bet.record.encode b)] at hdata
    exact absurd hdata.symm (Record.encode_pool_ne_bet p b rest [])

theorem Sound.length_of_bet? (hL : Sound S L) {B : Key} {b : Bet}
    (h : L.bet? B = some b) :
    (L.get B).data.length = Bet.record.size := by
  rcases hL.stored B (Account.owner_of_stored? h) with ⟨p, hp⟩ | ⟨b', hb'⟩
  · obtain ⟨_, rest, hdata⟩ := Account.stored?_eq_some_iff.1 h
    rw [hp, ← List.append_nil (Pool.record.encode p)] at hdata
    exact absurd hdata (Record.encode_pool_ne_bet p b [] rest)
  · rw [hb', Record.length_encode]

theorem Sound.pool_unique (hL : Sound S L) {P Q : Key} {p q : Pool}
    (hp : L.pool? P = some p) (hq : L.pool? Q = some q)
    (h : p.house = q.house) : P = Q := by
  have hq' := (hL.pool Q q hq).stands.pool
  rw [← h] at hq'
  exact (hL.pool P p hp).stands.pool.unique hq'

/-- A ledger that the program has not touched has nothing to be wrong about. -/
theorem Sound.of_untouched (h : L.Untouched) : Sound S L where
  stored k hk := absurd hk (h k)
  pool P _ hp := absurd (Account.owner_of_stored? hp) (h P)
  bet B _ hb := absurd (Account.owner_of_stored? hb) (h B)

/-! ## What does not concern the program -/

/-- A pool stays good as long as its vault has not become less and the same bets
name it. -/
theorem Ledger.GoodPool.carry {P : Key} {p : Pool} (h : L.GoodPool S P p)
    (hlamports : (L.get p.vault).lamports ≤ (M.get p.vault).lamports)
    (howner : (M.get p.vault).owner = (L.get p.vault).owner)
    (hdata : (M.get p.vault).data = (L.get p.vault).data)
    (htally : ∀ measure, M.tally P measure = L.tally P measure) :
    M.GoodPool S P p where
  stands := h.stands
  vaultOwner := howner.trans h.vaultOwner
  vaultData := hdata.trans h.vaultData
  openBets := h.openBets.trans (htally _).symm
  lockedStakes := h.lockedStakes.trans (htally _).symm
  refunded := h.refunded
  backed := Nat.le_trans h.backed (UInt64.le_iff_toNat_le.1 hlamports)

/-- The program reads the same records where its own accounts keep their data
and no others are added. -/
theorem Ledger.stored?_of_same {α : Type} (r : Record α)
    (hown : ∀ k, (M.get k).owner = Key.game → (L.get k).owner = Key.game)
    (hsame : ∀ k, (L.get k).owner = Key.game →
      (M.get k).content = (L.get k).content) (k : Key) :
    (M.get k).stored? r = (L.get k).stored? r := by
  by_cases hk : (L.get k).owner = Key.game
  · exact Account.stored?_congr (hsame k hk) r
  · rw [Account.stored?_of_owner_ne hk,
      Account.stored?_of_owner_ne fun h => hk (hown k h)]

theorem Store.Outside.content {accounts : Store}
    (h : L.accounts.Outside S accounts) {k : Key}
    (hk : (L.get k).owner = Key.game ∨ Derived S k) :
    Ledger.content { L with accounts } k = L.content k := by
  obtain ⟨lamports, _, hget⟩ := h.gift k hk
  show (accounts.get k).content = (L.accounts.get k).content
  rw [hget]
  rfl

/-- Other programs change no record of this one. -/
theorem Store.Outside.stored? {accounts : Store}
    (h : L.accounts.Outside S accounts) {α : Type} (r : Record α) (k : Key) :
    (Ledger.get { L with accounts } k).stored? r = (L.get k).stored? r :=
  Ledger.stored?_of_same (M := { L with accounts }) r h.owned
    (fun _ hk => h.content (.inl hk)) k

/-- Soundness looks at the program's accounts and at the vaults, and asks of the
clock and of the vaults' lamports only that they have not gone back. -/
theorem Sound.of_same (hL : Sound S L) (hslot : L.slot ≤ M.slot)
    (hown : ∀ k, (M.get k).owner = Key.game → (L.get k).owner = Key.game)
    (hsame : ∀ k, (L.get k).owner = Key.game ∨ Derived S k →
      (L.get k).lamports ≤ (M.get k).lamports
        ∧ (M.get k).owner = (L.get k).owner
        ∧ (M.get k).data = (L.get k).data) : Sound S M := by
  have hcontent : ∀ k, (L.get k).owner = Key.game →
      (M.get k).content = (L.get k).content := by
    intro k hk
    obtain ⟨_, howner, hdata⟩ := hsame k (.inl hk)
    exact Prod.ext howner hdata
  have hpool : ∀ k, M.pool? k = L.pool? k :=
    Ledger.stored?_of_same Pool.record hown hcontent
  have hbet : ∀ k, M.bet? k = L.bet? k :=
    Ledger.stored?_of_same Bet.record hown hcontent
  have htally : ∀ P measure, M.tally P measure = L.tally P measure := by
    intro P measure
    rw [Ledger.tally_eq_sum, Ledger.tally_eq_sum]
    exact Ledger.sum_congr (Ledger.tallyIn_of_none rfl) fun k =>
      Ledger.tallyIn_congr (hbet k) P measure
  refine ⟨fun k hk => ?_, fun P p hp => ?_, fun B b hb => ?_⟩
  · obtain ⟨_, _, hdata⟩ := hsame k (.inl (hown k hk))
    rw [hdata]
    exact hL.stored k (hown k hk)
  · rw [hpool] at hp
    have hgood := hL.pool P p hp
    obtain ⟨hlamports, howner, hdata⟩ :=
      hsame p.vault (.inr hgood.stands.vault.derived)
    exact hgood.carry hlamports howner hdata (htally P)
  · rw [hbet] at hb
    obtain ⟨⟨p, hp, hstands⟩, hb⟩ := hL.bet B b hb
    exact ⟨⟨p, (hpool _).trans hp, hstands⟩, UInt64.le_trans hb hslot⟩

end HouseDice
