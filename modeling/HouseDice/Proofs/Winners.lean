import HouseDice.Proofs.Outflow

/-!
# Who is a winner

A bet is won if the outcome is not above its roll. The program does not ask that
when it pays; it asks whether there is something to pay. The two questions have
the same answer as long as a winning bet is worth a whole lamport, and what is
not a whole lamport the house keeps.

The worst price is that of the highest roll, where a winner gets back a little
less than the stake, and the smallest stake is one lamport. One lamport on 99 is
worth nothing, and it is the only bet of which this is true: one lamport on any
lower roll is still worth a lamport, and so are two lamports on 99.
-/

namespace HouseDice

open Address

variable {S : Set Purpose} {L M : Ledger} {c : Call}

namespace Game

variable {amount : UInt64} {roll : UInt8} {s : Signature} {t : Settlement}

/-- What is paid is the price of the roll in whole lamports, if the outcome is
not above the roll. -/
theorem toNat_payout_of_settle (h : settle amount roll s = .ok t) :
    t.payout.toNat
      = if t.outcome ≤ roll then amount.toNat * 9850 / (100 * roll.toNat)
        else 0 := by
  obtain ⟨houtcome, hpaid⟩ := settle_eq_ok_iff.1 h
  rw [← houtcome] at hpaid
  by_cases hlost : roll < t.outcome
  · rw [payout, if_pos hlost, Except.ok.injEq] at hpaid
    rw [if_neg (UInt8.not_le.2 hlost), ← hpaid, UInt64.toNat_zero]
  · rw [payout_of_win hlost] at hpaid
    rw [if_pos (UInt8.not_lt.1 hlost)]
    exact (maxPayout_eq_ok_iff.1 hpaid).2

/-- Every bet that the rules accept is worth a lamport to its winner, but for
one lamport on 99. -/
theorem price_pos_iff (hvalid : validate amount roll = .ok ()) :
    0 < amount.toNat * 9850 / (100 * roll.toNat) ↔
    ¬ (amount = 1 ∧ roll = 99) := by
  obtain ⟨hamount, hlow, hhigh⟩ := validate_eq_ok_iff_toNat.1 hvalid
  have hone : amount = 1 ↔ amount.toNat = 1 := UInt64.toNat_inj.symm
  have htop : roll = 99 ↔ roll.toNat = 99 := UInt8.toNat_inj.symm
  rw [Nat.div_pos_iff, hone, htop]
  omega

/-- The winners of such bets are those who are paid. -/
theorem won_iff_of_worth (hvalid : validate amount roll = .ok ())
    (h : settle amount roll s = .ok t) (hworth : ¬ (amount = 1 ∧ roll = 99)) :
    t.won ↔ t.outcome ≤ roll := by
  have hpaid := toNat_payout_of_settle h
  have hprice := (price_pos_iff hvalid).2 hworth
  rw [Settlement.won, decide_eq_true_eq, Word.pos_iff, hpaid]
  split
  next hwins => exact iff_of_true hprice hwins
  next hloses => exact iff_of_false (Nat.lt_irrefl 0) hloses

theorem payout_of_worthless (h : settle amount roll s = .ok t)
    (hamount : amount = 1) (hroll : roll = 99) : t.payout = 0 := by
  have hpaid := toNat_payout_of_settle h
  subst hamount hroll
  refine UInt64.toNat_inj.1 (hpaid.trans ?_)
  split
  next => rfl
  next => rfl

end Game

/-- What a settlement reports, it has done: the bet was open on terms that the
rules accept, and the vault has paid its player what is reported. -/
theorem Sound.settlement_reported (hS : Apart S) (hL : Sound S L)
    (hc : c.Lawful S) {B player : Key} {roll outcome : UInt8} {won : Bool}
    {paid : UInt64}
    (hrun : (L.run c).result
      = .ok (M, .betResolved B player roll outcome won paid)) :
    ∃ (b : Bet) (p : Pool) (s : Signature) (t : Game.Settlement),
      L.PaysFor M p.house p.vault B b paid
        ∧ Game.validate b.amount b.roll = .ok ()
        ∧ Game.settle b.amount b.roll s = .ok t ∧ player = b.player
        ∧ roll = b.roll
        ∧ outcome = t.outcome ∧ won = t.won ∧ paid = t.payout := by
  have hchange := Ledger.change_of_run hS hL hc hrun
  generalize hevent : Event.betResolved B player roll outcome won paid
    = event at hchange
  cases hchange with
  | founds _ _ => cases hevent
  | stakes _ _ => cases hevent
  | refunds _ _ => cases hevent
  | resolves decoded step =>
    cases hevent
    have hpays :=
      step.closes.paysFor hS hL step.holds
        (Pool.releases_of_settle step.counted)
    rw [← step.holds.house, ← step.holds.vault] at hpays
    obtain ⟨hsettle, _⟩ := Pool.after_settle_eq_ok_iff.1 step.counted
    exact ⟨_, _, _, _, hpays, (step.holds.stands hL).valid, hsettle,
      step.holds.player.symm, rfl, rfl, rfl, rfl⟩

/-- A winner is reported and paid as a winner. By the rules alone: whatever
signature settles it, a bet that they accept is said to be won if and only if
the outcome is not above its roll, unless it is one lamport on 99; and that is
owed nothing, because less than a lamport is not paid. In the ledger: what a
settlement reports as paid is the price of the open bet's roll if the outcome is
not above it, and nothing otherwise, and the vault has paid it to the player.
Unless the bet is one lamport on 99, it is reported as won if and only if the
outcome is not above its roll, and the vault has less if and only if that is
so. -/
theorem winners_reported_and_paid :
    (∀ (amount : UInt64) (roll : UInt8) (s : Signature) (t : Game.Settlement),
      Game.validate amount roll = .ok () → Game.settle amount roll s = .ok t →
        (¬ (amount = 1 ∧ roll = 99) → (t.won ↔ t.outcome ≤ roll))
          ∧ (amount = 1 → roll = 99 → t.payout = 0))
    ∧ ∀ (S : Set Purpose) (L M : Ledger) (c : Call) (B player : Key)
        (roll outcome : UInt8) (won : Bool) (paid : UInt64),
      Apart S → L.Reachable S → c.Lawful S →
      (L.run c).result = .ok (M, .betResolved B player roll outcome won paid) →
        ∃ (b : Bet) (p : Pool), L.PaysFor M p.house p.vault B b paid
          ∧ player = b.player ∧ roll = b.roll
          ∧ paid.toNat
            = (if outcome ≤ roll
              then b.amount.toNat * 9850 / (100 * b.roll.toNat) else 0)
          ∧ (¬ (b.amount = 1 ∧ b.roll = 99) → (won ↔ outcome ≤ roll)
            ∧ ((M.get p.vault).lamports < (L.get p.vault).lamports ↔
              outcome ≤ roll)) := by
  constructor
  · intro amount roll s t hvalid hsettle
    exact ⟨Game.won_iff_of_worth hvalid hsettle,
      Game.payout_of_worthless hsettle⟩
  · intro S L M c B player roll outcome won paid hS hL hc hrun
    obtain ⟨b, p, s, t, hpays, hvalid, hsettle, rfl, rfl, rfl, rfl, rfl⟩ :=
      (hL.sound hS).settlement_reported hS hc hrun
    have hpaid := Game.toNat_payout_of_settle hsettle
    refine ⟨b, p, hpays, rfl, rfl, hpaid, fun hworth => ?_⟩
    have hwon := Game.won_iff_of_worth hvalid hsettle hworth
    refine ⟨hwon, ?_⟩
    have hleaves := hpays.leaves
    rw [← hwon, Game.Settlement.won, decide_eq_true_eq, UInt64.lt_iff_toNat_lt,
      UInt64.lt_iff_toNat_lt, UInt64.toNat_zero]
    omega

/-- Whoever stakes one lamport on 99 and draws 26 is within the roll, and is not
a winner. -/
theorem winner_not_reported :
    ¬ ∀ (amount : UInt64) (roll : UInt8) (s : Signature) (t : Game.Settlement),
    Game.validate amount roll = .ok () →
      Game.settle amount roll s = .ok t → (t.won ↔ t.outcome ≤ roll) := by
  intro hclaim
  have hvalid : Game.validate 1 99 = .ok () := by decide
  have hsettle : Game.settle 1 99 (Block.replicate 64 3) = .ok ⟨26, 0⟩ := by
    decide +kernel
  have hwon :=
    (hclaim 1 99 (Block.replicate 64 3) ⟨26, 0⟩ hvalid hsettle).2 (by decide)
  exact absurd hwon (by decide)

/-- The house settles the bet of the first run, and its player has won. -/
theorem winners_reported_and_paid_first_run :
    (∀ t, Game.settle 1000000 50 (Block.replicate 64 3) = .ok t →
      (t.won ↔ t.outcome ≤ 50))
      ∧ ∃ (M : Ledger) (b : Bet) (p : Pool),
        Sample.ledger.PaysFor M p.house p.vault Sample.bet b 1970000
          ∧ (M.get p.vault).lamports
            < (Sample.ledger.get p.vault).lamports := by
  obtain ⟨hrules, hledger⟩ := winners_reported_and_paid
  have hvalid : Game.validate 1000000 50 = .ok () := by decide
  have hrun : (Sample.ledger.run Sample.settling).result.toOption.map Prod.snd
      = some (.betResolved Sample.bet Sample.player 50 26 true 1970000) := by
    decide +kernel
  obtain ⟨⟨M, event⟩, hresult, hevent⟩ := Option.map_eq_some_iff.1 hrun
  cases hevent
  obtain ⟨b, p, hpays, _, hroll, _, hworth⟩ :=
    hledger _ _ _ _ _ _ _ _ _ _ Sample.apart
      Sample.reachable Sample.settling_lawful (toOption_eq_some_iff.1 hresult)
  have hne : ¬ (b.amount = 1 ∧ b.roll = 99) :=
    fun h => absurd (hroll.trans h.2) (by decide)
  refine ⟨fun t ht => (hrules _ _ _ t hvalid ht).1 (by decide),
    M, b, p, hpays, ?_⟩
  exact (hworth hne).2.2 (by decide)

end HouseDice
