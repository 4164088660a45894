import HouseDice.Proofs.Pristine
import HouseDice.Proofs.Solvency
import Mathlib.Algebra.Order.BigOperators.Group.List
import Mathlib.Algebra.Order.Group.Nat

/-!
# When a bet is taken

Six questions decide whether a bet is taken: is no bet open under its seed, is
the stake some lamport and the roll in range, can the pool pay the highest win
out of what its vault holds above the floor and all stakes before this one goes
in, can the total of wagers count the stake, and can the player pay it together
with what the new account lacks of its rent. All the program's other checks are
answered by the ledger being sound, by the accounts being the right ones, and by
the chain, which lets nobody but the program use the bet's address.

The two other counters need no question of their own. Every open bet has staked
something, so a pool has no more bets than lamports locked, and all of those lie
in its vault.
-/

namespace HouseDice

open Address

variable {S : Set Purpose} {L M : Ledger} {c : Call} {x : Seats} {p q : Pool}
  {P B player : Key} {seed : Seed} {amount : UInt64} {roll bump : UInt8}
  {event : Event}

/-! ## What the pool says -/

theorem Ledger.tally_mono (L : Ledger) (P : Key) {measure measure' : Bet → Nat}
    (h : ∀ b ∈ L.betsOn P, measure b ≤ measure' b) :
    L.tally P measure ≤ L.tally P measure' :=
  List.sum_le_sum h

/-- Every open bet locks a lamport at least. -/
theorem Sound.openBets_le_lockedStakes (hL : Sound S L)
    (hp : L.pool? P = some p) :
    p.openBets.toNat ≤ p.lockedStakes.toNat := by
  rw [(hL.pool P p hp).openBets, (hL.pool P p hp).lockedStakes]
  refine L.tally_mono P fun b hb => ?_
  obtain ⟨B, hB, _⟩ := Ledger.mem_betsOn_iff.1 hb
  obtain ⟨_, _, hstands⟩ := (hL.bet B b hB).pool
  exact (Game.validate_eq_ok_iff_toNat.1 hstands.valid).1

/-- A pool asks three questions, if all of its stakes lie in the vault and the
new one fits in. -/
theorem Pool.accepts_iff {vault : UInt64}
    (hbacked : Call.rentFloor.toNat + p.lockedStakes.toNat ≤ vault.toNat)
    (hopen : p.openBets.toNat ≤ p.lockedStakes.toNat)
    (hfits : vault.toNat + amount.toNat < UInt64.size) :
    (∃ q, p.after (Pool.accept vault Call.rentFloor amount roll) = .ok ((), q))
      ↔ (0 < amount.toNat ∧ 1 ≤ roll.toNat ∧ roll.toNat ≤ 99)
        ∧ amount.toNat * 9850 / (100 * roll.toNat)
          ≤ vault.toNat - 890880 - p.lockedStakes.toNat
        ∧ p.totalWagered.toNat + amount.toNat < UInt64.size := by
  obtain ⟨havailable, hspendable⟩ := Pool.toNat_spendable hbacked
  rw [Call.toNat_rentFloor] at havailable
  constructor
  · intro h
    obtain ⟨q, hq⟩ := h
    obtain ⟨hvalid, ⟨most, hmost, hcovered⟩, _, _, totalWagered, _, _, hwagered,
      _⟩ := Pool.after_accept_eq_ok_iff.1 hq
    obtain ⟨_, hprice⟩ := Game.maxPayout_eq_ok_iff.1 hmost
    rw [UInt64.le_iff_toNat_le] at hcovered
    have hlt := totalWagered.toNat_lt_size
    exact ⟨Game.validate_eq_ok_iff_toNat.1 hvalid, by omega, by omega⟩
  · intro h
    obtain ⟨hvalid, hcovered, hwageredFits⟩ := h
    have hlt := vault.toNat_lt_size
    have hpriceFits : amount.toNat * 9850 / (100 * roll.toNat)
      < UInt64.size := by omega
    have hopenFits : p.openBets.toNat + 1 < UInt64.size := by omega
    have hlockedFits : p.lockedStakes.toNat + amount.toNat < UInt64.size := by
      omega
    obtain ⟨most, hmost⟩ := Word.exists_toNat_eq hpriceFits
    obtain ⟨openBets, hopenBets⟩ := Word.exists_toNat_eq hopenFits
    obtain ⟨lockedStakes, hlocked⟩ := Word.exists_toNat_eq hlockedFits
    obtain ⟨totalWagered, hwagered⟩ := Word.exists_toNat_eq hwageredFits
    refine ⟨_, Pool.after_accept_eq_ok_iff.2
      ⟨Game.validate_eq_ok_iff_toNat.2 hvalid,
        ⟨most, Game.maxPayout_eq_ok_iff.2 ⟨hvalid.2.1, hmost⟩, ?_⟩, openBets,
        lockedStakes, totalWagered, hopenBets, hlocked, hwagered, rfl⟩⟩
    rw [UInt64.le_iff_toNat_le]
    omega

/-! ## What the call says -/

/-- The call asks for this bet, under the seats that a stored pool and the seed
determine. -/
structure Ledger.Bids (S : Set Purpose) (L : Ledger) (c : Call) (x : Seats)
    (seed : Seed) (amount : UInt64) (roll bump : UInt8) (p : Pool) : Prop where
  lawful : c.Lawful S
  decoded : Request.decode c.data = .ok (.placeBet seed amount roll)
  seated : c.Seated .placeBet x
  pool : L.pool? x.pool = some p
  house : p.house = x.house
  vault : p.vault = x.vault
  find : find? (.bet x.vault seed) = some (x.bet, bump)

namespace Ledger.Bids

/-- The seats are where they should be, and the player is at none of the
program's addresses. -/
theorem stand (h : L.Bids S c x seed amount roll bump p) (hL : Sound S L) :
    x.Stand S seed where
  pool := h.house ▸ (hL.pool x.pool p h.pool).stands.pool
  vault := h.house ▸ h.vault ▸ (hL.pool x.pool p h.pool).stands.vault
  bet := by
    have hkey : c.key? 3 = some x.vault :=
      h.seated.named (⟨.vault, false, true⟩, 3) (by simp [Call.places])
    obtain ⟨a, ha, hvault⟩ := Option.map_eq_some_iff.1 hkey
    refine ⟨h.lawful.opens _ ?_, bump, h.find⟩
    simp [Call.opens, h.decoded, ha, hvault]
  player := (h.lawful.signer _ h.seated.signed).2

/-- If the call goes well, it has placed the bet that it asked for. -/
theorem stakes (h : L.Bids S c x seed amount roll bump p) (hS : Apart S)
    (hL : Sound S L) (hrun : (L.run c).result = .ok (M, event)) :
    ∃ q, L.Stakes S c x seed amount roll bump p q M
      ∧ event = .betPlaced x.bet x.player x.pool seed amount roll L.slot := by
  obtain ⟨_, _, q, hstakes, hevent⟩ :=
    (change_of_run hS hL h.lawful hrun).stakes_of_seated h.decoded h.seated
  cases hstakes.find.symm.trans h.find
  cases hstakes.pool.symm.trans h.pool
  exact ⟨q, hstakes, hevent⟩

theorem accepted_iff (h : L.Bids S c x seed amount roll bump p) (hS : Apart S)
    (hL : Sound S L) (hclear : L.Clear S) (htotal : L.total < UInt64.size)
    (hplayer : (L.get x.player).owner = Key.system
      ∧ (L.get x.player).data = []) :
    (∃ r, (L.run c).result = .ok r) ↔ L.bet? x.bet = none
      ∧ (0 < amount.toNat ∧ 1 ≤ roll.toNat ∧ roll.toNat ≤ 99)
      ∧ amount.toNat * 9850 / (100 * roll.toNat)
        ≤ (L.get x.vault).lamports.toNat - 890880 - p.lockedStakes.toNat
      ∧ p.totalWagered.toNat + amount.toNat < UInt64.size
      ∧ amount.toNat + (1628640 - (L.get x.bet).lamports.toNat)
        ≤ (L.get x.player).lamports.toNat := by
  have hx := h.stand hL
  have hbacked := (hL.pool x.pool p h.pool).backed
  rw [h.vault] at hbacked
  have hopen := hL.openBets_le_lockedStakes h.pool
  have hrent := Ledger.toNat_rentMinimum_bet
  constructor
  · intro hrun
    obtain ⟨⟨M, event⟩, hrun⟩ := hrun
    obtain ⟨q, hstakes, _⟩ := h.stakes hS hL hrun
    obtain ⟨purse, vault, rent, hvault, hbet, hpurse, _⟩ := hstakes.moved
    have hfits := vault.toNat_lt_size
    rw [hvault] at hfits
    obtain ⟨hvalid, hcovered, hwagered⟩ :=
      (Pool.accepts_iff hbacked hopen hfits).1 ⟨q, hstakes.counted⟩
    exact ⟨hstakes.blank Bet.record, hvalid, hcovered, hwagered, by omega⟩
  · intro hgoes
    obtain ⟨hnone, hvalid, hcovered, hwagered, henough⟩ := hgoes
    -- The player has the stake besides what the vault holds, so the two go into
    -- one word.
    have hkeys : [x.player, x.vault].Nodup := by simp [hx.player_ne_vault]
    have hle := L.lamports_le_total hkeys
    simp only [List.map_cons, List.map_nil, List.sum_cons, List.sum_nil] at hle
    have hfits : (L.get x.vault).lamports.toNat + amount.toNat
      < UInt64.size := by omega
    obtain ⟨q, hq⟩ :=
      (Pool.accepts_iff hbacked hopen hfits).2 ⟨hvalid, hcovered, hwagered⟩
    obtain ⟨M, _, hrun⟩ :=
      stakes_of_accepted hS hL h.lawful h.decoded h.seated hx h.pool h.house
        h.vault h.find (hclear.free hS hL hx.bet hnone) hplayer hq hfits
        (by omega)
    exact ⟨_, hrun⟩

/-- What is left if the call goes well: the bet as it was asked for, a pool that
counts it, and lamports moved from the player to the vault and to the bet's
account. -/
theorem leaves (h : L.Bids S c x seed amount roll bump p) (hS : Apart S)
    (hL : Sound S L) (hrun : (L.run c).result = .ok (M, event)) :
    event = .betPlaced x.bet x.player x.pool seed amount roll L.slot
      ∧ M.bet? x.bet = some ⟨x.player, x.pool, seed, L.slot, roll, amount, bump⟩
      ∧ ∃ openBets lockedStakes totalWagered : UInt64,
        openBets.toNat = p.openBets.toNat + 1
          ∧ lockedStakes.toNat = p.lockedStakes.toNat + amount.toNat
          ∧ totalWagered.toNat = p.totalWagered.toNat + amount.toNat
          ∧ L.BetMoves M x
            (-(amount.toNat + max 0 (1628640 - L.lamports x.bet))) amount.toNat
            (max 0 (1628640 - L.lamports x.bet))
            { p with openBets, lockedStakes, totalWagered }
            (Key.game, Bet.record.encode ⟨x.player, x.pool, seed, L.slot, roll,
              amount, bump⟩) := by
  obtain ⟨q, hstakes, hevent⟩ := h.stakes hS hL hrun
  have hlacks : L.lacks x.bet Bet.record.size
      = max 0 (1628640 - L.lamports x.bet) := by
    rw [lacks, toNat_rentMinimum_bet]
    rfl
  have hmoves := hstakes.moves hS
  rw [hlacks] at hmoves
  obtain ⟨_, _, openBets, lockedStakes, totalWagered, hopen, hlocked, hwagered,
    rfl⟩ := Pool.after_accept_eq_ok_iff.1 hstakes.counted
  exact ⟨hevent, hstakes.bet?_bet hS, openBets, lockedStakes, totalWagered,
    hopen, hlocked, hwagered, hmoves⟩

end Ledger.Bids

/-- In every ledger reached from one whose addresses were free, a player's bet
with the right accounts is taken exactly if none is open under its seed, its
terms are valid, the pool can pay and count it, and the player has the stake and
what the new account lacks of its rent. What is taken is stored as it was asked
for, and paid. -/
theorem Ledger.FromPristine.bet_accepted (hS : Apart S) (hL : L.FromPristine S)
    (htotal : L.total < UInt64.size) (h : L.Bids S c x seed amount roll bump p)
    (hplayer : (L.get x.player).owner = Key.system
      ∧ (L.get x.player).data = []) :
    find? (.pool p.house) = some (x.pool, p.bump)
      ∧ find? (.vault p.house) = some (x.vault, p.vaultBump)
      ∧ 890880 + p.lockedStakes.toNat ≤ (L.get x.vault).lamports.toNat
      ∧ ((∃ r, (L.run c).result = .ok r) ↔ L.bet? x.bet = none
        ∧ (0 < amount.toNat ∧ 1 ≤ roll.toNat ∧ roll.toNat ≤ 99)
        ∧ amount.toNat * 9850 / (100 * roll.toNat)
          ≤ (L.get x.vault).lamports.toNat - 890880 - p.lockedStakes.toNat
        ∧ p.totalWagered.toNat + amount.toNat < UInt64.size
        ∧ amount.toNat + (1628640 - (L.get x.bet).lamports.toNat)
          ≤ (L.get x.player).lamports.toNat)
      ∧ ∀ M event, (L.run c).result = .ok (M, event) →
        event = .betPlaced x.bet x.player x.pool seed amount roll L.slot
          ∧ M.bet? x.bet
            = some ⟨x.player, x.pool, seed, L.slot, roll, amount, bump⟩
          ∧ ∃ openBets lockedStakes totalWagered : UInt64,
            openBets.toNat = p.openBets.toNat + 1
              ∧ lockedStakes.toNat = p.lockedStakes.toNat + amount.toNat
              ∧ totalWagered.toNat = p.totalWagered.toNat + amount.toNat
              ∧ L.BetMoves M x
                (-(amount.toNat + max 0 (1628640 - L.lamports x.bet)))
                amount.toNat (max 0 (1628640 - L.lamports x.bet))
                { p with openBets, lockedStakes, totalWagered }
                (Key.game,
                  Bet.record.encode ⟨x.player, x.pool, seed, L.slot, roll,
                    amount, bump⟩) := by
  have hsound := hL.reachable.sound hS
  have hgood := hsound.pool x.pool p h.pool
  have hbacked := hgood.backed
  have hvaultFind := hgood.stands.vaultFind
  rw [Call.toNat_rentFloor, h.vault] at hbacked
  rw [h.vault] at hvaultFind
  exact ⟨hgood.stands.find, hvaultFind, hbacked,
    h.accepted_iff hS hsound (hL.clear hS) htotal hplayer, fun M event hrun =>
      h.leaves hS hsound hrun⟩

/-- The bet of the first run is taken, and its account had nothing of its
rent. -/
theorem bet_accepted_first_run : ∃ M event,
    (Sample.opened.run Sample.betting).result = .ok (M, event)
      ∧ M.bet? Sample.bet
        = some ⟨Sample.player, Sample.pool, 0, 5, 50, 1000000, 255⟩
      ∧ M.lamports Sample.player
        = Sample.opened.lamports Sample.player - 2628640 := by
  have hopened : Sample.opened.FromPristine (Known Sample.addresses) :=
    Sample.start_pristine.fromPristine.step
      (a := .call Sample.opening) Sample.opening_lawful
  have htotal : Sample.opened.total < UInt64.size := by decide +kernel
  have hp : Sample.opened.pool? Sample.pool
      = some ⟨Sample.house, 255, Sample.vault, 255, 5, 100000000, 0, 0, 0, 0, 0,
        1⟩ := by
    decide +kernel
  have hbids : Sample.opened.Bids (Known Sample.addresses) Sample.betting
      Sample.seats 0 1000000 50 255
      ⟨Sample.house, 255, Sample.vault, 255, 5, 100000000, 0, 0, 0, 0, 0, 1⟩ :=
    ⟨Sample.betting_lawful, Request.decode_encode _,
      Call.seated_of_accounts [] rfl rfl, hp, rfl, rfl, by decide +kernel⟩
  obtain ⟨_, _, _, haccepted, hleaves⟩ :=
    hopened.bet_accepted Sample.apart htotal hbids (by decide +kernel)
  obtain ⟨⟨M, event⟩, hrun⟩ := haccepted.2 (by decide +kernel)
  obtain ⟨_, hbet, _, _, _, _, _, _, hmoves⟩ := hleaves M event hrun
  have hempty : Sample.opened.lamports Sample.bet = 0 := by decide +kernel
  have hslot : Sample.opened.slot = 5 := by decide +kernel
  have hpaid := hmoves.lamports Sample.seats.player
  rw [hslot] at hbet
  rw [Seats.shift, if_pos rfl, show Sample.seats.bet = Sample.bet from rfl,
    hempty] at hpaid
  exact ⟨M, event, hrun, hbet, hpaid⟩

end HouseDice
