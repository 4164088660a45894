import HouseDice.Proofs.Call.Opening
import HouseDice.Proofs.Call.Seated
import HouseDice.Proofs.Counters

/-!
# Closing a bet

A bet ends by settlement or by refund, and the two differ in who may ask for it
and in how much leaves the vault. What happens to the accounts is the same:
the vault pays the player, the counters let go of the stake, and the bet's
account is emptied into the player's. `Closes` says so of two ledgers, and a
ledger that was sound stays so as long as the vault can pay without touching
the stakes of the other bets.
-/

namespace HouseDice

open Address

variable {S : Set Purpose} {L M : Ledger} {c : Call} {x : Seats} {b : Bet}
  {p q : Pool} {paid : UInt64}

/-! ## The step -/

/-- The ledger `M` is `L` without the bet, after `paid` has left the vault for
the player and the pool has become `q`. -/
def Ledger.Closes (L : Ledger) (x : Seats) (q : Pool) (paid : UInt64)
    (M : Ledger) : Prop :=
  ∃ purse vault : UInt64,
    (L.get x.vault).lamports.toNat = vault.toNat + paid.toNat
    ∧ purse.toNat = (L.get x.player).lamports.toNat + paid.toNat
      + (L.get x.bet).lamports.toNat
    ∧ M = L.betStep x purse vault q .blank

/-- What both ways to close a bet do to the counters. -/
structure Pool.Releases (amount : UInt64) (p q : Pool) : Prop where
  house : q.house = p.house
  bump : q.bump = p.bump
  vault : q.vault = p.vault
  vaultBump : q.vaultBump = p.vaultBump
  openBets : p.openBets.toNat = q.openBets.toNat + 1
  lockedStakes : p.lockedStakes.toNat = q.lockedStakes.toNat + amount.toNat
  totalWagered : q.totalWagered = p.totalWagered
  totalRefunded : q.totalRefunded.toNat ≤ p.totalRefunded.toNat + amount.toNat

theorem Ledger.Holds.steps (h : L.Holds x b p) (hL : Sound S L)
    (hq : Pool.Releases b.amount p q) : L.Steps S x p q .blank where
  seats := ⟨b.seed, h.stand hL⟩
  pool := h.pool
  house := hq.house
  bump := hq.bump
  vault := hq.vault
  vaultBump := hq.vaultBump
  before := Account.pool?_of_bet? h.bet
  after := rfl
  kept := rfl

theorem Ledger.Closes.stepsTo (hM : L.Closes x q paid M) (hL : Sound S L)
    (h : L.Holds x b p) (hq : Pool.Releases b.amount p q) :
    L.StepsTo S x p q M := by
  obtain ⟨purse, vault, _, _, hM⟩ := hM
  exact ⟨purse, vault, _, h.steps hL hq, hM⟩

theorem Ledger.Closes.bet?_bet (hM : L.Closes x q paid M) (hS : Apart S)
    (hL : Sound S L) (h : L.Holds x b p) (hq : Pool.Releases b.amount p q) :
    M.bet? x.bet = none := by
  obtain ⟨purse, vault, _, _, rfl⟩ := hM
  exact (h.steps hL hq).bet?_bet hS

/-- Closing a bet keeps the ledger sound, if the vault pays no more than what is
spendable and the stake that it lets go. -/
theorem Sound.closes (hS : Apart S) (hL : Sound S L) (h : L.Holds x b p)
    (hq : Pool.Releases b.amount p q)
    (hpaid : Call.rentFloor.toNat + p.lockedStakes.toNat + paid.toNat
      ≤ (L.get x.vault).lamports.toNat + b.amount.toNat)
    (hM : L.Closes x q paid M) : Sound S M := by
  obtain ⟨purse, vault, hvault, _, rfl⟩ := hM
  have hrefunded := (h.goodPool hL).refunded
  have hlocked := hq.lockedStakes
  have hopen := hq.openBets
  have htotal := hq.totalRefunded
  have hold : ∀ measure, Ledger.tallyIn x.pool measure (L.get x.bet)
      = measure b := by
    intro measure
    rw [Ledger.tallyIn_of_bet? h.bet, if_pos h.betPool]
  refine hL.betStep hS (h.steps hL hq) ?_
  exact {
    openBets := by
      rw [hold, Ledger.tallyIn_of_none rfl]
      omega
    lockedStakes := by
      rw [hold, Ledger.tallyIn_of_none rfl]
      omega
    refunded := by
      rw [hq.totalWagered]
      omega
    backed := by omega
    stored := fun howner => absurd howner Key.system_ne_game
    stands := fun b' hb' => by
      have hnone : (Account.blank).bet? = none := rfl
      rw [hnone] at hb'
      cases hb' }

/-- Whatever the vault can pay the player can take, together with what the bet's
account holds, because the three are different accounts. -/
theorem Ledger.Holds.balances (hS : Apart S) (hL : Sound S L)
    (h : L.Holds x b p) (htotal : L.total < UInt64.size)
    (hpaid : paid.toNat ≤ (L.get x.vault).lamports.toNat) :
    ∃ left sum purse : UInt64,
      (L.get x.vault).lamports.toNat = left.toNat + paid.toNat
        ∧ sum.toNat = (L.get x.player).lamports.toNat + paid.toNat
        ∧ purse.toNat = sum.toNat + (L.get x.bet).lamports.toNat := by
  have hx := h.stand hL
  have hkeys : [x.player, x.vault, x.bet].Nodup := by
    simp [hx.player_ne_vault, hx.player_ne_bet, hx.vault_ne_bet hS]
  have hle := L.lamports_le_total hkeys
  simp only [List.map_cons, List.map_nil, List.sum_cons, List.sum_nil] at hle
  have hleftFits : (L.get x.vault).lamports.toNat - paid.toNat
    < UInt64.size := by omega
  have hsumFits : (L.get x.player).lamports.toNat + paid.toNat
    < UInt64.size := by omega
  obtain ⟨left, hleft⟩ := Word.exists_toNat_eq hleftFits
  obtain ⟨sum, hsum⟩ := Word.exists_toNat_eq hsumFits
  have hpurseFits : sum.toNat + (L.get x.bet).lamports.toNat < UInt64.size := by
    omega
  obtain ⟨purse, hpurse⟩ := Word.exists_toNat_eq hpurseFits
  exact ⟨left, sum, purse, by omega, hsum, hpurse⟩

/-! ## From the call to the step -/

/-- What a call sees once the vault has paid and the pool has counted, with the
bet's account still there. -/
def Ledger.paidView (L : Ledger) (x : Seats) (left sum : UInt64)
    (q : Pool) : View :=
  View.save ((View.put L.get x.vault
    { L.get x.vault with lamports := left }).put x.player
    { L.get x.player with lamports := sum }) Pool.record x.pool q

/-- Where nothing was paid, only the pool has changed. -/
theorem Ledger.paidView_same (L : Ledger) (x : Seats) (q : Pool) :
    L.paidView x (L.get x.vault).lamports (L.get x.player).lamports q
      = View.save L.get Pool.record x.pool q := by
  have hvault : View.put L.get x.vault (L.get x.vault) = L.get :=
    View.put_get _ _
  have hplayer : View.put L.get x.player (L.get x.player) = L.get :=
    View.put_get _ _
  rw [paidView]
  exact congrArg (fun v => View.save v Pool.record x.pool q)
    ((congrArg (fun v => View.put v x.player (L.get x.player))
      hvault).trans hplayer)

section

variable {seed : Seed} {left sum : UInt64}

theorem Ledger.paidView_player (hx : x.Stand S seed) :
    L.paidView x left sum q x.player
      = { L.get x.player with lamports := sum } := by
  rw [paidView, View.save, View.put_of_ne _ hx.player_ne_pool, View.put_self]

theorem Ledger.paidView_vault (hS : Apart S) (hx : x.Stand S seed) :
    L.paidView x left sum q x.vault
      = { L.get x.vault with lamports := left } := by
  rw [paidView, View.save, View.put_of_ne _ (hx.pool_ne_vault hS).symm,
    View.put_of_ne _ hx.player_ne_vault.symm, View.put_self]

theorem Ledger.paidView_bet (hS : Apart S) (hx : x.Stand S seed) :
    L.paidView x left sum q x.bet = L.get x.bet := by
  rw [paidView, View.save, View.put_of_ne _ (hx.pool_ne_bet hS).symm,
    View.put_of_ne _ hx.player_ne_bet.symm,
    View.put_of_ne _ (hx.vault_ne_bet hS).symm]

theorem Ledger.paidView_pool (hS : Apart S) (hx : x.Stand S seed)
    (hsize : (L.get x.pool).data.length = Pool.record.size) :
    L.paidView x left sum q x.pool
      = { L.get x.pool with data := Pool.record.encode q } := by
  rw [paidView, View.save, View.put_self,
    View.put_of_ne _ hx.player_ne_pool.symm,
    View.put_of_ne _ (hx.pool_ne_vault hS),
    Record.overwrite_of_length_eq _ hsize]

theorem Ledger.paidView_of_ne {k : Key} (hplayer : k ≠ x.player)
    (hpool : k ≠ x.pool) (hvault : k ≠ x.vault) :
    L.paidView x left sum q k = L.get k := by
  rw [paidView, View.save, View.put_of_ne _ hpool, View.put_of_ne _ hplayer,
    View.put_of_ne _ hvault]

end

namespace Call

/-- What a vault pays to somebody else. -/
theorem Table.pay_eq_ok_iff {t : Table} {v w : View} {target : Key}
    {amount : UInt64} (hne : t.vault ≠ target) :
    t.pay c v target amount = .ok w ↔
    c.rights.writes t.vault ∧ c.rights.writes target
      ∧ (v t.vault).data = [] ∧ ((v t.vault).owner = Key.system ∨ amount = 0)
      ∧ ∃ left sum : UInt64,
        (v t.vault).lamports.toNat = left.toNat + amount.toNat
        ∧ sum.toNat = (v target).lamports.toNat + amount.toNat
        ∧ w = (v.put t.vault { v t.vault with lamports := left }).put target
          { v target with lamports := sum } := by
  simp only [pay, granted, mapError_eq_ok_iff,
    SystemProgram.transfer_eq_ok_iff hne, Rights.signs_withSigner_self,
    Rights.writes_withSigner, true_and]

/-- The end of a call that closes a bet. -/
theorem closes_of_effects (hS : Apart S) (hL : Sound S L) (h : L.Holds x b p)
    {keys : List Key}
    (hkeys : ∀ k ∈ [x.player, x.pool, x.vault, x.bet], k ∈ keys)
    {left sum : UInt64}
    (hleft : (L.get x.vault).lamports.toNat = left.toNat + paid.toNat)
    (hsum : sum.toNat = (L.get x.player).lamports.toNat + paid.toNat)
    {e e' : Effects} (hview : e.view = L.paidView x left sum q)
    (he : e.close x.bet x.player = .ok e') :
    L.Closes x q paid (L.commit keys e'.view) := by
  have hx := h.stand hL
  obtain ⟨purse, hpurse, heq⟩ := Effects.close_eq_ok_iff.1 he
  rw [hview, Ledger.paidView_player hx, Ledger.paidView_bet hS hx] at hpurse
  have hlast : e'.view = ((L.paidView x left sum q).put x.player
      { L.get x.player with lamports := purse }).put x.bet .blank := by
    rw [heq, hview, Ledger.paidView_player hx]
  rw [hlast]
  refine ⟨purse, left, hleft, ?_,
    Ledger.commit_eq_setAll (hx.nodup hS) hkeys ?_ ?_⟩
  · rw [hpurse, ← hsum]
  · intro k a hk
    simp only [List.mem_cons, List.not_mem_nil, or_false, Prod.mk.injEq] at hk
    rcases hk with ⟨rfl, rfl⟩ | ⟨rfl, rfl⟩ | ⟨rfl, rfl⟩ | ⟨rfl, rfl⟩
    · rw [View.put_of_ne _ hx.player_ne_bet, View.put_self]
    · rw [View.put_of_ne _ (hx.pool_ne_bet hS),
        View.put_of_ne _ hx.player_ne_pool.symm,
        Ledger.paidView_pool hS hx (hL.length_of_pool? h.pool)]
    · rw [View.put_of_ne _ (hx.vault_ne_bet hS),
        View.put_of_ne _ hx.player_ne_vault.symm, Ledger.paidView_vault hS hx]
    · exact View.put_self _ _ _
  · intro k hk
    simp only [List.map_cons, List.map_nil, List.mem_cons, List.not_mem_nil,
      or_false, not_or] at hk
    obtain ⟨hplayer, hpool, hvault, hbet⟩ := hk
    rw [View.put_of_ne _ hbet, View.put_of_ne _ hplayer,
      Ledger.paidView_of_ne hplayer hpool hvault]

end Call

end HouseDice
