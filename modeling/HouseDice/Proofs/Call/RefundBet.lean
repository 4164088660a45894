import HouseDice.Proofs.Call.Closing

/-!
# What a refund does

A refund that goes well was asked for by the player of an open bet, after the
bet's time was over, and pays exactly the stake. The way back matters as much:
in a sound ledger nothing but the clock decides. Every account is what its
record says, the counters can let go of the stake because they count it, the
total of refunds stays below the total of wagers, and the vault holds the stake
because it holds all that is locked.
-/

namespace HouseDice

open Address

variable {S : Set Purpose} {L M : Ledger} {c : Call} {x : Seats} {b : Bet}
  {p q : Pool}

/-! ## A refund that went well -/

/-- The ledger `M` is `L` after the player of a bet has taken the stake back. -/
structure Ledger.Refunds (L : Ledger) (c : Call) (x : Seats) (b : Bet)
    (p q : Pool) (M : Ledger) : Prop where
  seated : c.Seated .refundBet x
  holds : L.Holds x b p
  counted : p.after (Pool.refund b L.slot) = .ok (b.amount, q)
  closes : L.Closes x q b.amount M

theorem Ledger.Refunds.signed (h : L.Refunds c x b p q M) :
    c.rights.signs x.player :=
  h.seated.signed

theorem Pool.releases_of_refund {slot owed : UInt64}
    (h : p.after (Pool.refund b slot) = .ok (owed, q)) :
    Pool.Releases b.amount p q := by
  obtain ⟨_, _, openBets, lockedStakes, totalRefunded, hopen, hlocked,
    hrefunded, rfl⟩ := Pool.after_refund_eq_ok_iff.1 h
  exact ⟨rfl, rfl, rfl, rfl, hopen, hlocked, rfl, Nat.le_of_eq hrefunded⟩

theorem Call.refunds_of_ok (hS : Apart S) (hL : Sound S L)
    (hprogram : c.program = Key.game) {e : Effects}
    (h : c.refundBet L.slot L.get = .ok e) : ∃ x b p q,
      L.Refunds c x b p q (L.commit (c.accounts.map (·.key)) e.view)
        ∧ e.event = .betRefunded x.bet x.player b.amount L.slot := by
  simp only [refundBet, bind_eq_ok_iff, takeSigner_eq_ok_iff, take_eq_ok_iff,
    takeSystemProgram_eq_ok_iff, mayWrite_eq_ok_iff, Table.check_eq_ok_iff,
    OpenBet.check_eq_ok_iff, View.load_eq_ok_iff, ruled, mapError_eq_ok_iff,
    exists_const, Prod.exists] at h
  obtain ⟨player, ⟨hplayer, hsigned⟩, house, hhouse, pool, hpool, p, hp, vault,
    hvault, bet, hbet, b, hb, hsystem, hwplayer,
    ⟨_, hwpool, hphouse, hpvault, _, hwvault⟩, ⟨_, hwbet, hbplayer, hbpool, _⟩,
    owed, q, hcount, w, hpay, hclose⟩ := h
  let x : Seats := ⟨house, player, pool, vault, bet⟩
  have hholds : L.Holds x b p := ⟨hb, hp, hbplayer, hbpool, hphouse, hpvault⟩
  have howed : owed = b.amount := (Pool.after_refund_eq_ok_iff.1 hcount).2.1
  subst howed
  have hnamed : c.Names .refundBet x := by
    simp [Names, places, Seats.key, x, hplayer, hhouse, hpool, hvault, hbet,
      hsystem]
  obtain ⟨_, _, _, _, left, sum, hleft, hsum, rfl⟩ :=
    (Table.pay_eq_ok_iff (hholds.stand hL).player_ne_vault.symm).1 hpay
  have hseated : c.Seated .refundBet x :=
    ⟨hprogram, hnamed,
      by simp [places, Seats.key, x, hsigned, hwplayer, hwpool, hwvault, hwbet]⟩
  refine ⟨x, b, p, q, ⟨hseated, hholds, hcount, ?_⟩, ?_⟩
  · exact closes_of_effects hS hL hholds (hnamed.mem_seats (by simp))
      hleft hsum rfl hclose
  · obtain ⟨_, _, rfl⟩ := Effects.close_eq_ok_iff.1 hclose
    show Event.betRefunded bet b.player b.amount L.slot = _
    rw [hbplayer]

theorem Ledger.Refunds.stepsTo (hL : Sound S L) (h : L.Refunds c x b p q M) :
    L.StepsTo S x p q M :=
  h.closes.stepsTo hL h.holds (Pool.releases_of_refund h.counted)

theorem Ledger.Refunds.sound (hS : Apart S) (hL : Sound S L)
    (h : L.Refunds c x b p q M) :
    Sound S M := by
  refine hL.closes hS h.holds (Pool.releases_of_refund h.counted) ?_ h.closes
  have hbacked := (h.holds.goodPool hL).backed
  rw [h.holds.vault] at hbacked
  omega

/-! ## The way back -/

/-- With the right accounts a refund comes to what the pool says. -/
theorem Call.refundBet_eq (hL : Sound S L) (hc : c.Seated .refundBet x)
    (h : L.Holds x b p) :
    c.refundBet L.slot L.get = (do
      let (amount, state) ← ruled (p.after (Pool.refund b L.slot))
      let v ← Table.pay ⟨x.house, x.pool, x.vault, p⟩ c L.get x.player amount
      let effects : Effects := {
        view := v.save Pool.record x.pool state
        event := .betRefunded x.bet b.player amount L.slot
        log := [] }
      effects.close x.bet x.player) := by
  have hkey : c.key? 0 = some x.player ∧ c.key? 1 = some x.house
      ∧ c.key? 2 = some x.pool
      ∧ c.key? 3 = some x.vault ∧ c.key? 4 = some x.bet
      ∧ c.key? 5 = some Key.system := by
    simpa [Names, places, Seats.key] using hc.named
  have hsigned : c.rights.signs x.player :=
    (hc.rights ⟨.player, true, true⟩ (by simp [places])).1 rfl
  have hwrites := hc.writes (by simp)
  obtain ⟨hplayer, hhouse, hpool, hvault, hbet, hsystem⟩ := hkey
  have hprogram : c.takeSystemProgram 5 = .ok () :=
    takeSystemProgram_eq_ok_iff.2 hsystem
  have hwritable : c.mayWrite x.player .player = .ok () :=
    mayWrite_eq_ok_iff.2 (hwrites x.player (by simp))
  simp only [refundBet, takeSigner_eq_ok_iff.2 ⟨hplayer, hsigned⟩,
    take_eq_ok_iff.2 hhouse, take_eq_ok_iff.2 hpool, take_eq_ok_iff.2 hvault,
    take_eq_ok_iff.2 hbet, hprogram, hwritable, h.load_pool, h.load_bet,
    h.table_check hL hwrites, h.bet_check hL hwrites, ok_bind]

/-- Too early, the pool refuses and nothing else is to blame. -/
theorem Call.refundBet_of_error (hL : Sound S L) (hc : c.Seated .refundBet x)
    (h : L.Holds x b p) {f : GameError}
    (hf : p.after (Pool.refund b L.slot) = .error f) :
    c.refundBet L.slot L.get = .error (.game f none) := by
  rw [refundBet_eq hL hc h, hf]
  rfl

/-- What the pool grants is paid. -/
theorem Call.refundBet_of_ok (hS : Apart S) (hL : Sound S L)
    (hc : c.Seated .refundBet x) (h : L.Holds x b p)
    (htotal : L.total < UInt64.size)
    (hq : p.after (Pool.refund b L.slot) = .ok (b.amount, q)) :
    ∃ e, c.refundBet L.slot L.get = .ok e := by
  have hx := h.stand hL
  have hwrites := hc.writes (by simp)
  have hgood := h.goodPool hL
  have hvaultData := hgood.vaultData
  have hvaultOwner := hgood.vaultOwner
  rw [h.vault] at hvaultData hvaultOwner
  have hcovers : b.amount.toNat ≤ (L.get x.vault).lamports.toNat := by
    have hbacked := hgood.backed
    rw [h.vault] at hbacked
    have hcounted := (h.counted hL).2
    omega
  obtain ⟨left, sum, purse, hleft, hsum, hpurse⟩ :=
    h.balances hS hL htotal hcovers
  have hpay : Table.pay ⟨x.house, x.pool, x.vault, p⟩ c L.get x.player b.amount
      = .ok _ :=
    (Table.pay_eq_ok_iff hx.player_ne_vault.symm).2
      ⟨hwrites _ (by simp), hwrites _ (by simp), hvaultData, .inl hvaultOwner,
        left, sum, hleft, hsum, rfl⟩
  have hruled : ruled (.ok (b.amount, q)) = .ok (b.amount, q) := rfl
  rw [refundBet_eq hL hc h, hq, hruled]
  simp only [ok_bind, hpay]
  refine ⟨_, Effects.close_eq_ok_iff.2 ⟨purse, ?_, rfl⟩⟩
  show purse.toNat = (L.paidView x left sum q x.player).lamports.toNat
    + (L.paidView x left sum q x.bet).lamports.toNat
  rw [Ledger.paidView_player hx, Ledger.paidView_bet hS hx]
  exact hpurse

/-- With the right accounts, what the pool grants is refunded. -/
theorem Ledger.Holds.refunds (hS : Apart S) (hL : Sound S L) (h : L.Holds x b p)
    (htotal : L.total < UInt64.size) (hc : c.Seated .refundBet x)
    (hdecode : Request.decode c.data = .ok .refundBet)
    (hq : p.after (Pool.refund b L.slot) = .ok (b.amount, q)) :
    ∃ M, L.Refunds c x b p q M
      ∧ (L.run c).result
        = .ok (M, .betRefunded x.bet x.player b.amount L.slot) := by
  obtain ⟨e, he⟩ := Call.refundBet_of_ok hS hL hc h htotal hq
  obtain ⟨x', b', p', q', hstep, hevent⟩ :=
    Call.refunds_of_ok hS hL hc.program he
  have heffects : c.effects L.slot L.get = .ok e :=
    Call.effects_eq_ok_iff.2 ⟨hc.program, _, hdecode, he⟩
  cases hstep.seated.named.unique (by simp) hc.named
  cases hstep.holds.bet.symm.trans h.bet
  cases hstep.holds.pool.symm.trans h.pool
  cases hstep.counted.symm.trans hq
  refine ⟨_, hstep, ?_⟩
  rw [Ledger.run_of_ok heffects, hevent]

end HouseDice
